/-
Reading shorthand texts.

`tokenize` finds the tokens behind the anchor of a text, `readToken` reads one token,
and `extract` reads them all. A strict reader refuses a text with stray characters.

## Design notes

`readToken` also takes tokens that no text contains: the number of a shift may be
missing, which means one, or be written in any way that `readInt?` takes, and what
stands between a slash and a unit does not count.
-/
import RelativeTime.Error
import RelativeTime.Operation.Pieces

namespace RelativeTime

/-- What follows the anchor of a text. -/
def body? : List Char → Option (List Char)
  | 'n' :: 'o' :: 'w' :: body => some body
  | _ => none

/-- The tokens of a text, in order. -/
def tokenize (text : String) (strict : Bool) : Result (List (List Char)) :=
  match body? text.toList with
  | none => .error (.missingAnchor text)
  | some body =>
    if strict ∧ straysIn body ≠ [] then
      .error (.strayText text (String.ofList (straysIn body)))
    else .ok (tokensIn body)

/-- The number that stands between the sign and the unit of a shift. -/
def readMagnitude (digits : List Char) : Result Nat :=
  if digits = [] then .ok 1
  else
    match readInt? digits with
    | none => .error .malformedNumber
    | some n => if n < 0 then .error (.negativeMagnitude (.int n)) else .ok n.toNat

/-- The unit with the code that ends a token. -/
def readUnit (code : Char) : Result TimeUnit :=
  match TimeUnit.ofCode? code with
  | some unit => .ok unit
  | none => .error (.unknownUnit (.text code.toString))

/-- The operation that a token stands for. -/
def readToken : List Char → Result Operation
  | [] => .error .emptyToken
  | '/' :: rest => do
    let unit ← readUnit (rest.getLastD '/')
    return .round unit
  | first :: rest =>
    match Sign.ofChar? first with
    | none => .error (.invalidSign (String.ofList (first :: rest)))
    | some sign => do
      let unit ← readUnit (rest.getLastD first)
      let magnitude ← readMagnitude rest.dropLast
      return .shift sign magnitude unit

/-- The operations of a text, in order. -/
def extract (text : String) (strict : Bool) : Result (List Operation) := do
  let tokens ← tokenize text strict
  tokens.mapM readToken

/-- The tokens of a text, which a strict reader refuses if it has stray characters. -/
def tokensOf (text strict : Value) : Result (List String) :=
  match text with
  | .text s => (tokenize s strict.truthy).map fun tokens => tokens.map String.ofList
  | _ => .error .missingPart

/-- The unit with a given code. -/
def unitOf (code : Value) : Result TimeUnit :=
  match code with
  | .text s =>
    match s.toList with
    | [c] => readUnit c
    | _ => .error (.unknownUnit code)
  | _ => .error (.unknownUnit code)

/-- The operation that a list of parts stands for: a sign or a slash, and the code of a
unit. Between a sign and a unit there can be no more parts, for they are no text that a
number could be read from. -/
def readParts : List Value → Result Operation
  | [] => .error .emptyToken
  | first :: rest =>
    match first with
    | .text "/" => (unitOf (rest.getLastD first)).map .round
    | .text "+" => shiftByOne .plus first rest
    | .text "-" => shiftByOne .minus first rest
    | _ => .error (.invalidFirstPart (first :: rest))
where
  shiftByOne (sign : Sign) (first : Value) (rest : List Value) : Result Operation := do
    let unit ← unitOf (rest.getLastD first)
    if rest.dropLast.isEmpty then return .shift sign 1 unit
    else .error .unsupported

/-- The operation that a token stands for. A record is looked up by place, and has no
entry there. -/
def operationOf (token : Value) : Result Operation :=
  match token with
  | .text s => readToken s.toList
  | .list parts => readParts parts
  | .record _ => .error (.missingEntry (.int 0))
  | _ => .error .unsupported

end RelativeTime
