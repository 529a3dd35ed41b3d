import RelativeTime.Session
import RelativeTime.Step
import RelativeTime.Calendar.Iso
import RelativeTime.Proofs.RoundTrip
import RelativeTime.Proofs.Describability
import RelativeTime.Proofs.ExactOrder
import RelativeTime.Proofs.Residue
import RelativeTime.Proofs.Landing
import RelativeTime.Proofs.FaultOrder
import RelativeTime.Proofs.HonouredSettings
import RelativeTime.Proofs.ZoneIndependence
import RelativeTime.Proofs.Strictness
import RelativeTime.Proofs.MonthShifts
import RelativeTime.Proofs.NearTargets
import RelativeTime.Proofs.CanonicalText
import RelativeTime.Proofs.UnitBoundaries
import RelativeTime.Proofs.Commutation
import RelativeTime.Proofs.OrderPreservation
import RelativeTime.Proofs.PrecisionText
import RelativeTime.Proofs.Absorption
import RelativeTime.Proofs.MixedRadix
import RelativeTime.Proofs.FixedShifts
import RelativeTime.Proofs.SettingsFaults
import RelativeTime.Proofs.TokenNormalization
