import BareBones.Proofs.Decimal
import BareBones.Proofs.Layering
import BareBones.Proofs.Lockstep
import BareBones.Proofs.Refinement
import BareBones.Proofs.Refusal

set_option autoImplicit false

namespace BareBones

def Settings.limited {σ : Type} (settings : Settings σ) (limit : Int) : Settings σ :=
  { settings with maxDepth := .atMost limit }

theorem DepthLimit.refusal_limited (limit : Int) (location : Location) :
    ¬(refusal limit location).Unlimited := by
  cases refusal_cases limit location with
  | inl written =>
      rw [written]
      exact fun unlimited => unlimited rfl
  | inr long =>
      rw [long]
      exact fun unlimited => unlimited rfl

namespace Deed

variable {σ α : Type}

end Deed

namespace Machine

variable {σ : Type} {settings : Settings σ}

theorem limited_unobserved (limit : Int) (unobserved : settings.Unobserved) :
    (settings.limited limit).Unobserved := unobserved

def Ending.refusal? (ending : Ending σ) : Option (Cause × List Text) :=
  match ending.1 with
  | .error (.fault fault) => some (fault.cause, ending.2.output)
  | _ => none

end Machine
end BareBones
