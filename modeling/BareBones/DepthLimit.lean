import BareBones.Numeral

set_option autoImplicit false

namespace BareBones

-- A blank limit stands where an integer was due: the first frame that needs its leave breaks the machine down.
inductive DepthLimit where
  | atMost (count : Int)
  | blank
deriving DecidableEq, Repr

namespace DepthLimit

def refusedBy (location : Location) : Except Breakdown Text → Failure
  | .ok written => .fault (.at location (.depthLimit written))
  | .error _ => .breakdown .longLimit

def refusal (count : Int) (location : Location) : Failure :=
  refusedBy location (Numeral.write count)

def allow (limit : DepthLimit) (living : Nat) (location : Location) : Except Failure Unit :=
  match limit with
  | .atMost count => if count ≤ living then .error (refusal count location) else .ok ()
  | .blank => .error (.breakdown .blankLimit)

theorem allow_atMost (count : Int) (living : Nat) (location : Location) :
    (atMost count).allow living location = .ok () ↔ (living : Int) < count := by
  simp only [allow]
  split <;> simp <;> omega

theorem allow_full {count : Int} {living : Nat} (location : Location) (full : count ≤ living) :
    (atMost count).allow living location = .error (refusal count location) :=
  if_pos full

theorem allow_refused {count : Int} {living : Nat} {location : Location} {failure : Failure}
    (refused : (atMost count).allow living location = .error failure) :
    count ≤ living ∧ failure = refusal count location := by
  simp only [allow] at refused
  split at refused
  · rename_i full
    exact ⟨full, (Except.error.inj refused).symm⟩
  · cases refused

theorem refusal_written {count : Int} (short : Numeral.isWritable count = true) (location : Location) :
    refusal count location = .fault (.at location (.depthLimit (Text.ofInt count))) := by
  unfold refusal
  rw [Numeral.write_short short, refusedBy]

theorem refusal_long {count : Int} (long : Numeral.isWritable count = false) (location : Location) :
    refusal count location = .breakdown .longLimit := by
  unfold refusal
  rw [Numeral.write_long long, refusedBy]

theorem refusal_cases (count : Int) (location : Location) :
    refusal count location = .fault (.at location (.depthLimit (Text.ofInt count))) ∨
      refusal count location = .breakdown .longLimit := by
  cases short : Numeral.isWritable count with
  | true => exact .inl (refusal_written short location)
  | false => exact .inr (refusal_long short location)

end DepthLimit
end BareBones
