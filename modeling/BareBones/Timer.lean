import BareBones.Binary64
import BareBones.Machine.State

set_option autoImplicit false

namespace BareBones.Timer

variable {σ : Type}

-- The time between two readings of a clock in seconds, in whole milliseconds. The difference and its
-- thousandfold are binary fractions, as the readings are; what is left after the point is dropped.
def milliseconds? (started finished : Rat) : Option Int := do
  let seconds ← Binary64.nearest? (finished - started)
  let thousandfold ← Binary64.nearest? (seconds * 1000)
  return thousandfold.num.tdiv thousandfold.den

def line (milliseconds : Int) : Text :=
  let seconds :=
    if 1000 < milliseconds then
      " (~".toList ++ Text.ofInt (milliseconds / 1000) ++ " second(s))".toList
    else []
  "Done in ".toList ++ Text.ofInt milliseconds ++ " milliseconds".toList ++ seconds

def handler (started finished : Rat) : Handler σ := fun _ machine =>
  match milliseconds? started finished with
  | some milliseconds => (.ok (), { machine with traced := line milliseconds :: machine.traced })
  | none => (.error (.breakdown .infiniteNumber), machine)

def registry (started finished : Rat) : Registry (Handler σ) :=
  Registry.empty.register .programEnd ⟨0, handler started finished⟩

end BareBones.Timer
