import BareBones.Machine.Step

set_option autoImplicit false

namespace BareBones.Machine

variable {σ : Type}

abbrev Ending (σ : Type) := Except Failure Unit × Machine σ

def drive (settings : Settings σ) : Nat → Machine σ → Option (Ending σ)
  | 0, _ => none
  | fuel + 1, machine =>
      match step settings machine with
      | (.ok true, after) => drive settings fuel after
      | (.ok false, after) => some (.ok (), after)
      | (.error failure, after) => some (.error failure, after)

def enterProgram (settings : Settings σ) (machine : Machine σ) : Machine σ :=
  let path := [settings.program]
  { machine with store := machine.store.enter path }.push settings.program path settings.arguments
    none [] none

def load (settings : Settings σ) (source : Text) (machine : Machine σ) : Machine σ :=
  machine.setCursor (Line.ofSource settings.filename source)

def runSource (settings : Settings σ) (fuel : Nat) (source : Text) (machine : Machine σ) :
    Option (Ending σ) :=
  drive settings fuel (machine.load settings source)

-- The fault by which a run fails: any failure but a fault is one of the machinery, placed at the newest
-- entry of the journal. The fault is numbered with the newest step that is kept.
def faultOf (machine : Machine σ) (failure : Failure) : Fault :=
  let fault := match failure with
    | .fault fault => fault
    | other => ⟨.internal other.message, machine.lastLocation?, none⟩
  match machine.journal.last? with
  | some entry => { fault with step := some entry.step }
  | none => fault

-- Ends a run that has failed. A failure of an observer who is told of the fault takes its place.
def fail (settings : Settings σ) (failure : Failure) (machine : Machine σ) : Ending σ :=
  let fault := machine.faultOf failure
  match announce settings (.onError fault) machine with
  | (.ok (), after) => (.error (.fault fault), after)
  | refused => refused

def succeed (settings : Settings σ) (machine : Machine σ) : Ending σ :=
  match announce settings (.programEnd 0) machine with
  | (.ok (), after) => (.ok (), after.pop)
  | refused => refused

def start (settings : Settings σ) (machine : Machine σ) : Ending σ :=
  announce settings (.programStart [settings.program]) (machine.enterProgram settings)

def finish (settings : Settings σ) : Ending σ → Ending σ
  | (.ok (), last) => succeed settings last
  | (.error failure, last) => fail settings failure last

def run (settings : Settings σ) (fuel : Nat) (source : Text) (machine : Machine σ) :
    Option (Ending σ) :=
  match start settings machine with
  | (.error failure, after) => some (.error failure, after)
  | (.ok (), after) => (runSource settings fuel source after).map (finish settings)

end BareBones.Machine
