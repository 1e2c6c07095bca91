import BareBones.Bindings
import BareBones.Store

set_option autoImplicit false

namespace BareBones

structure Entry (ι : Type) where
  step : Nat
  frame : Option ι
  location : Option Location
  label : Text
  snapshot : Option Snapshot
deriving DecidableEq, Repr

structure Journal (ι : Type) where
  capacity : Nat
  steps : Nat
  recent : List (Entry ι)
  latest : Bindings ι (Entry ι)
deriving DecidableEq, Repr

namespace Journal

variable {ι : Type} [DecidableEq ι]

omit [DecidableEq ι] in
def empty (capacity : Nat) : Journal ι := ⟨capacity, 0, [], []⟩

def capacityBound : Int := 0x8000000000000000

omit [DecidableEq ι] in
-- An empty journal of a capacity that must not be negative. An integer that fits no word is refused first.
def ofCapacity (capacity : Int) : Except Breakdown (Journal ι) :=
  if capacity < -capacityBound || capacityBound ≤ capacity then .error .vastHistory
  else if capacity < 0 then .error .negativeHistory
  else .ok (empty capacity.toNat)

def last? (journal : Journal ι) : Option (Entry ι) :=
  journal.recent.head?

def kept (journal : Journal ι) : List (Entry ι) :=
  journal.recent.reverse

def latestOf? (journal : Journal ι) (frame : ι) : Option (Entry ι) :=
  journal.latest.get? frame

def nextEntry (journal : Journal ι) (frame : Option ι) (location : Option Location) (label : Text)
    (snapshot : Option Snapshot) : Entry ι :=
  ⟨journal.steps + 1, frame, location, label, snapshot⟩

def record (journal : Journal ι) (frame : Option ι) (location : Option Location) (label : Text)
    (snapshot : Option Snapshot) : Journal ι :=
  let entry := journal.nextEntry frame location label snapshot
  { journal with
    steps := journal.steps + 1
    recent := (entry :: journal.recent).take journal.capacity
    latest := match frame with
      | some live => journal.latest.put live entry
      | none => journal.latest }

def forget (journal : Journal ι) (frame : ι) : Journal ι :=
  { journal with latest := journal.latest.erase frame }

end Journal
end BareBones
