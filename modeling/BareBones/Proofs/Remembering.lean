import BareBones.Journal
import Mathlib.Data.List.Basic
import Mathlib.Data.List.Induction

set_option autoImplicit false

namespace BareBones.Journal

structure Record (ι : Type) where
  frame : Option ι
  location : Option Location
  label : Text
  snapshot : Option Snapshot

def Record.entry {ι : Type} (made : Record ι) (step : Nat) : Entry ι :=
  ⟨step, made.frame, made.location, made.label, made.snapshot⟩

inductive Move (ι : Type) where
  | record (made : Record ι)
  | forget (frame : ι)

def Move.frame? {ι : Type} : Move ι → Option ι
  | .record made => made.frame
  | .forget frame => some frame

section

variable {ι : Type}

def records (moves : List (Move ι)) : List (Record ι) :=
  moves.filterMap fun
    | .record made => some made
    | .forget _ => none

def recorded (moves : List (Move ι)) : List (Entry ι) :=
  ((records moves).zipIdx 1).map fun (made, step) => made.entry step

def Newest (moves : List (Move ι)) (frame : ι) (entry : Entry ι) : Prop :=
  ∃ front made back, moves = front ++ .record made :: back ∧ made.frame = some frame ∧
    (∀ move ∈ back, move.frame? ≠ some frame) ∧ entry = made.entry ((records front).length + 1)

variable (moves : List (Move ι)) (made : Record ι) (lost : ι)

theorem records_record : records (moves ++ [.record made]) = records moves ++ [made] := by
  simp [records]

theorem records_forget : records (moves ++ [.forget lost]) = records moves := by
  simp [records]

theorem recorded_length : (recorded moves).length = (records moves).length := by
  simp [recorded]

theorem recorded_record : recorded (moves ++ [.record made]) =
    recorded moves ++ [made.entry ((records moves).length + 1)] := by
  simp [recorded, records_record, List.zipIdx_append, Nat.add_comm]

theorem recorded_forget : recorded (moves ++ [.forget lost]) = recorded moves := by
  rw [recorded, records_forget, recorded]

theorem recorded_numbers : (recorded moves).map (·.step) = List.range' 1 (records moves).length := by
  rw [recorded, List.map_map, ← List.zipIdx_map_snd 1 (records moves)]
  rfl

variable {moves made lost}

theorem concat_split {α : Type} {items front back : List α} {item last : α}
    (whole : items ++ [last] = front ++ item :: back) :
    (items = front ∧ last = item ∧ back = []) ∨
      ∃ between, items = front ++ item :: between ∧ back = between ++ [last] := by
  rcases List.eq_nil_or_concat back with rfl | ⟨between, ending, rfl⟩
  · obtain ⟨same, ended⟩ := List.append_inj' whole rfl
    exact .inl ⟨same, List.cons.inj ended |>.1, rfl⟩
  · rw [List.concat_eq_append, ← List.cons_append, ← List.append_assoc] at whole
    obtain ⟨same, ended⟩ := List.append_inj' whole rfl
    cases ended
    exact .inr ⟨between, same, List.concat_eq_append⟩

theorem newest_other {move : Move ι} {frame : ι} {entry : Entry ι} (other : move.frame? ≠ some frame) :
    Newest (moves ++ [move]) frame entry ↔ Newest moves frame entry := by
  constructor
  · rintro ⟨front, made, back, whole, about, untouched, rfl⟩
    rcases concat_split whole with ⟨_, rfl, _⟩ | ⟨between, rfl, rfl⟩
    · exact absurd about other
    · exact ⟨front, made, between, rfl, about, fun found member => untouched found (by simp [member]), rfl⟩
  · rintro ⟨front, made, back, rfl, about, untouched, rfl⟩
    refine ⟨front, made, back ++ [move], by simp, about, fun found member => ?_, rfl⟩
    rcases List.mem_append.mp member with behind | last
    · exact untouched found behind
    · exact List.mem_singleton.mp last ▸ other

theorem newest_record_same {frame : ι} {entry : Entry ι} (about : made.frame = some frame) :
    Newest (moves ++ [.record made]) frame entry ↔ made.entry ((records moves).length + 1) = entry := by
  constructor
  · rintro ⟨front, found, back, whole, _, untouched, rfl⟩
    rcases concat_split whole with ⟨rfl, same, _⟩ | ⟨between, _, rfl⟩
    · cases same
      rfl
    · have last := untouched (.record made) (by simp)
      exact absurd about last
  · rintro rfl
    exact ⟨moves, made, [], rfl, about, nofun, rfl⟩

theorem newest_forget_same {frame : ι} {entry : Entry ι} : ¬Newest (moves ++ [.forget frame]) frame entry := by
  rintro ⟨front, found, back, whole, _, untouched, rfl⟩
  rcases concat_split whole with ⟨_, impossible, _⟩ | ⟨between, _, rfl⟩
  · cases impossible
  · exact untouched (.forget frame) (by simp) rfl

theorem take_again {α : Type} (first : α) (rest : List α) (count : Nat) :
    (first :: rest.take count).take count = (first :: rest).take count := by
  cases count with
  | zero => rfl
  | succ less => rw [List.take_succ_cons, List.take_succ_cons, List.take_take, Nat.min_eq_left (Nat.le_succ less)]

end

variable {ι : Type} [DecidableEq ι]

def apply (journal : Journal ι) : Move ι → Journal ι
  | .record made => journal.record made.frame made.location made.label made.snapshot
  | .forget frame => journal.forget frame

def applyAll (journal : Journal ι) (moves : List (Move ι)) : Journal ι := moves.foldl apply journal

theorem latest_record_same (journal : Journal ι) (frame : ι) (location : Option Location) (label : Text)
    (snapshot : Option Snapshot) :
    (journal.record (some frame) location label snapshot).latestOf? frame =
      some (journal.nextEntry (some frame) location label snapshot) :=
  Bindings.get_put_same frame _ journal.latest

theorem latest_record_other (journal : Journal ι) {frame other : ι} (location : Option Location)
    (label : Text) (snapshot : Option Snapshot) (different : frame ≠ other) :
    (journal.record (some frame) location label snapshot).latestOf? other = journal.latestOf? other :=
  Bindings.get_put_other frame other _ journal.latest different

theorem latest_forget_other (journal : Journal ι) {frame other : ι} (different : frame ≠ other) :
    (journal.forget frame).latestOf? other = journal.latestOf? other :=
  Bindings.get_erase_other frame other journal.latest different

theorem latest_record (journal : Journal ι) (frame : Option ι) (query : ι) (location : Option Location) (label : Text)
    (snapshot : Option Snapshot) :
    (journal.record frame location label snapshot).latestOf? query =
      if frame = some query then some (journal.nextEntry frame location label snapshot)
      else journal.latestOf? query := by
  cases frame with
  | none => rfl
  | some live =>
      by_cases same : live = query
      · subst same
        rw [if_pos rfl, latest_record_same]
      · rw [if_neg (mt Option.some.inj same), latest_record_other _ _ _ _ same]

theorem latest_forget (journal : Journal ι) (frame query : ι) :
    (journal.forget frame).latestOf? query = if frame = query then none else journal.latestOf? query := by
  by_cases same : frame = query
  · subst same
    rw [if_pos rfl]
    exact Bindings.get_erase_same frame journal.latest
  · rw [if_neg same, latest_forget_other journal same]

structure Holds (capacity : Nat) (moves : List (Move ι)) (journal : Journal ι) : Prop where
  room : journal.capacity = capacity
  steps : journal.steps = (records moves).length
  recent : journal.recent = (recorded moves).reverse.take capacity
  latest : ∀ frame entry, journal.latestOf? frame = some entry ↔ Newest moves frame entry

variable {capacity : Nat} {moves : List (Move ι)} {journal : Journal ι}

theorem holds_record (made : Record ι) (holds : Holds capacity moves journal) :
    Holds capacity (moves ++ [.record made]) (journal.apply (.record made)) := by
  have next : journal.nextEntry made.frame made.location made.label made.snapshot =
      made.entry ((records moves).length + 1) := by rw [nextEntry, holds.steps, Record.entry]
  refine ⟨holds.room, ?_, ?_, fun frame entry => ?_⟩
  · rw [records_record, List.length_append]
    exact congrArg (· + 1) holds.steps
  · rw [recorded_record, List.reverse_append]
    change List.take journal.capacity (journal.nextEntry _ _ _ _ :: journal.recent) = _
    rw [next, holds.room, holds.recent, take_again]
    rfl
  · rw [apply, latest_record, next]
    by_cases about : made.frame = some frame
    · rw [if_pos about, newest_record_same about, Option.some_inj]
    · have other : (Move.record made).frame? ≠ some frame := about
      rw [if_neg about, newest_other other, holds.latest]

theorem holds_forget (lost : ι) (holds : Holds capacity moves journal) :
    Holds capacity (moves ++ [.forget lost]) (journal.apply (.forget lost)) := by
  refine ⟨holds.room, ?_, ?_, fun frame entry => ?_⟩
  · rw [records_forget]
    exact holds.steps
  · rw [recorded_forget]
    exact holds.recent
  · rw [apply, latest_forget]
    by_cases same : lost = frame
    · subst same
      rw [if_pos rfl]
      exact ⟨nofun, fun newest => absurd newest newest_forget_same⟩
    · rw [if_neg same, newest_other (by simpa [Move.frame?] using same), holds.latest]

theorem holds_all (capacity : Nat) (moves : List (Move ι)) :
    Holds capacity moves ((empty capacity : Journal ι).applyAll moves) := by
  induction moves using List.reverseRecOn with
  | nil =>
      refine ⟨rfl, rfl, List.take_nil.symm, fun frame entry => ⟨nofun, ?_⟩⟩
      rintro ⟨front, made, back, whole, _⟩
      cases front <;> cases whole
  | append_singleton moves move ih =>
      rw [applyAll, List.foldl_append]
      cases move with
      | record made => exact holds_record made ih
      | forget lost => exact holds_forget lost ih

structure Remembers (capacity : Nat) (moves : List (Move ι)) (journal : Journal ι) : Prop where
  steps : journal.steps = (records moves).length
  kept : journal.kept = (recorded moves).drop (journal.steps - min capacity journal.steps)
  numbers : journal.kept.map (·.step) =
    List.range' (journal.steps - min capacity journal.steps + 1) (min capacity journal.steps)
  last : journal.last? = if capacity = 0 then none else (recorded moves).getLast?
  latest : ∀ frame entry, journal.latestOf? frame = some entry ↔ Newest moves frame entry

theorem holds_kept (holds : Holds capacity moves journal) :
    journal.kept = (recorded moves).drop (journal.steps - min capacity journal.steps) := by
  have behind : journal.steps - min capacity journal.steps = (recorded moves).length - capacity := by
    rw [recorded_length, holds.steps]
    omega
  rw [kept, holds.recent, behind, List.take_reverse, List.reverse_reverse]

theorem holds_last (holds : Holds capacity moves journal) :
    journal.last? = if capacity = 0 then none else (recorded moves).getLast? := by
  rw [last?, holds.recent]
  cases capacity with
  | zero => rfl
  | succ room => simp [List.head?_take]

theorem holds_numbers (holds : Holds capacity moves journal) :
    journal.kept.map (·.step) =
      List.range' (journal.steps - min capacity journal.steps + 1) (min capacity journal.steps) := by
  have length : (records moves).length - (journal.steps - min capacity journal.steps) = min capacity journal.steps := by
    rw [holds.steps]
    omega
  rw [holds_kept holds, List.map_drop, recorded_numbers, List.drop_range', length, Nat.mul_one, Nat.add_comm]

-- Whatever is recorded and forgotten, the last entries are kept, as many as there is room for, and the
-- newest entry of each frame since it was last forgotten is known.
theorem moves_remembered (capacity : Nat) (moves : List (Move ι)) :
    (ofCapacity capacity : Except Breakdown (Journal ι)) =
        (if (capacity : Int) < capacityBound then .ok (empty capacity) else .error .vastHistory) ∧
      Remembers capacity moves ((empty capacity).applyAll moves) := by
  have holds := holds_all capacity moves
  refine ⟨?_, holds.steps, holds_kept holds, holds_numbers holds, holds_last holds, holds.latest⟩
  have low : ¬(capacity : Int) < -capacityBound := by
    unfold capacityBound
    omega
  unfold ofCapacity
  simp only [Bool.or_eq_true, decide_eq_true_eq]
  by_cases fits : (capacity : Int) < capacityBound
  · have inside : ¬((capacity : Int) < -capacityBound ∨ capacityBound ≤ (capacity : Int)) :=
      not_or.mpr ⟨low, Int.not_le.mpr fits⟩
    rw [if_neg inside, if_neg (by omega), if_pos fits]
    rfl
  · rw [if_pos (.inr (Int.not_lt.mp fits)), if_neg fits]

end BareBones.Journal
