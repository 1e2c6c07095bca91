import BareBones.Proofs.AlikeStores
import BareBones.Proofs.Refinement

set_option autoImplicit false

namespace BareBones

structure Kindred {β : Type} (view : Entry Nat → β) (one other : World) : Prop where
  store : one.store.Alike other.store
  journal : one.journal.seen view = other.journal.seen view
  created : one.created = other.created
  written : one.written = other.written

namespace Deed

variable {σ β : Type} {view : Entry Nat → β} {settings : Settings σ}

def kinship (view : Entry Nat → β) : Bond :=
  ⟨Kindred view, fun _ => False⟩

theorem kindred_env {one other : World} (here : Activation) (kindred : Kindred view one other) :
    (here.env one).Alike (here.env other) :=
  ⟨kindred.store, rfl, rfl⟩

theorem record_kindred (terse : settings.verbose = false) (here : Activation) (statement : Statement) :
    Paired (kinship view) Eq (record settings here statement) (record settings here statement) := by
  unfold record
  rw [terse]
  refine paired_modify fun one other kindred => ?_
  refine ⟨kindred.store, Journal.record_seen (some here.id) kindred.journal ?_, kindred.created,
    kindred.written⟩
  unfold Journal.nextEntry
  rw [Journal.steps_seen kindred.journal]

theorem value_kindred (here : Activation) (location : Location) (name : Text) :
    Paired (kinship view) Value.Interchangeable (readVariable here location name)
      (readVariable here location name) := by
  intro one other kindred
  have fares := Env.value_alike (kindred_env here kindred) name
  change Pairs _ _ (placed location ((here.env one).value name), one)
    (placed location ((here.env other).value name), other)
  generalize (here.env one).value name = first, (here.env other).value name = second at fares
  cases fares with
  | answered agrees => exact .answered agrees kindred
  | failed failure => exact .failed kindred

theorem kindred_store {one other : World} (change : Store → Store)
    (kept : ∀ store counterpart : Store, store.Alike counterpart →
      (change store).Alike (change counterpart))
    (kindred : Kindred view one other) :
    Kindred view { one with store := change one.store } { other with store := change other.store } :=
  ⟨kept _ _ kindred.store, kindred.journal, kindred.created, kindred.written⟩

theorem kindred_bridge (terse : settings.verbose = false) :
    Bridge (kinship view) settings settings where
  record := record_kindred terse
  holds here predicate location := evaluate_paired here location _ fun _ _ kindred =>
    Env.test_alike (kindred_env here kindred) predicate
  expand here location format := evaluate_paired here location _ fun _ _ kindred =>
    Env.expand_from_alike (kindred_env here kindred) .plain format
  value := value_kindred
  assign here name value := paired_modify fun _ _ => kindred_store (·.write here.path name value)
    fun _ _ alike => Store.write_alike alike here.path name (.same value)
  define here name block := paired_modify fun _ _ => kindred_store (·.define here.path name block)
    fun _ _ alike => Store.define_alike alike here.path name block
  enter here label := paired_modify fun _ _ => kindred_store (·.enter (here.path ++ [label]))
    fun _ _ alike => Store.enter_alike alike _
  find here location name := find_paired here location name fun _ _ kindred =>
    Store.function_alike kindred.store here.path name
  spawn here location := spawn_paired settings settings here location rfl fun _ _ kindred =>
    ⟨kindred.created, kindred.store, kindred.journal, congrArg (· + 1) kindred.created, kindred.written⟩
  leave id := paired_modify fun _ _ kindred =>
    ⟨kindred.store, Journal.forget_seen id kindred.journal, kindred.created, kindred.written⟩

theorem kindred_emits (settings : Settings σ) (location : Location) :
    Emits (kinship view) settings settings location := fun _ => paired_modify fun _ _ kindred =>
  ⟨kindred.store, kindred.journal, kindred.created, congrArg (_ :: ·) kindred.written⟩

end Deed

namespace Machine

variable {σ β : Type} {view : Entry Nat → β} {settings : Settings σ}

theorem kindred_companions (unobserved : settings.Unobserved) (terse : settings.verbose = false) :
    Companions (Deed.kinship view) settings settings :=
  ⟨Deed.kindred_bridge terse, Deed.kindred_emits settings, unobserved_discreet unobserved,
    unobserved_discreet unobserved⟩

def glimpse (machine : Machine σ) : List Frame × Nat × Nat × List Text :=
  (machine.stack, machine.journal.steps, machine.created, machine.output)

def course (settings : Settings σ) : Nat → Machine σ → List (List Frame × Nat × Nat × List Text)
  | 0, _ => []
  | fuel + 1, machine =>
      machine.glimpse ::
        match step settings machine with
        | (.ok true, after) => course settings fuel after
        | _ => []

theorem kindred_glimpse (one other : Machine σ) (same : one.stack = other.stack)
    (kindred : Kindred view one.world other.world) : one.glimpse = other.glimpse := by
  have steps : one.journal.steps = other.journal.steps := Journal.steps_seen kindred.journal
  have created : one.created = other.created := kindred.created
  have written : one.written = other.written := kindred.written
  unfold glimpse output
  rw [same, steps, created, written]

theorem kindred_course (unobserved : settings.Unobserved) (terse : settings.verbose = false)
    (fuel : Nat) (one other : Machine σ) (same : one.stack = other.stack)
    (kindred : Kindred view one.world other.world) :
    course settings fuel one = course settings fuel other := by
  induction fuel generalizing one other with
  | zero => rfl
  | succ fuel ih =>
      have together := companions_step (kindred_companions unobserved terse) one other same kindred
      rw [course, course, kindred_glimpse one other same kindred]
      congr 1
      generalize step settings one = done, step settings other = counterpart at together
      cases together with
      | @answered going _ _ same link =>
          cases going with
          | true => exact ih _ _ same link
          | false => rfl
      | failed _ _ _ _ _ _ _ => rfl
      | excused excuse => exact excuse.elim

-- Two runs that take the same course, and end in the same way, in worlds that agree, or not at all.
def RunAlike (settings : Settings σ) (agree : World → World → Prop) (one other : Machine σ) : Prop :=
  ∀ fuel, course settings fuel one = course settings fuel other ∧
    ((drive settings fuel one = none ∧ drive settings fuel other = none) ∨
      ∃ result there here, drive settings fuel one = some (result, there) ∧
        drive settings fuel other = some (result, here) ∧ agree there.world here.world)

theorem kindred_run (unobserved : settings.Unobserved) (terse : settings.verbose = false)
    (one other : Machine σ) (same : one.stack = other.stack)
    (kindred : Kindred view one.world other.world) :
    RunAlike settings (Kindred view) one other := by
  intro fuel
  refine ⟨kindred_course unobserved terse fuel one other same kindred, ?_⟩
  have abreast := drive_abreast (kindred_companions unobserved terse) fuel one other same kindred
  generalize drive settings fuel one = first, drive settings fuel other = second at abreast
  cases abreast with
  | running => exact .inl ⟨rfl, rfl⟩
  | ended together =>
      cases together with
      | answered _ link => exact .inr ⟨_, _, _, rfl, rfl, link⟩
      | failed _ _ _ _ _ _ link => exact .inr ⟨_, _, _, rfl, rfl, link⟩
      | excused excuse => exact excuse.elim
  | excused excuse => exact excuse.elim

theorem run_alike_mono {agree weaker : World → World → Prop} {one other : Machine σ}
    (alike : RunAlike settings agree one other)
    (implies : ∀ there here, agree there here → weaker there here) :
    RunAlike settings weaker one other := by
  intro fuel
  obtain ⟨course, ends⟩ := alike fuel
  refine ⟨course, ends.imp_right ?_⟩
  rintro ⟨result, there, here, first, second, agrees⟩
  exact ⟨result, there, here, first, second, implies _ _ agrees⟩

end Machine

def Location.spot (location : Location) : Text × Int :=
  (location.file, location.line)

def Entry.spotted (entry : Entry Nat) : Nat × Option Nat × Option (Text × Int) :=
  (entry.step, entry.frame, entry.location.map Location.spot)

def Fault.spotted (fault : Fault) : Cause × Option (Text × Int) × Option Nat :=
  (fault.cause, fault.location.map Location.spot, fault.step)

structure World.Equivalent (one other : World) : Prop where
  store : one.store.Alike other.store
  journal : one.journal = other.journal
  created : one.created = other.created
  written : one.written = other.written

structure World.Matched (one other : World) : Prop where
  store : one.store.Alike other.store
  steps : one.journal.steps = other.journal.steps
  created : one.created = other.created
  written : one.written = other.written
  faults : ∀ failure, (one.faultOf failure).spotted = (other.faultOf failure).spotted

theorem kindred_equivalent {one other : World} (kindred : Kindred id one other) :
    one.Equivalent other := by
  have journal := kindred.journal
  unfold Journal.seen at journal
  simp only [Prod.map_id, List.map_id, Prod.mk.injEq] at journal
  obtain ⟨capacity, steps, recent, latest⟩ := journal
  refine ⟨kindred.store, ?_, kindred.created, kindred.written⟩
  rcases one with ⟨_, ⟨_, _, _, _⟩, _, _⟩
  rcases other with ⟨_, ⟨_, _, _, _⟩, _, _⟩
  cases capacity
  cases steps
  cases recent
  cases latest
  rfl

theorem fault_spotted {one other : World} (failure : Failure)
    (last : one.journal.last?.map Entry.spotted = other.journal.last?.map Entry.spotted) :
    (one.faultOf failure).spotted = (other.faultOf failure).spotted := by
  unfold World.faultOf
  cases first : one.journal.last? with
  | none =>
      cases second : other.journal.last? with
      | none => rfl
      | some entry =>
          rw [first, second] at last
          cases last
  | some entry =>
      cases second : other.journal.last? with
      | none =>
          rw [first, second] at last
          cases last
      | some counterpart =>
          rw [first, second] at last
          have spotted : entry.spotted = counterpart.spotted := Option.some.inj last
          have step : entry.step = counterpart.step := congrArg (·.1) spotted
          have place : entry.location.map Location.spot = counterpart.location.map Location.spot :=
            congrArg (·.2.2) spotted
          cases failure with
          | fault fault => simp only [Fault.spotted, step]
          | signal signal => simp only [Fault.spotted, Option.bind_some, step, place]
          | breakdown breakdown => simp only [Fault.spotted, Option.bind_some, step, place]

theorem kindred_matched {one other : World} (kindred : Kindred Entry.spotted one other) :
    one.Matched other :=
  ⟨kindred.store, Journal.steps_seen kindred.journal, kindred.created, kindred.written,
    fun failure => fault_spotted failure (Journal.last_seen kindred.journal)⟩

namespace Machine

variable {σ : Type} {settings : Settings σ}

def Zeroes (name : Text) (command : Command) (value : Value) : Prop :=
  command = .clear name ∧ value = .int 0 ∨ command = .assign name "0".toList ∧ value = .text "0".toList

theorem launch_zeroes (here : Activation) (line : Line) (rest : Cursor) (command : Command) (name : Text)
    (value : Value) (world : World) (terse : settings.verbose = false)
    (reading : Statement.read line = .ok ⟨line.location, command⟩)
    (zeroes : Zeroes name command value) :
    Deed.launch settings here line rest world = (.ok (rest, none), { world with
      store := world.store.write here.path name value
      journal := world.journal.record (some here.id) (some line.location) command.label none }) := by
  rw [Deed.launch_read settings here line rest command world terse reading]
  rcases zeroes with ⟨rfl, rfl⟩ | ⟨rfl, rfl⟩ <;> rfl

theorem goes_zeroes (machine : Machine σ) (frame : Frame) (below : List Frame) (line : Line)
    (rest : Cursor) (command : Command) (name : Text) (value : Value)
    (unobserved : settings.Unobserved) (terse : settings.verbose = false)
    (stands : machine.stack = frame :: below) (taking : Cursor.next? frame.cursor = some (line, rest))
    (reading : Statement.read line = .ok ⟨line.location, command⟩)
    (zeroes : Zeroes name command value) :
    ∃ after, Goes settings machine after ∧ after.stack = frame.moved rest :: below ∧
      after.world = { machine.world with
        store := machine.world.store.write frame.path name value
        journal := machine.world.journal.record (some frame.id) (some line.location) command.label
          none } := by
  obtain ⟨after, goes, world, stack⟩ := goes_line machine frame below line rest (rest, none) _ unobserved
    stands taking (launch_zeroes _ line rest command name value machine.world terse reading zeroes)
  exact ⟨after, goes, stack, world⟩

-- States that differ only in how variables hold their values run alike on any lines. So does what is left
-- of a program after a variable was cleared, or was set to zero by a line at the same place.
theorem alike_runs (settings : Settings σ) (unobserved : settings.Unobserved)
    (terse : settings.verbose = false) :
    (∀ (machine : Machine σ) (store : Store) (lines : Cursor), machine.store.Alike store →
      RunAlike settings World.Equivalent (machine.setCursor lines)
        ({ machine with store }.setCursor lines)) ∧
    ∀ (machine : Machine σ) (frame : Frame) (below : List Frame) (first second rest : Cursor)
      (clears sets : Line) (name : Text), machine.stack = frame :: below →
      Cursor.next? first = some (clears, rest) → Cursor.next? second = some (sets, rest) →
      Statement.read clears = .ok ⟨clears.location, .clear name⟩ →
      Statement.read sets = .ok ⟨sets.location, .assign name "0".toList⟩ →
      clears.location.spot = sets.location.spot →
      ∃ cleared set, Goes settings (machine.setCursor first) cleared ∧
        Goes settings (machine.setCursor second) set ∧ cleared.stack = set.stack ∧
        cleared.world.Matched set.world ∧ RunAlike settings World.Matched cleared set := by
  refine ⟨?_, ?_⟩
  · intro machine store lines alike
    have same : (machine.setCursor lines).stack = ({ machine with store }.setCursor lines).stack := by
      rcases machine with ⟨_, _ | ⟨frame, below⟩, _, _, _, _, _⟩ <;> rfl
    have kindred : Kindred id (machine.setCursor lines).world
        ({ machine with store }.setCursor lines).world := by
      rw [set_cursor_world, set_cursor_world]
      exact ⟨alike, rfl, rfl, rfl⟩
    exact run_alike_mono (kindred_run unobserved terse _ _ same kindred) fun _ _ => kindred_equivalent
  · intro machine frame below first second rest clears sets name stands takes taking reads reading spot
    obtain ⟨cleared, goes, stack, world⟩ := goes_zeroes (machine.setCursor first) (frame.moved first)
      below clears rest _ name (.int 0) unobserved terse (set_cursor_stack first machine stands) takes
      reads (.inl ⟨rfl, rfl⟩)
    obtain ⟨set, going, beside, other⟩ := goes_zeroes (machine.setCursor second) (frame.moved second)
      below sets rest _ name (.text "0".toList) unobserved terse
      (set_cursor_stack second machine stands) taking reading (.inr ⟨rfl, rfl⟩)
    have zero : Value.Equivalent (.int 0) (.text "0".toList) := .written 0 Numeral.zero_writable
    have kindred : Kindred Entry.spotted cleared.world set.world := by
      rw [world, other, set_cursor_world, set_cursor_world]
      refine ⟨Store.write_alike (Store.alike_self _) frame.path name zero,
        Journal.record_seen (some frame.id) rfl ?_, rfl, rfl⟩
      unfold Entry.spotted Journal.nextEntry
      rw [Option.map_some, Option.map_some, spot]
    have same : cleared.stack = set.stack := stack.trans beside.symm
    exact ⟨cleared, set, goes, going, same, kindred_matched kindred,
      run_alike_mono (kindred_run unobserved terse _ _ same kindred) fun _ _ => kindred_matched⟩

theorem alike_runs_zero :
    let machine := opening quiet [] (fresh (.empty 5) ())
    let held := machine.store.write ["f".toList] "X".toList
    let lines := Line.ofSource quiet.filename "incr X\nprint \x7bX\x7d".toList
    let clears : Line := ⟨⟨"f.bb".toList, 1, "clear X".toList⟩, "clear X".toList⟩
    let sets : Line := ⟨⟨"f.bb".toList, 1, "set X 0".toList⟩, "set X 0".toList⟩
    quiet.Unobserved ∧ quiet.verbose = false ∧ (held (.int 0)).Alike (held (.text "0".toList)) ∧
      RunAlike quiet World.Equivalent ({ machine with store := held (.int 0) }.setCursor lines)
        ({ machine with store := held (.text "0".toList) }.setCursor lines) ∧
      ∃ cleared set, Goes quiet (machine.setCursor (clears :: lines)) cleared ∧
        Goes quiet (machine.setCursor (sets :: lines)) set ∧ cleared.stack = set.stack ∧
        cleared.world.Matched set.world ∧ RunAlike quiet World.Matched cleared set := by
  intro machine held lines clears sets
  have alike : (held (.int 0)).Alike (held (.text "0".toList)) :=
    Store.write_alike (Store.alike_self machine.store) _ _ (.written 0 Numeral.zero_writable)
  refine ⟨quiet_unobserved, rfl, alike, ?_, ?_⟩
  · exact (alike_runs quiet quiet_unobserved rfl).1 { machine with store := held (.int 0) }
      (held (.text "0".toList)) lines alike
  · exact (alike_runs quiet quiet_unobserved rfl).2 machine (outermost quiet []) [] (clears :: lines)
      (sets :: lines) lines clears sets "X".toList rfl (by decide +kernel) (by decide +kernel)
      (by decide +kernel) (by decide +kernel) (by decide +kernel)

end Machine
end BareBones
