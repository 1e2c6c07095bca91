import BareBones.Proofs.Bookmarks
import BareBones.Proofs.Placing

set_option autoImplicit false

namespace BareBones

theorem Journal.newest_record {ι : Type} [DecidableEq ι] (journal : Journal ι) (frame : Option ι)
    (location : Option Location) (label : Text) (snapshot : Option Snapshot) (entry : Entry ι)
    (newest : (journal.record frame location label snapshot).last? = some entry) :
    entry.location = location := by
  unfold last? record at newest
  cases kept : journal.capacity with
  | zero => simp [kept] at newest
  | succ room =>
      simp [kept] at newest
      rw [← newest]
      rfl

namespace Machine

variable {σ : Type} {settings : Settings σ} {lines : List Line} {last machine : Machine σ}
  {failure : Failure} {place : Location} {top : Frame} {below : List Frame}

-- The place `held` of the innermost frame is another one than that of the fault: the last turn was to run a
-- line that cannot be read, was about a clause of an `if`, or went on after a body and broke down.
inductive Strays (lines : List Line) (last : Machine σ) (fault : Fault) (place : Location) :
    Option Location → Prop
  | unread {top : Frame} {below : List Frame} {line : Line} {rest : Cursor} {unread : Failure}
      (stands : last.stack = top :: below) (taking : Cursor.next? top.cursor = some (line, rest))
      (reading : Statement.read line = .error unread) (located : place = line.location) :
      Strays lines last fault place (last.whereabouts top)
  | clause {header clause : Line} {rest : Cursor} {predicate : Text}
      (drawn : (header :: rest).Sublist lines)
      (reading : Statement.read header = .ok ⟨header.location, .branch predicate⟩)
      (found : Block.Clause rest clause) (located : place = clause.location) :
      Strays lines last fault place (some header.location)
  | returned {body caller : Frame} {below : List Frame} {pending : Resume} {message : Text}
      (stands : last.stack = body :: caller :: below) (spent : Cursor.next? body.cursor = none)
      (resumes : body.resume = some pending) (caused : fault.cause = .internal message)
      (located : last.lastLocation? = some place) :
      Strays lines last fault place (some pending.statement.location)

theorem fault_placed {here : Activation} {places : Location → Prop}
    (blame : Deed.Blame settings here places failure)
    (located : (machine.faultOf failure).location = some place) :
    places place ∨ (∃ message, (machine.faultOf failure).cause = .internal message) ∧
      machine.lastLocation? = some place := by
  rcases Deed.blame_cases blame with ⟨known, cause, holds, rfl⟩ | ⟨broken, rfl, _⟩
  · rw [fault_of_location] at located
    cases located
    exact .inl holds
  · refine .inr ⟨⟨_, fault_of_cause machine _⟩, ?_⟩
    rw [← located]
    unfold faultOf
    cases machine.journal.last? <;> rfl

theorem line_strays {line : Line} {rest cursor : Cursor} {one : TraceFrame}
    (stands : last.stack = top :: below) (taking : Cursor.next? top.cursor = some (line, rest))
    (drawn : (line :: rest).Sublist lines) (solid : line.isBlank = false)
    (done : Deed.launch settings (top.activation (below.length + 1)) line rest last.world =
      (.error failure, machine.world))
    (picture : Pictures machine (top.moved cursor) one)
    (located : (machine.faultOf failure).location = some place) :
    one.location = some place ∨ Strays lines last (machine.faultOf failure) place one.location := by
  rw [picture.location, whereabouts_moved]
  rcases Deed.ensures_failed (Deed.launch_enters line rest last.world) done with
    ⟨statement, reading, snapshot, journal⟩ | ⟨same, ⟨unread, reading, rfl⟩ | ⟨broken, taken⟩⟩
  · have own := read_location line statement reading
    change machine.journal = last.journal.record (some top.id) (some statement.location)
      statement.command.label snapshot at journal
    have latest := Journal.latest_record_same last.journal top.id (some statement.location)
      statement.command.label snapshot
    rw [← journal] at latest
    have here : machine.whereabouts top = some statement.location := whereabouts_latest latest
    rw [here, own]
    have blame := Deed.ensures_failed (Deed.launch_blame settings _ line rest solid last.world) done
    rcases fault_placed blame located with
      (rfl | ⟨predicate, clause, branching, found, rfl⟩) | ⟨_, newest⟩
    · exact .inl rfl
    · exact .inr (.clause drawn branching found rfl)
    · obtain ⟨entry, kept, held⟩ := Option.bind_eq_some_iff.mp newest
      rw [journal] at kept
      rw [Journal.newest_record _ _ _ _ _ _ kept, own] at held
      exact .inl held
  · cases Statement.read_misread line solid unread reading with
    | fault cause _ =>
        have same : machine.journal = last.journal := congrArg World.journal same
        have known := (fault_of_location machine (.at line.location cause)).symm.trans located
        cases known
        rw [whereabouts, same]
        exact .inr (.unread stands taking reading rfl)
  · have same : machine.store = last.store := congrArg World.store same
    have shown := picture.snapshot
    rw [same] at shown
    cases taken.symm.trans shown

theorem back_strays {start : Machine σ} {ended caller : Frame} {cursor : Cursor} {one : TraceFrame}
    (stands : last.stack = ended :: caller :: below) (spent : Cursor.next? ended.cursor = none)
    (standing : Standing settings last.world last.stack)
    (marked : Marked settings start last last.journal last.stack)
    (parented : Parented lines last.stack) (attended : Attended last.stack)
    (done : (do
      Deed.leave ended.id
      Deed.complete settings (caller.activation (below.length + 1)) caller.cursor ended.resume)
        last.world = (.error failure, machine.world))
    (picture : Pictures machine (caller.moved cursor) one)
    (located : (machine.faultOf failure).location = some place) :
    one.location = some place ∨ Strays lines last (machine.faultOf failure) place one.location := by
  rw [stands] at standing marked parented attended
  have left := Deed.ensures_failed (return_footprint _ standing.stacked) done
  have journal : machine.journal = last.journal.forget ended.id := congrArg World.journal left
  have kept := forgotten_kept last.journal standing.stacked caller List.mem_cons_self
  rw [← journal] at kept
  cases marked with
  | @body _ _ _ pending entry _ resumes latest entered underway =>
      have here := (whereabouts_latest (kept.trans latest)).trans entered
      rw [picture.location, whereabouts_moved, here]
      have turn : Turn settings (ended :: caller :: below) caller below _ := .back ended caller below spent
      have blame := Deed.ensures_failed (turn_blame turn attended last.world) done
      rcases fault_placed blame located with
        (⟨line, rest, taking, _⟩ | ⟨_, known⟩) | ⟨⟨message, caused⟩, newest⟩
      · cases taking.symm.trans spent
      · rw [resumes] at known
        rcases parented ended List.mem_cons_self with program | ⟨construct, _, resume, same, spawns⟩
        · cases resumes.symm.trans program
        · cases resumes.symm.trans same
          cases spawns with
          | loop _ _ _ => exact .inl (congrArg some known.symm)
          | branch drawn _ reading _ ends =>
              obtain ⟨clause, elsewhere⟩ := known
              exact .inr (.clause drawn reading (ends clause) elsewhere)
          | call _ _ _ => cases known
      · have newest : last.lastLocation? = some place := by
          rw [← newest]
          unfold lastLocation?
          rw [journal]
          rfl
        exact .inr (.returned stands spent resumes caused newest)

-- After a run that has failed at a known place, the innermost frame of the traceback stands at
-- that place or strays from it.
theorem traceback_points (settings : Settings σ) (source : Text) (capacity fuel : Nat) (host : σ)
    (fault : Fault) (place : Location) (machine : Machine σ) (unobserved : settings.Unobserved)
    (ran : run settings fuel source (fresh (.empty capacity) host) =
      some (.error (.fault fault), machine))
    (located : fault.location = some place) (writable : machine.Writable) :
    ∃ shown inner last failed,
      Reaches settings (opening settings source (fresh (.empty capacity) host)) last ∧
      step settings last = (.error failed, machine) ∧
      Traceback.frames machine = .ok shown ∧ shown.getLast? = some inner ∧
      (inner.location = some place ∨
        Strays (Line.ofSource settings.filename source) last fault place inner.location) := by
  have opens := opening_standing settings source capacity host
  obtain ⟨last, failed, path, ended, same⟩ := run_fails unobserved ran
  cases same
  have standing := (reaches_standing unobserved path opens).1
  have marked := reaches_marked unobserved path opens (.program (outermost settings source) rfl)
  have drawn := reaches_drawn unobserved path (opening_drawn settings source (.empty capacity) host)
  have parented := reaches_parented unobserved path
    (opening_drawn settings source (.empty capacity) host)
    (opening_parented settings source (.empty capacity) host)
  have attended := reaches_attended unobserved path
    (opening_attended settings source (.empty capacity) host)
  obtain ⟨shown, framed, pictures⟩ := frames_pictures writable
  obtain ⟨frame, below, deed, cursor, turn, done, stack⟩ :=
    fails_turn settings last machine failed unobserved ended
  obtain ⟨inner, there, picture⟩ := shown_at pictures (show machine.stack = [] ++ _ from stack)
  have innermost : shown.getLast? = some inner := by
    rw [List.getLast?_eq_getElem?, ← pictures.length_eq, List.length_reverse, stack]
    exact there
  refine ⟨shown, inner, last, failed, path, ended, framed, innermost, ?_⟩
  generalize stands : last.stack = before at turn
  cases turn with
  | line _ _ line rest taking =>
      rw [stands] at drawn
      obtain ⟨ahead, solid⟩ := Cursor.next_drawn frame.cursor rest line taking
      have whole := ahead.trans (drawn.frames frame List.mem_cons_self).cursor
      exact line_strays stands taking whole solid done picture located
  | back ended _ _ spent =>
      exact back_strays stands spent standing marked parented attended done picture located

def Ending.place? (ending : Ending σ) : Option Location :=
  match ending.1 with
  | .error (.fault fault) => fault.location
  | _ => none

theorem ending_fails {result : Except Failure Unit} {location : Location}
    (placed : Ending.place? (result, machine) = some location) :
    ∃ fault, result = .error (.fault fault) ∧ fault.location = some location := by
  rcases result with (fault | signal | breakdown) | _
  · exact ⟨fault, rfl, placed⟩
  · cases placed
  · cases placed
  · cases placed

theorem traceback_points_failing : quiet.Unobserved ∧ ∃ fault place machine shown inner,
    run quiet 3 failing (fresh (.empty 5) ()) = some (.error (.fault fault), machine) ∧
      fault.location = some place ∧ Traceback.frames machine = .ok shown ∧
      shown.getLast? = some inner ∧ ∃ last : Machine Unit, inner.location = some place ∨
        Strays (Line.ofSource quiet.filename failing) last fault place inner.location := by
  have outline : (run quiet 3 failing (fresh (.empty 5) ())).map (fun ending =>
      (ending.place?.map (·.line), decide ending.2.Writable)) = some (some 2, true) := by decide +kernel
  obtain ⟨⟨result, machine⟩, ran, same⟩ := Option.map_eq_some_iff.mp outline
  have writable := of_decide_eq_true (congrArg Prod.snd same)
  obtain ⟨place, placed, _⟩ := Option.map_eq_some_iff.mp (congrArg Prod.fst same)
  obtain ⟨fault, rfl, located⟩ := ending_fails placed
  obtain ⟨shown, inner, last, _, _, _, framed, innermost, points⟩ :=
    traceback_points quiet failing 5 3 () fault place machine quiet_unobserved ran located writable
  exact ⟨quiet_unobserved, fault, place, machine, shown, inner, ran, located, framed, innermost, last,
    points⟩

def miswritten : Text :=
  "clear X\nwhile X not 1 do\nincr X\nprint ok\nif X is 1\nend".toList

-- The fault is placed at the fifth line, but no frame of the traceback stands there.
theorem traceback_strays : quiet.Unobserved ∧ ∃ fault machine shown,
    run quiet 10 miswritten (fresh (.empty 5) ()) = some (.error (.fault fault), machine) ∧
      fault.location.map (·.line) = some 5 ∧ Traceback.frames machine = .ok shown ∧
      shown.map (fun one => one.location.map (·.line)) = [some 2, some 4] := by
  have outline : (run quiet 10 miswritten (fresh (.empty 5) ())).map (fun ending =>
      (ending.place?.map (·.line), (Traceback.frames ending.2).toOption.map fun shown =>
        shown.map fun one => one.location.map (·.line))) = some (some 5, some [some 2, some 4]) := by
    decide +kernel
  obtain ⟨⟨result, machine⟩, ran, same⟩ := Option.map_eq_some_iff.mp outline
  obtain ⟨place, placed, line⟩ := Option.map_eq_some_iff.mp (congrArg Prod.fst same)
  obtain ⟨shown, framed, lines⟩ := Option.map_eq_some_iff.mp (congrArg Prod.snd same)
  obtain ⟨fault, rfl, located⟩ := ending_fails placed
  refine ⟨quiet_unobserved, fault, machine, shown, ran, ?_, ?_, lines⟩
  · rw [located]
    exact congrArg some line
  · change (Traceback.frames machine).toOption = some shown at framed
    cases framing : Traceback.frames machine with
    | error broken =>
        rw [framing] at framed
        cases framed
    | ok one =>
        rw [framing] at framed
        cases framed
        rfl

end Machine
end BareBones
