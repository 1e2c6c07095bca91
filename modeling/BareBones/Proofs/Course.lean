import BareBones.Proofs.Step
import Mathlib.Logic.Relation

set_option autoImplicit false

namespace BareBones

def Failure.cause : Failure → Cause
  | .fault found => found.cause
  | other => .internal other.message

namespace Machine

variable {σ : Type}

def Goes (settings : Settings σ) (before after : Machine σ) : Prop :=
  step settings before = (.ok true, after)

def Reaches (settings : Settings σ) : Machine σ → Machine σ → Prop :=
  Relation.ReflTransGen (Goes settings)

inductive ComesTo (settings : Settings σ) (before : Machine σ) : Machine σ → Prop
  | head {after : Machine σ} (path : Reaches settings before after) : ComesTo settings before after
  | failure {last after : Machine σ} {failure : Failure} (path : Reaches settings before last)
      (failed : step settings last = (.error failure, after)) : ComesTo settings before after

-- The deed of a turn, with the frame in which it is done: a line is run, or a body has run all its lines.
inductive Turn (settings : Settings σ) :
    List Frame → Frame → List Frame → Deed (Cursor × Option Frame) → Prop
  | line (frame : Frame) (below : List Frame) (line : Line) (rest : Cursor)
      (taking : Cursor.next? frame.cursor = some (line, rest)) :
      Turn settings (frame :: below) frame below
        (Deed.launch settings (frame.activation (below.length + 1)) line rest)
  | back (frame caller : Frame) (below : List Frame) (spent : Cursor.next? frame.cursor = none) :
      Turn settings (frame :: caller :: below) caller below (do
        Deed.leave frame.id
        Deed.complete settings (caller.activation (below.length + 1)) caller.cursor frame.resume)

theorem turn_top (settings : Settings σ) (top frame : Frame) (stack below : List Frame)
    (deed : Deed (Cursor × Option Frame)) (turn : Turn settings (top :: stack) frame below deed) :
    (∃ line rest, frame = top ∧ below = stack ∧ Cursor.next? top.cursor = some (line, rest) ∧
        deed = Deed.launch settings (frame.activation (below.length + 1)) line rest) ∨
      stack = frame :: below ∧ Cursor.next? top.cursor = none ∧ deed = (do
        Deed.leave top.id
        Deed.complete settings (frame.activation (below.length + 1)) frame.cursor top.resume) := by
  cases turn with
  | line _ _ line rest taking => exact .inl ⟨line, rest, rfl, rfl, taking, rfl⟩
  | back _ _ _ spent => exact .inr ⟨rfl, spent, rfl⟩

theorem step_turn (settings : Settings σ) (machine : Machine σ) (unobserved : settings.Unobserved) :
    (step settings machine = (.ok false, machine) ∧ machine.stack.length ≤ 1) ∨
      ∃ frame below deed, Turn settings machine.stack frame below deed ∧
        Outcomes id frame below (Going frame below) (step settings machine) (deed machine.world) := by
  have discreet := unobserved_discreet unobserved
  cases stands : machine.stack with
  | nil =>
      exact .inl ⟨step_empty settings machine stands, Nat.zero_le 1⟩
  | cons frame below =>
      cases taking : Cursor.next? frame.cursor with
      | some taken =>
          obtain ⟨line, rest⟩ := taken
          exact .inr ⟨frame, below, _, .line frame below line rest taking,
            step_line settings machine frame below line rest discreet stands taking⟩
      | none =>
          cases below with
          | nil => exact .inl ⟨step_over settings machine frame stands taking, Nat.le_refl 1⟩
          | cons caller below =>
              exact .inr ⟨caller, below, _, .back frame caller below taking,
                step_return settings machine frame caller below discreet stands taking⟩

theorem goes_turn (settings : Settings σ) (before after : Machine σ) (unobserved : settings.Unobserved)
    (goes : Goes settings before after) :
    ∃ frame below deed next, Turn settings before.stack frame below deed ∧
      deed before.world = (.ok next, after.world) ∧
      after.stack = next.2.toList ++ frame.moved next.1 :: below := by
  unfold Goes at goes
  rcases step_turn settings before unobserved with ⟨ended, _⟩ | ⟨frame, below, deed, turn, outcome⟩
  · rw [ended] at goes
    cases goes
  · rw [goes] at outcome
    generalize expected : deed before.world = done at outcome
    cases outcome with
    | @answered _ next _ met => exact ⟨frame, below, deed, next, turn, expected, met.2⟩

theorem fails_turn (settings : Settings σ) (before after : Machine σ) (failure : Failure)
    (unobserved : settings.Unobserved) (failed : step settings before = (.error failure, after)) :
    ∃ frame below deed cursor, Turn settings before.stack frame below deed ∧
      deed before.world = (.error failure, after.world) ∧
      after.stack = frame.moved cursor :: below := by
  rcases step_turn settings before unobserved with ⟨ended, _⟩ | ⟨frame, below, deed, turn, outcome⟩
  · rw [ended] at failed
    cases failed
  · rw [failed] at outcome
    generalize expected : deed before.world = done at outcome
    cases outcome with
    | failed cursor stands => exact ⟨frame, below, deed, cursor, turn, expected, stands⟩

theorem turn_bears {settings : Settings σ} {upper under lower : List Frame} {body actor : Frame}
    {cursor : Cursor} {deed : Deed (Cursor × Option Frame)}
    (turn : Turn settings (upper ++ body.moved cursor :: under) actor lower deed) :
    (∀ left, ∃ upper cursor, actor.moved left :: lower = upper ++ body.moved cursor :: under) ∨
      upper = [] ∧ under = actor :: lower ∧ deed = (do
        Deed.leave body.id
        Deed.complete settings (actor.activation (lower.length + 1)) actor.cursor body.resume) := by
  cases upper with
  | nil =>
      rcases turn_top settings _ actor under lower deed turn with ⟨_, _, rfl, rfl, _, _⟩ | ⟨same, _, does⟩
      · exact .inl fun left => ⟨[], left, rfl⟩
      · exact .inr ⟨rfl, same, does⟩
  | cons top others =>
      left
      intro left
      rcases turn_top settings top actor _ lower deed turn with ⟨_, _, rfl, rfl, _, _⟩ | ⟨same, _, _⟩
      · exact ⟨actor.moved left :: others, cursor, rfl⟩
      · cases others with
        | nil =>
            cases same
            exact ⟨[], left, rfl⟩
        | cons caller others =>
            cases same
            exact ⟨actor.moved left :: others, cursor, rfl⟩

theorem goes_line {settings : Settings σ} (machine : Machine σ) (frame : Frame) (below : List Frame)
    (line : Line) (rest : Cursor) (next : Cursor × Option Frame) (world : World)
    (unobserved : settings.Unobserved) (stands : machine.stack = frame :: below)
    (taking : Cursor.next? frame.cursor = some (line, rest))
    (done : Deed.launch settings (frame.activation (below.length + 1)) line rest machine.world =
      (.ok next, world)) :
    ∃ after, Goes settings machine after ∧ after.world = world ∧
      after.stack = next.2.toList ++ frame.moved next.1 :: below := by
  have outcome := step_line settings machine frame below line rest (unobserved_discreet unobserved)
    stands taking
  rw [done] at outcome
  generalize stepped : step settings machine = result at outcome
  cases outcome with
  | @answered _ _ after met =>
      obtain ⟨rfl, stack⟩ := met
      exact ⟨after, stepped, rfl, stack⟩

def opening (settings : Settings σ) (source : Text) (machine : Machine σ) : Machine σ :=
  (machine.enterProgram settings).load settings source

def outermost (settings : Settings σ) (source : Text) : Frame :=
  ⟨settings.program, [settings.program], settings.arguments, 0, none,
    Line.ofSource settings.filename source, none⟩

theorem opening_stack (settings : Settings σ) (source : Text) (journal : Journal Nat) (host : σ) :
    (opening settings source (fresh journal host)).stack = [outermost settings source] := rfl

theorem opening_world (settings : Settings σ) (source : Text) (journal : Journal Nat) (host : σ) :
    (opening settings source (fresh journal host)).world =
      ⟨Store.empty.enter [settings.program], journal, 1, []⟩ := rfl

theorem drive_goes (settings : Settings σ) (fuel : Nat) (before after : Machine σ)
    (goes : Goes settings before after) :
    drive settings (fuel + 1) before = drive settings fuel after := by
  unfold Goes at goes
  rw [drive, goes]

theorem drive_over (settings : Settings σ) (fuel : Nat) (machine : Machine σ) (frame : Frame)
    (stands : machine.stack = [frame]) (spent : Cursor.next? frame.cursor = none) :
    drive settings (fuel + 1) machine = some (.ok (), machine) := by
  rw [drive, step_over settings machine frame stands spent]

theorem drive_more (settings : Settings σ) (less more : Nat) (machine : Machine σ)
    (ending : Ending σ) (bound : less ≤ more) (ends : drive settings less machine = some ending) :
    drive settings more machine = some ending := by
  induction less generalizing more machine with
  | zero => cases ends
  | succ less ih =>
      obtain ⟨more, rfl⟩ : ∃ fuel, more = fuel + 1 := ⟨more - 1, by omega⟩
      rw [drive] at ends ⊢
      split at ends
      · exact ih more _ (Nat.le_of_succ_le_succ bound) ends
      · exact ends
      · exact ends

theorem drive_reaches (settings : Settings σ) (fuel : Nat) (before after : Machine σ)
    (ending : Ending σ) (path : Reaches settings before after)
    (ends : drive settings fuel after = some ending) :
    ∃ more, drive settings more before = some ending := by
  induction path using Relation.ReflTransGen.head_induction_on with
  | refl => exact ⟨fuel, ends⟩
  | head goes _ ih =>
      obtain ⟨more, driven⟩ := ih
      exact ⟨more + 1, (drive_goes settings more _ _ goes).trans driven⟩

theorem drive_ends (settings : Settings σ) (fuel : Nat) (before after : Machine σ)
    (result : Except Failure Unit) (ends : drive settings fuel before = some (result, after)) :
    ∃ last, Reaches settings before last ∧
      step settings last = (result.map fun _ => false, after) := by
  induction fuel generalizing before with
  | zero => cases ends
  | succ fuel ih =>
      rw [drive] at ends
      split at ends
      · rename_i next goes
        obtain ⟨last, path, ended⟩ := ih next ends
        exact ⟨last, .head goes path, ended⟩
      · rename_i ended
        cases ends
        exact ⟨before, .refl, ended⟩
      · rename_i failed
        cases ends
        exact ⟨before, .refl, failed⟩

theorem announce_unobserved (settings : Settings σ) (notice : Notice) (machine : Machine σ)
    (unobserved : settings.Unobserved) : announce settings notice machine = (.ok (), machine) := by
  unfold announce Registry.notify
  rw [unobserved]
  rfl

def conclude : Ending σ → Ending σ
  | (.ok (), last) => (.ok (), last.pop)
  | (.error failure, last) => (.error (.fault (last.faultOf failure)), last)

theorem fault_of_cause (machine : Machine σ) (failure : Failure) :
    (machine.faultOf failure).cause = failure.cause := by
  unfold faultOf
  cases machine.journal.last? with
  | none => cases failure <;> rfl
  | some entry => cases failure <;> rfl

theorem run_unobserved (settings : Settings σ) (fuel : Nat) (source : Text) (machine : Machine σ)
    (unobserved : settings.Unobserved) :
    run settings fuel source machine =
      (drive settings fuel (opening settings source machine)).map conclude := by
  unfold run start
  rw [announce_unobserved settings _ _ unobserved]
  dsimp only [runSource]
  change Option.map _ (drive settings fuel (opening settings source machine)) = _
  congr 1
  funext ending
  rcases ending with ⟨failure | _, last⟩
  · simp only [finish, fail, announce_unobserved settings _ _ unobserved, conclude]
  · simp only [finish, succeed, announce_unobserved settings _ _ unobserved, conclude]

def trial (settings : Settings σ) (source : Text) (capacity : Nat) (host : σ) (fuel : Nat) :
    Option (Ending σ) :=
  run settings fuel source (fresh (.empty capacity) host)

def calling : Text :=
  "set X 1\nfunction f do\nset Y 2\nincr X\nend\nf a".toList

def printing : Text :=
  "print a\nfunction f do\nprint b\nend\nf".toList

def quiet : Settings Unit :=
  ⟨"f.bb".toList, "f".toList, false, [], .atMost 2, .empty⟩

theorem quiet_unobserved : quiet.Unobserved := by
  intro event
  cases event <;> rfl

end Machine
end BareBones
