import BareBones.Proofs.Deeper
import BareBones.Proofs.Joining

set_option autoImplicit false

namespace BareBones

namespace Deed

variable {σ : Type} {settings : Settings σ} {here : Activation} {world : World}

theorem choose_taken (here : Activation) (world : World) {text : Text} {location : Location}
    {cursor rest : Cursor} {block : Block}
    (reading : Block.read BlockKind.branch.keyword location true cursor = .ok (block, rest))
    (tested : (here.env world).test text = .ok true) :
    choose here (some text) location cursor world = (.ok (some (block, location), rest), world) := by
  rw [choose_read here _ location cursor rest block reading]
  exact bind_done (evaluate_answered here location (·.test text) world true tested)

theorem choose_passed (here : Activation) (world : World) {text : Text} {location : Location}
    {cursor rest : Cursor} {block : Block}
    (reading : Block.read BlockKind.branch.keyword location true cursor = .ok (block, rest))
    (plain : block.endsAtElse = false) (tested : (here.env world).test text = .ok false) :
    choose here (some text) location cursor world = (.ok (none, rest), world) := by
  rw [choose_read here _ location cursor rest block reading]
  refine (bind_done (evaluate_answered here location (·.test text) world false tested)).trans ?_
  rw [plain]
  rfl

theorem branch_refused {location clause : Location} {predicate : Text} {rest left : Cursor} {block : Block}
    {failure : Failure}
    (chosen : choose here (some predicate) location rest world = (.ok (some (block, clause), left), world))
    (refused : settings.maxDepth.allow here.depth clause = .error failure) :
    perform settings here ⟨location, .branch predicate⟩ rest world = (.error failure,
      { world with store := world.store.enter (here.path ++ [Machine.blockLabel .branch clause]) }) := by
  unfold perform
  dsimp only
  rw [bind_done chosen]
  simp only [enter, spawn, effect_bind, effect_modify, settled, refused]

theorem call_refused {location : Location} {name : Text} {arguments : List Text} {rest : Cursor}
    {block : Block} {failure : Failure} (found : world.store.function? here.path name = some block)
    (refused : settings.maxDepth.allow here.depth location = .error failure) :
    perform settings here ⟨location, .call name arguments⟩ rest world = (.error failure,
      { world with store := world.store.enter (here.path ++ [name]) }) := by
  unfold perform
  dsimp only
  rw [bind_done (find_done found)]
  simp only [enter, spawn, effect_bind, effect_modify, settled, refused]

end Deed

namespace Nested

variable {σ : Type} {settings : Settings σ} {here : Activation} {before middle after : World}

def Ends (settings : Settings σ) (here : Activation) (cursor : Cursor) (before : World)
    (done : Except Failure Unit × World) : Prop :=
  ∃ fuel, lines settings fuel here cursor before = some done

def Follows (settings : Settings σ) (here : Activation) (next : Cursor × Option Frame) (before : World)
    (done : Except Failure Cursor × World) : Prop :=
  ∃ fuel, follow settings fuel here next before = some done

def Runs (settings : Settings σ) (here : Activation) (line : Line) (rest : Cursor) (before : World)
    (done : Except Failure Cursor × World) : Prop :=
  ∃ fuel, (do
    let next ← Deed.launch settings here line rest
    follow settings fuel here next : Nested Cursor) before = some done

theorem finish_more (less more : Nat) (bound : less ≤ more) (here : Activation) (cursor : Cursor)
    (pending : Option Resume) :
    Below (finish settings less here cursor pending) (finish settings more here cursor pending) := by
  cases pending with
  | none => exact below_same _
  | some resume =>
      cases resume with
      | loop statement predicate block =>
          exact below_bind (loop_more less more bound here _ predicate block) fun _ => below_same _
      | branch statement terminator => exact below_same _
      | call statement name arguments => exact below_same _

theorem follow_more (less more : Nat) (bound : less ≤ more) (here : Activation)
    (next : Cursor × Option Frame) :
    Below (follow settings less here next) (follow settings more here next) := by
  rcases next with ⟨cursor, _ | body⟩
  · exact below_same _
  · have spared : spare less body ≤ spare more body := by
      unfold spare
      split <;> omega
    rw [follow, follow]
    refine below_bind (lines_more _ _ spared _ _) fun _ => below_after _ fun _ => ?_
    exact finish_more _ _ spared here cursor body.resume

theorem ends_over {cursor : Cursor} {world : World} (taking : Cursor.next? cursor = none) :
    Ends settings here cursor world (.ok (), world) :=
  ⟨1, by rw [lines, taking]; rfl⟩

theorem ends_line {cursor rest left : Cursor} {line : Line} {done : Except Failure Unit × World}
    (taking : Cursor.next? cursor = some (line, rest))
    (runs : Runs settings here line rest before (.ok left, after))
    (later : Ends settings here left after done) : Ends settings here cursor before done := by
  obtain ⟨first, ran⟩ := runs
  obtain ⟨second, ended⟩ := later
  refine ⟨max first second + 1, ?_⟩
  have more := below_after (liftM (Deed.launch settings here line rest))
    (fun next => follow_more first (max first second) (Nat.le_max_left ..) here next) before _ ran
  rw [lines_follow settings _ here cursor rest line taking, ← bind_assoc, nested_bind, more]
  exact lines_more second _ (Nat.le_max_right ..) here left after _ ended

theorem ends_failed {cursor rest : Cursor} {line : Line} {failure : Failure}
    (taking : Cursor.next? cursor = some (line, rest))
    (runs : Runs settings here line rest before (.error failure, after)) :
    Ends settings here cursor before (.error failure, after) := by
  obtain ⟨fuel, ran⟩ := runs
  refine ⟨fuel + 1, ?_⟩
  rw [lines_follow settings fuel here cursor rest line taking, ← bind_assoc, nested_bind, ran]

theorem runs_launched {line : Line} {rest : Cursor} {next : Cursor × Option Frame}
    {done : Except Failure Cursor × World}
    (launched : Deed.launch settings here line rest before = (.ok next, middle))
    (follows : Follows settings here next middle done) : Runs settings here line rest before done := by
  obtain ⟨fuel, followed⟩ := follows
  exact ⟨fuel, by rw [nested_bind, lift_apply, launched]; exact followed⟩

theorem runs_refused {line : Line} {rest : Cursor} {failure : Failure}
    (refused : Deed.launch settings here line rest before = (.error failure, after)) :
    Runs settings here line rest before (.error failure, after) :=
  ⟨0, by rw [nested_bind, lift_apply, refused]⟩

theorem follows_none (cursor : Cursor) (world : World) :
    Follows settings here (cursor, none) world (.ok cursor, world) :=
  ⟨0, rfl⟩

theorem runs_at_once {line : Line} {rest left : Cursor}
    (launched : Deed.launch settings here line rest before = (.ok (left, none), after)) :
    Runs settings here line rest before (.ok left, after) :=
  runs_launched launched (follows_none left after)

theorem follows_body {cursor : Cursor} {body : Frame} {next : Cursor × Option Frame}
    {world : World} {done : Except Failure Cursor × World}
    (ends : Ends settings (body.activation (here.depth + 1)) body.cursor before (.ok (), middle))
    (completes : Deed.complete settings here cursor body.resume
      { middle with journal := middle.journal.forget body.id } = (.ok next, world))
    (follows : Follows settings here next world done) :
    Follows settings here (cursor, some body) before done := by
  obtain ⟨first, ended⟩ := ends
  obtain ⟨second, followed⟩ := follows
  refine ⟨max first second + 1, ?_⟩
  have spared := (spare_bounds (max first second + 1) body).1
  rw [Nat.add_sub_cancel] at spared
  have ran := lines_more first _ (Nat.le_trans (Nat.le_max_left ..) spared) _ _ before _ ended
  have goes := follow_more second _ (Nat.le_trans (Nat.le_max_right ..) spared) here next world _ followed
  rw [follow, outlast, nested_bind, ran]
  change (finish settings _ here cursor body.resume) _ = _
  rw [finish_follow, nested_bind, lift_apply, completes]
  exact goes

theorem follows_failed {cursor : Cursor} {body : Frame} {failure : Failure}
    (ends : Ends settings (body.activation (here.depth + 1)) body.cursor before (.error failure, after)) :
    Follows settings here (cursor, some body) before (.error failure, after) := by
  obtain ⟨fuel, ended⟩ := ends
  refine ⟨fuel + 1, ?_⟩
  have spared := (spare_bounds (fuel + 1) body).1
  rw [Nat.add_sub_cancel] at spared
  rw [follow, outlast, nested_bind, lines_more fuel _ spared _ _ before _ ended]

end Nested

namespace Machine

variable {σ : Type} {settings : Settings σ}

theorem trial_ends (source : Text) (capacity : Nat) (host : σ) (unobserved : settings.Unobserved)
    {after : World}
    (ends : Nested.Ends settings (surface settings) (Line.ofSource settings.filename source)
      ⟨Store.empty.enter [settings.program], .empty capacity, 1, []⟩ (.ok (), after)) :
    ∃ last, Yields (trial settings source capacity host) (.ok (), last) ∧ last.world = after := by
  obtain ⟨fuel, last, ran, same⟩ := does_trial source capacity host unobserved ends
  exact ⟨last, yields_of_more _ fuel _ (run_more settings source _ unobserved) ran, same⟩

end Machine
end BareBones
