import BareBones.Proofs.Enclosure
import BareBones.Proofs.Refusal
import BareBones.Proofs.Sprouting

set_option autoImplicit false

namespace BareBones

namespace Deed

variable {σ : Type} (settings : Settings σ) (here : Activation)

def Spares (spawns : Bool) (deed : Deed (Cursor × Option Frame)) (world : World) : Prop :=
  Ensures deed world (fun _ _ => True) fun _ after => after = world ∨
    spawns = true ∧ ∃ label, after = { world with store := world.store.enter (here.path ++ [label]) }

theorem spawning_spares {deed : Deed (Cursor × Option Frame)} {world : World} (label : Text)
    (spawning : Spawning settings here deed
      { world with store := world.store.enter (here.path ++ [label]) }) :
    Spares here true (do enter here label; deed) world := by
  apply ensures_bind
  change Ensures deed { world with store := world.store.enter (here.path ++ [label]) } _ _
  exact ensures_mono spawning (fun _ _ _ => trivial) fun _ _ same => .inr ⟨rfl, label, same⟩

theorem perform_spares (statement : Statement) (rest : Cursor) (world : World) :
    Spares here statement.command.spawns (perform settings here statement rest) world := by
  have kept : ∀ _ : Failure, world = world ∨ statement.command.spawns = true ∧
      ∃ label, world = { world with store := world.store.enter (here.path ++ [label]) } :=
    fun _ => .inl rfl
  have plain : Spares here statement.command.spawns (do
      atOnce settings here statement
      return (rest, (none : Option Frame))) world :=
    ensures_bind (ensures_mono (at_once_ensures settings here statement world)
      (fun _ _ _ => trivial) fun _ _ same => .inl same)
  rcases statement with ⟨location, command⟩
  cases command with
  | define name =>
      apply ensures_still (still_settled _) kept
      exact fun _ _ => trivial
  | loop predicate =>
      apply ensures_still (still_settled _) kept
      rintro ⟨block, left⟩ _
      exact spawning_spares settings here _ (round_spawning settings here _ predicate block left _
        (Store.scope_at_enter world.store _))
  | branch predicate =>
      apply ensures_still (still_choose here _ location rest) kept
      rintro ⟨chosen, left⟩ _
      cases chosen with
      | none => trivial
      | some taken =>
          obtain ⟨block, clause⟩ := taken
          exact spawning_spares settings here _ (spawn_spawning settings here clause _ left _ _ _ _
            (Store.scope_at_enter world.store _) fun _ => rfl)
  | call name arguments =>
      apply ensures_still (still_find here location name) kept
      intro block _
      exact spawning_spares settings here _ (spawn_spawning settings here location _ rest _ _ _ _
        (Store.scope_at_enter world.store _) fun _ => ⟨rfl, rfl⟩)
  | clear name => exact plain
  | count direction name => exact plain
  | debug name => exact plain
  | print format => exact plain
  | assign name format => exact plain
  | unsupported => exact plain

theorem launch_spares (line : Line) (rest : Cursor) (world : World) :
    Ensures (launch settings here line rest) world (fun _ _ => True) fun _ after =>
      after.written = world.written ∧ (after.store = world.store ∨
        ∃ statement label, Statement.read line = .ok statement ∧ statement.command.spawns = true ∧
          after.store = world.store.enter (here.path ++ [label])) := by
  refine ensures_still (still_settled _) (fun _ => ⟨rfl, .inl rfl⟩) ?_
  intro statement reading
  have readable := read_answers line statement world reading
  refine ensures_bind (ensures_mono (record_ensures settings here statement world) ?_ ?_)
  · rintro _ recorded ⟨store, _, silent, _⟩
    refine ensures_mono (perform_spares settings here statement rest recorded)
      (fun _ _ _ => trivial) ?_
    rintro _ after (rfl | ⟨spawns, label, rfl⟩)
    · exact ⟨silent, .inl store⟩
    · refine ⟨silent, .inr ⟨statement, label, readable, spawns, ?_⟩⟩
      rw [← store]
  · rintro _ _ rfl
    exact ⟨rfl, .inl rfl⟩

end Deed

namespace Machine

variable {σ : Type} {settings : Settings σ}

inductive Spared (before after : Machine σ) : Prop
  | kept (same : after.store = before.store)
  | entered {top : Frame} {below : List Frame} {line : Line} {rest : Cursor} {statement : Statement}
      {label : Text} (stands : before.stack = top :: below)
      (taking : Cursor.next? top.cursor = some (line, rest))
      (reading : Statement.read line = .ok statement) (spawns : statement.command.spawns = true)
      (sprouts : Store.Sprouts top.path label before.store after.store)

theorem spared_plain {before after : Machine σ} {top : Frame} {below : List Frame} {line : Line}
    {rest : Cursor} {statement : Statement} (spared : Spared before after)
    (stands : before.stack = top :: below) (taking : Cursor.next? top.cursor = some (line, rest))
    (reading : Statement.read line = .ok statement) (plain : statement.command.spawns = false) :
    after.store = before.store := by
  cases spared with
  | kept same => exact same
  | entered actual taken read spawns _ =>
      rw [stands] at actual
      cases actual
      rw [taking] at taken
      cases taken
      rw [reading] at read
      cases read
      rw [plain] at spawns
      cases spawns

-- A turn that fails writes no output and leaves all scopes as they were. It makes one scope at most, which
-- is empty, and makes none where the line that it runs holds a statement without a body.
theorem failures_spare (settings : Settings σ) (source : Text) (capacity : Nat) (host : σ)
    (before after : Machine σ) (failure : Failure) (unobserved : settings.Unobserved)
    (path : Reaches settings (opening settings source (fresh (.empty capacity) host)) before)
    (failed : step settings before = (.error failure, after)) :
    after.output = before.output ∧
      (∀ place scope, before.store.scopeAt? place = some scope →
        after.store.scopeAt? place = some scope) ∧
      Spared before after ∧
      ∀ top below line rest statement, before.stack = top :: below →
        Cursor.next? top.cursor = some (line, rest) → Statement.read line = .ok statement →
        statement.command.spawns = false → after.store = before.store := by
  have standing := (reaches_standing unobserved path (opening_standing settings source capacity host)).1
  have silent := fails_written unobserved failed standing
  have spared : Spared before after := by
    obtain ⟨frame, below, deed, cursor, turn, done, _⟩ :=
      fails_turn settings before after failure unobserved failed
    have stacked := standing.stacked
    generalize stands : before.stack = stack at turn stacked
    cases turn with
    | line _ _ line rest taking =>
        obtain ⟨_, same | ⟨statement, label, reading, spawns, entered⟩⟩ :=
          Deed.ensures_failed (Deed.launch_spares settings _ line rest before.world) done
        · exact .kept same
        · change after.store = before.store.enter (frame.path ++ [label]) at entered
          have present := stacked_present stacked List.mem_cons_self
          rcases Store.enter_sprouts before.store frame.path label present with same | sprouts
          · exact .kept (entered.trans same)
          · rw [← entered] at sprouts
            exact .entered stands taking reading spawns sprouts
    | back ended _ _ spent =>
        have left := Deed.ensures_failed (return_footprint _ stacked) done
        exact .kept (congrArg World.store left)
  refine ⟨congrArg List.reverse silent, ?_, spared, ?_⟩
  · intro place scope present
    cases spared with
    | kept same => rw [same, present]
    | entered _ _ _ _ sprouts => exact Store.sprouts_kept sprouts present
  · intro top below line rest statement stands taking reading plain
    exact spared_plain spared stands taking reading plain

def doubtful : Text :=
  "print a\nwhile X gt a do\nprint b\nend".toList

theorem failures_spare_loop :
    let start := opening quiet doubtful (fresh (.empty 5) ())
    let before := ahead quiet 1 start
    quiet.Unobserved ∧ Reaches quiet start before ∧ ∃ failure after,
      step quiet before = (.error failure, after) ∧ after.store ≠ before.store ∧
        after.output = before.output ∧ Spared before after := by
  intro start before
  have goes : Goes quiet start before := ahead_goes quiet 0 start (by decide +kernel)
  have fails : (step quiet before).1.toOption = none := by decide +kernel
  have grows : (step quiet before).2.store ≠ before.store := by decide +kernel
  rcases stepped : step quiet before with ⟨failure | going, after⟩
  · rw [stepped] at grows
    obtain ⟨silent, _, spared, _⟩ := failures_spare quiet doubtful 5 () before after failure
      quiet_unobserved (.single goes) stepped
    exact ⟨quiet_unobserved, .single goes, failure, after, rfl, grows, silent, spared⟩
  · rw [stepped] at fails
    cases fails

end Machine
end BareBones
