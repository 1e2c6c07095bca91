import BareBones.Proofs.Launch
import BareBones.Proofs.Scoping

set_option autoImplicit false

namespace BareBones

def Command.spawns : Command → Bool
  | .loop _ | .branch _ | .call _ _ => true
  | _ => false

inductive Stored (path : Path) (spawns : Bool) (before : Store) : Store → Prop
  | kept : Stored path spawns before before
  | entered (label : Text) : Stored path spawns before (before.enter (path ++ [label]))
  | written (name : Text) (value : Value) (plain : spawns = false) :
      Stored path spawns before (before.write path name value)
  | defined (name : Text) (block : Block) (plain : spawns = false) :
      Stored path spawns before (before.define path name block)

theorem stored_plain {path : Path} {spawns : Bool} {before after : Store}
    (stored : Stored path spawns before after) : Stored path false before after := by
  cases stored with
  | kept => exact .kept
  | entered label => exact .entered label
  | written name value => exact .written name value rfl
  | defined name block => exact .defined name block rfl

structure Footprint (here : Activation) (spawns : Bool) (before after : World) : Prop where
  stored : Stored here.path spawns before.store after.store
  latest : ∀ id ∈ after.journal.latest.keys, id = here.id ∨ id ∈ before.journal.latest.keys
  written : before.written <:+ after.written

def Frame.Serves (caller : List Text) (body : Frame) : Prop :=
  match body.resume with
  | some (.loop statement _ _) =>
      body.name = Machine.blockLabel .loop statement.location ∧ body.arguments = caller
  | some (.branch _ _) => body.arguments = caller
  | some (.call _ name arguments) => body.name = name ∧ body.arguments = arguments
  | none => False

structure Born {σ : Type} (settings : Settings σ) (here : Activation) (before after : World)
    (body : Frame) : Prop where
  id : body.id = before.created
  path : body.path = here.path ++ [body.name]
  present : (after.store.scopeAt? body.path).isSome
  allowed : ∃ location, settings.maxDepth.allow here.depth location = .ok ()
  serves : body.Serves here.arguments

def Spawned {σ : Type} (settings : Settings σ) (here : Activation) (before after : World) :
    Option Frame → Prop
  | none => after.created = before.created
  | some body => after.created = before.created + 1 ∧ Born settings here before after body

theorem spawned_since {σ : Type} {settings : Settings σ} {here : Activation}
    {before recorded after : World} {body : Option Frame}
    (spawned : Spawned settings here recorded after body) (same : recorded.created = before.created) :
    Spawned settings here before after body := by
  cases body with
  | none => exact spawned.trans same
  | some body =>
      obtain ⟨created, born⟩ := spawned
      rw [same] at created
      exact ⟨created, born.id.trans same, born.path, born.present, born.allowed, born.serves⟩

namespace Deed

variable {σ α β : Type}

def Ensures (deed : Deed α) (world : World) (answered : α → World → Prop)
    (failed : Failure → World → Prop) : Prop :=
  match deed world with
  | (.ok a, after) => answered a after
  | (.error failure, after) => failed failure after

section

variable {deed : Deed α} {next : α → Deed β} {world : World} {failed : Failure → World → Prop}

theorem ensures_answered {answered : α → World → Prop} {a : α} {after : World}
    (ensures : Ensures deed world answered failed) (done : deed world = (.ok a, after)) :
    answered a after := by
  rwa [Ensures, done] at ensures

theorem ensures_failed {answered : α → World → Prop} {failure : Failure} {after : World}
    (ensures : Ensures deed world answered failed) (done : deed world = (.error failure, after)) :
    failed failure after := by
  rwa [Ensures, done] at ensures

theorem ensures_bind {answered : β → World → Prop}
    (first : Ensures deed world (fun a after => Ensures (next a) after answered failed) failed) :
    Ensures (deed >>= next) world answered failed := by
  unfold Ensures at first ⊢
  rw [effect_bind]
  generalize deed world = done at first ⊢
  rcases done with ⟨failure | a, after⟩
  · exact first
  · exact first

theorem ensures_mono {answered weaker : α → World → Prop} {broken : Failure → World → Prop}
    (ensures : Ensures deed world answered failed)
    (forAnswer : ∀ a after, answered a after → weaker a after)
    (forFailure : ∀ failure after, failed failure after → broken failure after) :
    Ensures deed world weaker broken := by
  unfold Ensures at ensures ⊢
  generalize deed world = done at ensures ⊢
  rcases done with ⟨failure | a, after⟩
  · exact forFailure failure after ensures
  · exact forAnswer a after ensures

theorem ensures_then {middle : α → World → Prop} {answered : β → World → Prop}
    (first : Ensures deed world middle failed)
    (rest : ∀ a after, middle a after → Ensures (next a) after answered failed) :
    Ensures (deed >>= next) world answered failed :=
  ensures_bind (ensures_mono first rest fun _ _ fails => fails)

def Still (deed : Deed α) : Prop :=
  ∀ world : World, (deed world).2 = world

theorem ensures_still_self (still : Still deed) (world : World) :
    Ensures deed world (fun a after => after = world ∧ deed world = (.ok a, world))
      (fun _ after => after = world) := by
  have same := still world
  unfold Ensures
  cases done : deed world with
  | mk result after =>
      rw [done] at same
      cases same
      cases result with
      | error failure => rfl
      | ok a => exact ⟨rfl, rfl⟩

theorem ensures_still {answered : β → World → Prop} (still : Still deed)
    (fails : ∀ failure, failed failure world)
    (rest : ∀ a, deed world = (.ok a, world) → Ensures (next a) world answered failed) :
    Ensures (deed >>= next) world answered failed := by
  refine ensures_bind (ensures_mono (ensures_still_self still world) ?_ ?_)
  · rintro a _ ⟨rfl, done⟩
    exact rest a done
  · rintro failure _ rfl
    exact fails failure

theorem still_settled (result : Except Failure α) : Still (settled result) := fun _ => rfl

theorem still_pure (a : α) : Still (pure a) := fun _ => rfl

theorem still_bind (first : Still deed) (second : ∀ a, Still (next a)) : Still (deed >>= next) := by
  intro world
  have same := first world
  rw [effect_bind]
  rcases done : deed world with ⟨failure | a, after⟩
  · rw [done] at same
    exact same
  · rw [done] at same
    cases same
    exact second a after

end

theorem read_answers (line : Line) (statement : Statement) (world : World)
    (answered : read line world = (.ok statement, world)) : Statement.read line = .ok statement := by
  have result := congrArg Prod.fst answered
  change placed line.location (Statement.read line) = _ at result
  cases reading : Statement.read line with
  | error failure =>
      rw [reading] at result
      cases result
  | ok found =>
      rw [reading] at result
      exact result

theorem still_evaluate (here : Activation) (location : Location)
    (expression : Env → Except Failure α) : Still (evaluate here location expression) := fun _ => rfl

theorem still_admits (here : Activation) (location : Location) (predicate : Option Text) :
    Still (admits here location predicate) := by
  cases predicate with
  | none => exact still_pure true
  | some text => exact still_evaluate here location _

theorem still_choose (here : Activation) (predicate : Option Text) (location : Location)
    (cursor : Cursor) : Still (choose here predicate location cursor) := by
  cases reading : Block.read BlockKind.branch.keyword location true cursor with
  | error fault =>
      rw [choose_unread here predicate location cursor fault reading]
      exact still_settled _
  | ok carved =>
      obtain ⟨block, rest⟩ := carved
      rw [choose_read here predicate location cursor rest block reading]
      apply still_bind (still_admits here location predicate)
      intro taken
      split
      · exact still_pure _
      · split
        · exact still_pure _
        · cases taking : Cursor.next? rest with
          | none => exact still_settled _
          | some ahead =>
              obtain ⟨line, after⟩ := ahead
              dsimp only
              cases Boundary.readElse line with
              | error fault => exact still_settled _
              | ok next => exact still_choose here next line.location after
termination_by cursor.length
decreasing_by
  have kept := Block.read_rest_length reading
  have shorter := Cursor.next_shorter _ _ _ taking
  omega

theorem still_skip (terminator : Line) (cursor : Cursor) : Still (skip terminator cursor) := by
  unfold skip
  split
  · split
    · exact still_settled _
    · exact still_bind (still_settled _) fun _ => still_pure _
  · exact still_pure _

theorem still_find (here : Activation) (location : Location) (name : Text) :
    Still (find here location name) := by
  apply still_bind (fun _ => rfl)
  intro world
  split
  · exact still_pure _
  · exact still_settled _

theorem spawn_ensures (settings : Settings σ) (here : Activation) (location : Location)
    (world : World) :
    Ensures (spawn settings here location) world
      (fun id after => id = world.created ∧ after = { world with created := world.created + 1 } ∧
        settings.maxDepth.allow here.depth location = .ok ())
      (fun _ after => after = world) := by
  unfold spawn
  refine ensures_still (still_settled _) (fun _ => rfl) ?_
  intro _ allowed
  exact ⟨rfl, rfl, congrArg Prod.fst allowed⟩

theorem at_once_ensures (settings : Settings σ) (here : Activation) (statement : Statement)
    (world : World) :
    Ensures (atOnce settings here statement) world
      (fun _ after => (after.store = world.store ∨ statement.command.spawns = false ∧
          ∃ name value, after.store = world.store.write here.path name value) ∧
        after.journal = world.journal ∧ after.created = world.created ∧
        world.written <:+ after.written)
      (fun _ after => after = world) := by
  rcases statement with ⟨location, command⟩
  cases command with
  | clear name => exact ⟨.inr ⟨rfl, name, _, rfl⟩, rfl, rfl, List.suffix_rfl⟩
  | count direction name =>
      refine ensures_still (still_evaluate here location _) (fun _ => rfl) ?_
      intro previous _
      refine ensures_still (still_settled _) (fun _ => rfl) ?_
      intro number _
      cases number with
      | some n => exact ⟨.inr ⟨rfl, name, _, rfl⟩, rfl, rfl, List.suffix_rfl⟩
      | none => exact ensures_still (still_settled _) (fun _ => rfl) fun _ _ => rfl
  | debug name =>
      refine ensures_still (still_evaluate here location _) (fun _ => rfl) ?_
      intro value _
      refine ensures_still (still_settled _) (fun _ => rfl) ?_
      intro text _
      exact ⟨.inl rfl, rfl, rfl, List.suffix_cons ..⟩
  | print format =>
      refine ensures_still (still_evaluate here location _) (fun _ => rfl) ?_
      intro text _
      exact ⟨.inl rfl, rfl, rfl, List.suffix_cons ..⟩
  | assign name format =>
      refine ensures_still (still_evaluate here location _) (fun _ => rfl) ?_
      intro text _
      exact ⟨.inr ⟨rfl, name, _, rfl⟩, rfl, rfl, List.suffix_rfl⟩
  | loop predicate => rfl
  | branch predicate => rfl
  | define name => rfl
  | call name arguments => rfl
  | unsupported => rfl

def Spawning (settings : Settings σ) (here : Activation) (deed : Deed (Cursor × Option Frame))
    (world : World) : Prop :=
  Ensures deed world
    (fun next after => after.store = world.store ∧ after.journal = world.journal ∧
      after.written = world.written ∧ Spawned settings here world after next.2)
    (fun _ after => after = world)

theorem spawn_spawning (settings : Settings σ) (here : Activation) (location : Location)
    (world : World) (cursor : Cursor) (label : Text) (arguments : List Text) (lines : Cursor)
    (resume : Resume)
    (present : (world.store.scopeAt? (here.path ++ [label])).isSome)
    (serves : ∀ id, ((here.inner id label arguments).frame label location lines resume).Serves
      here.arguments) :
    Spawning settings here (do
      let id ← spawn settings here location
      return (cursor, some ((here.inner id label arguments).frame label location lines resume)))
      world := by
  apply ensures_then (spawn_ensures settings here location world)
  rintro _ _ ⟨rfl, rfl, allowed⟩
  exact ⟨rfl, rfl, rfl, rfl, rfl, rfl, present, ⟨location, allowed⟩, serves _⟩

theorem round_spawning (settings : Settings σ) (here : Activation) (statement : Statement)
    (predicate : Text) (block : Block) (cursor : Cursor) (world : World)
    (present : (world.store.scopeAt?
      (here.path ++ [Machine.blockLabel .loop statement.location])).isSome) :
    Spawning settings here (do
      let next ← round settings here statement predicate block
      return (cursor, next)) world := by
  unfold round
  rw [bind_assoc]
  refine ensures_still (still_evaluate here _ _) (fun _ => rfl) ?_
  intro holds _
  cases holds with
  | false => exact ⟨rfl, rfl, rfl, rfl⟩
  | true =>
      simp only [if_true, bind_assoc, pure_bind]
      exact spawn_spawning settings here statement.location world cursor _ _ _ _ present
        fun _ => ⟨rfl, rfl⟩

def Performing (settings : Settings σ) (here : Activation) (spawns : Bool)
    (deed : Deed (Cursor × Option Frame)) (world : World) : Prop :=
  Ensures deed world
    (fun next after => Stored here.path spawns world.store after.store ∧
      after.journal = world.journal ∧ world.written <:+ after.written ∧
      Spawned settings here world after next.2)
    (fun _ after => Stored here.path spawns world.store after.store ∧
      after.journal = world.journal ∧ after.written = world.written ∧ after.created = world.created)

theorem spawning_performing {settings : Settings σ} {here : Activation}
    {deed : Deed (Cursor × Option Frame)} {world : World} (label : Text)
    (spawning : Spawning settings here deed
      { world with store := world.store.enter (here.path ++ [label]) }) :
    Performing settings here true (do enter here label; deed) world := by
  apply ensures_bind
  change Ensures deed { world with store := world.store.enter (here.path ++ [label]) } _ _
  refine ensures_mono spawning ?_ ?_
  · rintro next after ⟨store, journal, written, spawned⟩
    refine ⟨?_, journal, ?_, ?_⟩
    · rw [store]
      exact .entered label
    · exact written ▸ List.suffix_rfl
    · exact spawned_since spawned rfl
  · rintro _ _ rfl
    exact ⟨.entered label, rfl, rfl, rfl⟩

theorem at_once_performing (settings : Settings σ) (here : Activation) (statement : Statement)
    (rest : Cursor) (world : World) :
    Performing settings here statement.command.spawns (do
      atOnce settings here statement
      return (rest, none)) world := by
  refine ensures_bind (ensures_mono (at_once_ensures settings here statement world) ?_ ?_)
  · rintro _ after ⟨stored, journal, created, written⟩
    refine ⟨?_, journal, written, created⟩
    rcases stored with same | ⟨plain, name, value, wrote⟩
    · rw [same]
      exact .kept
    · rw [wrote]
      exact .written name value plain
  · rintro _ _ rfl
    exact ⟨.kept, rfl, rfl, rfl⟩

theorem perform_performing (settings : Settings σ) (here : Activation) (statement : Statement)
    (rest : Cursor) (world : World) :
    Performing settings here statement.command.spawns (perform settings here statement rest) world := by
  have dropped : ∀ _ : Failure, Stored here.path statement.command.spawns world.store world.store ∧
      world.journal = world.journal ∧ world.written = world.written ∧ world.created = world.created :=
    fun _ => ⟨.kept, rfl, rfl, rfl⟩
  rcases statement with ⟨location, command⟩
  cases command with
  | define name =>
      apply ensures_still (still_settled _) dropped
      rintro ⟨block, left⟩ _
      exact ⟨.defined name block rfl, rfl, List.suffix_rfl, rfl⟩
  | loop predicate =>
      apply ensures_still (still_settled _) dropped
      rintro ⟨block, left⟩ _
      exact spawning_performing _ (round_spawning settings here _ predicate block left _
        (Store.scope_at_enter world.store _))
  | branch predicate =>
      apply ensures_still (still_choose here _ location rest) dropped
      rintro ⟨chosen, left⟩ _
      cases chosen with
      | none => exact ⟨.kept, rfl, List.suffix_rfl, rfl⟩
      | some taken =>
          obtain ⟨block, clause⟩ := taken
          exact spawning_performing _ (spawn_spawning settings here clause _ left _ _ _ _
            (Store.scope_at_enter world.store _) fun _ => rfl)
  | call name arguments =>
      apply ensures_still (still_find here location name) dropped
      intro block _
      exact spawning_performing _ (spawn_spawning settings here location _ rest _ _ _ _
        (Store.scope_at_enter world.store _) fun _ => ⟨rfl, rfl⟩)
  | clear name => exact at_once_performing settings here _ rest world
  | count direction name => exact at_once_performing settings here _ rest world
  | debug name => exact at_once_performing settings here _ rest world
  | print format => exact at_once_performing settings here _ rest world
  | assign name format => exact at_once_performing settings here _ rest world
  | unsupported => exact at_once_performing settings here _ rest world

theorem record_ensures (settings : Settings σ) (here : Activation) (statement : Statement)
    (world : World) :
    Ensures (record settings here statement) world
      (fun _ after => after.store = world.store ∧ after.created = world.created ∧
        after.written = world.written ∧
        ∀ id ∈ after.journal.latest.keys, id = here.id ∨ id ∈ world.journal.latest.keys)
      (fun _ after => after = world) := by
  unfold record
  have put : ∀ snapshot, ∀ id ∈ (world.journal.record (some here.id) (some statement.location)
      statement.command.label snapshot).latest.keys, id = here.id ∨ id ∈ world.journal.latest.keys := by
    intro snapshot id member
    simp only [Journal.record, Bindings.keys_put] at member
    split at member
    · exact .inr member
    · rcases List.mem_append.mp member with old | new
      · exact .inr old
      · exact .inl (List.mem_singleton.mp new)
  cases settings.verbose with
  | false => exact ⟨rfl, rfl, rfl, put none⟩
  | true =>
      refine ensures_still (fun _ => rfl) (fun _ => rfl) ?_
      intro _ started
      cases started
      refine ensures_still ?_ (fun _ => rfl) ?_
      · exact still_bind (still_settled _) fun _ => still_pure _
      · intro snapshot _
        exact ⟨rfl, rfl, rfl, put snapshot⟩

theorem launch_footprint (settings : Settings σ) (here : Activation) (line : Line) (rest : Cursor)
    (world : World) :
    Ensures (launch settings here line rest) world
      (fun next after => Spawned settings here world after next.2 ∧
        ∃ statement, Statement.read line = .ok statement ∧
          Footprint here statement.command.spawns world after)
      (fun _ after => after.created = world.created ∧ after.written = world.written ∧
        Footprint here false world after) := by
  have dropped : ∀ after : World, Stored here.path false world.store after.store →
      after.created = world.created → after.written = world.written →
      (∀ id ∈ after.journal.latest.keys, id = here.id ∨ id ∈ world.journal.latest.keys) →
      after.created = world.created ∧ after.written = world.written ∧
        Footprint here false world after := by
    intro after stored created written latest
    exact ⟨created, written, stored, latest, written ▸ List.suffix_rfl⟩
  refine ensures_still (still_settled _)
    (fun _ => dropped world .kept rfl rfl fun _ member => .inr member) ?_
  intro statement reading
  refine ensures_bind (ensures_mono (record_ensures settings here statement world) ?_ ?_)
  · rintro _ recorded ⟨store, created, silent, latest⟩
    refine ensures_mono (perform_performing settings here statement rest recorded) ?_ ?_
    · rintro next after ⟨stored, journal, written, spawned⟩
      rw [store] at stored
      rw [← journal] at latest
      rw [silent] at written
      have readable := read_answers line statement world reading
      exact ⟨spawned_since spawned created, statement, readable, stored, latest, written⟩
    · rintro _ after ⟨stored, journal, written, same⟩
      rw [store] at stored
      rw [← journal] at latest
      exact dropped after (stored_plain stored) (same.trans created) (written.trans silent) latest
  · rintro _ _ rfl
    exact dropped _ .kept rfl rfl fun _ member => .inr member

theorem complete_footprint (settings : Settings σ) (here : Activation) (cursor : Cursor)
    (pending : Option Resume) (world : World)
    (present : ∀ statement predicate block, pending = some (.loop statement predicate block) →
      (world.store.scopeAt? (here.path ++ [Machine.blockLabel .loop statement.location])).isSome) :
    Spawning settings here (complete settings here cursor pending) world := by
  rcases pending with _ | ⟨statement, predicate, block⟩ | ⟨statement, terminator⟩ | _
  · exact ⟨rfl, rfl, rfl, rfl⟩
  · exact round_spawning settings here statement predicate block cursor world
      (present statement predicate block rfl)
  · refine ensures_still (still_skip terminator cursor) (fun _ => rfl) ?_
    exact fun _ _ => ⟨rfl, rfl, rfl, rfl⟩
  · exact ⟨rfl, rfl, rfl, rfl⟩

end Deed
end BareBones
