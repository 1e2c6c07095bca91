import BareBones.Proofs.Footprint

set_option autoImplicit false

namespace BareBones.Deed

variable {σ α β : Type} {settings : Settings σ} {here : Activation} {before after : World}

theorem bind_answers {deed : Deed α} {next : α → Deed β} {b : β}
    (done : (deed >>= next) before = (.ok b, after)) :
    ∃ a middle, deed before = (.ok a, middle) ∧ next a middle = (.ok b, after) := by
  rw [effect_bind] at done
  cases first : deed before with
  | mk result middle =>
      rw [first] at done
      cases result with
      | error failure => cases done
      | ok a => exact ⟨a, middle, rfl, done⟩

theorem still_answers {deed : Deed α} {a : α} (still : Still deed)
    (done : deed before = (.ok a, after)) : after = before := by
  have same := still before
  rw [done] at same
  exact same

theorem carve_answers {kind : BlockKind} {header : Location} {cursor : Cursor} {carved : Block × Cursor}
    (done : carve kind header cursor before = (.ok carved, after)) :
    after = before ∧ Block.read kind.keyword header false cursor = .ok carved := by
  refine ⟨still_answers (still_settled _) done, ?_⟩
  have result := congrArg Prod.fst done
  change (Block.read kind.keyword header false cursor).mapError Failure.fault = .ok carved at result
  cases reading : Block.read kind.keyword header false cursor with
  | error fault =>
      rw [reading] at result
      cases result
  | ok found =>
      rw [reading] at result
      cases result
      rfl

theorem find_answers {location : Location} {name : Text} {block : Block}
    (done : find here location name before = (.ok block, after)) :
    after = before ∧ before.store.function? here.path name = some block := by
  refine ⟨still_answers (still_find here location name) done, ?_⟩
  unfold find at done
  rw [effect_bind, effect_get] at done
  cases found : before.store.function? here.path name with
  | none =>
      simp only [found] at done
      cases done
  | some body =>
      simp only [found] at done
      cases done
      rfl

theorem spawn_answers {location : Location} {id : Nat}
    (done : spawn settings here location before = (.ok id, after)) :
    id = before.created ∧ after = { before with created := before.created + 1 } ∧
      settings.maxDepth.allow here.depth location = .ok () :=
  ensures_answered (spawn_ensures settings here location before) done

theorem record_answers {statement : Statement}
    (done : record settings here statement before = (.ok (), after)) :
    ∃ snapshot, after = { before with
      journal := before.journal.record (some here.id) (some statement.location)
        statement.command.label snapshot } := by
  unfold record at done
  cases verbose : settings.verbose with
  | false =>
      rw [verbose] at done
      cases done
      exact ⟨none, rfl⟩
  | true =>
      rw [verbose] at done
      obtain ⟨_, _, ⟨⟩, going⟩ := bind_answers done
      obtain ⟨snapshot, _, taken, modified⟩ := bind_answers going
      cases still_answers (still_bind (still_settled _) fun _ => still_pure _) taken
      cases modified
      exact ⟨snapshot, rfl⟩

inductive Rounds (settings : Settings σ) (here : Activation) (statement : Statement) (predicate : Text)
    (block : Block) (before : World) : Option Frame → World → Prop
  | stopped (fails : holds here predicate statement.location before = (.ok false, before)) :
      Rounds settings here statement predicate block before none before
  | again (succeeds : holds here predicate statement.location before = (.ok true, before))
      (allowed : settings.maxDepth.allow here.depth statement.location = .ok ()) :
      Rounds settings here statement predicate block before
        (some ((here.inner before.created (Machine.blockLabel .loop statement.location)
          here.arguments).frame (Machine.blockLabel .loop statement.location) statement.location
          block.body (.loop statement predicate block)))
        { before with created := before.created + 1 }

theorem round_answers {statement : Statement} {predicate : Text} {block : Block} {next : Option Frame}
    (done : round settings here statement predicate block before = (.ok next, after)) :
    Rounds settings here statement predicate block before next after := by
  obtain ⟨taken, middle, tested, going⟩ := bind_answers done
  cases still_answers (still_evaluate here _ _) tested
  cases taken with
  | false =>
      cases going
      exact .stopped tested
  | true =>
      obtain ⟨id, spawned, spawning, ended⟩ := bind_answers going
      obtain ⟨rfl, rfl, allowed⟩ := spawn_answers spawning
      cases ended
      exact .again tested allowed

inductive Performs (settings : Settings σ) (here : Activation) (statement : Statement) (rest : Cursor)
    (before : World) : Cursor × Option Frame → World → Prop
  | atOnce {after : World} (done : atOnce settings here statement before = (.ok (), after)) :
      Performs settings here statement rest before (rest, none) after
  | defined {name : Text} {block : Block} {left : Cursor} (asked : statement.command = .define name)
      (reading : Block.read BlockKind.function.keyword statement.location false rest =
        .ok (block, left)) :
      Performs settings here statement rest before (left, none)
        { before with store := before.store.define here.path name block }
  | looped {predicate : Text} {block : Block} {left : Cursor} {next : Option Frame} {after : World}
      (asked : statement.command = .loop predicate)
      (reading : Block.read BlockKind.loop.keyword statement.location false rest = .ok (block, left))
      (rounds : Rounds settings here statement predicate block
        { before with
          store := before.store.enter (here.path ++ [Machine.blockLabel .loop statement.location]) }
        next after) :
      Performs settings here statement rest before (left, next) after
  | passed {predicate : Text} {left : Cursor} (asked : statement.command = .branch predicate)
      (chosen : choose here (some predicate) statement.location rest before =
        (.ok (none, left), before)) :
      Performs settings here statement rest before (left, none) before
  | branched {predicate : Text} {block : Block} {clause : Location} {left : Cursor}
      (asked : statement.command = .branch predicate)
      (chosen : choose here (some predicate) statement.location rest before =
        (.ok (some (block, clause), left), before))
      (allowed : settings.maxDepth.allow here.depth clause = .ok ()) :
      Performs settings here statement rest before
        (left, some ((here.inner before.created (Machine.blockLabel .branch clause)
          here.arguments).frame (Machine.blockLabel .branch clause) clause block.body
          (.branch statement block.terminator)))
        { before with
          store := before.store.enter (here.path ++ [Machine.blockLabel .branch clause])
          created := before.created + 1 }
  | called {name : Text} {arguments : List Text} {block : Block}
      (asked : statement.command = .call name arguments)
      (found : before.store.function? here.path name = some block)
      (allowed : settings.maxDepth.allow here.depth statement.location = .ok ()) :
      Performs settings here statement rest before
        (rest, some ((here.inner before.created name arguments).frame name statement.location
          block.body (.call statement name arguments)))
        { before with
          store := before.store.enter (here.path ++ [name])
          created := before.created + 1 }

theorem perform_answers {statement : Statement} {rest : Cursor} {next : Cursor × Option Frame}
    (done : perform settings here statement rest before = (.ok next, after)) :
    Performs settings here statement rest before next after := by
  have once (plain : (do
      atOnce settings here statement
      return (rest, (none : Option Frame))) before = (.ok next, after)) :
      Performs settings here statement rest before next after := by
    obtain ⟨_, _, did, ended⟩ := bind_answers plain
    cases ended
    exact .atOnce did
  unfold perform at done
  cases asked : statement.command with
  | define name =>
      simp only [asked] at done
      obtain ⟨⟨block, left⟩, _, carving, rest⟩ := bind_answers done
      obtain ⟨rfl, reading⟩ := carve_answers carving
      cases rest
      exact .defined asked reading
  | loop predicate =>
      simp only [asked] at done
      obtain ⟨⟨block, left⟩, _, carving, entering⟩ := bind_answers done
      obtain ⟨rfl, reading⟩ := carve_answers carving
      obtain ⟨_, _, ⟨⟩, going⟩ := bind_answers entering
      obtain ⟨body, _, rounding, ⟨⟩⟩ := bind_answers going
      exact .looped asked reading (round_answers rounding)
  | branch predicate =>
      simp only [asked] at done
      obtain ⟨⟨choice, left⟩, _, chosen, going⟩ := bind_answers done
      cases still_answers (still_choose here _ _ rest) chosen
      cases choice with
      | none =>
          cases going
          exact .passed asked chosen
      | some taken =>
          obtain ⟨block, clause⟩ := taken
          obtain ⟨_, _, ⟨⟩, spawning⟩ := bind_answers going
          obtain ⟨id, _, spawned, ended⟩ := bind_answers spawning
          obtain ⟨rfl, rfl, allowed⟩ := spawn_answers spawned
          cases ended
          exact .branched asked chosen allowed
  | call name arguments =>
      simp only [asked] at done
      obtain ⟨block, _, finding, entering⟩ := bind_answers done
      obtain ⟨rfl, found⟩ := find_answers finding
      obtain ⟨_, _, ⟨⟩, spawning⟩ := bind_answers entering
      obtain ⟨id, _, spawned, ended⟩ := bind_answers spawning
      obtain ⟨rfl, rfl, allowed⟩ := spawn_answers spawned
      cases ended
      exact .called asked found allowed
  | clear name =>
      simp only [asked] at done
      exact once done
  | count direction name =>
      simp only [asked] at done
      exact once done
  | debug name =>
      simp only [asked] at done
      exact once done
  | print format =>
      simp only [asked] at done
      exact once done
  | assign name format =>
      simp only [asked] at done
      exact once done
  | unsupported =>
      simp only [asked] at done
      exact once done

theorem bind_done {deed : Deed α} {next : α → Deed β} {a : α} {middle : World}
    (first : deed before = (.ok a, middle)) : (deed >>= next) before = next a middle := by
  rw [effect_bind, first]

theorem carve_done {kind : BlockKind} {header : Location} {cursor : Cursor} {carved : Block × Cursor}
    (reading : Block.read kind.keyword header false cursor = .ok carved) :
    carve kind header cursor before = (.ok carved, before) := by
  unfold carve
  rw [reading]
  rfl

theorem find_done {location : Location} {name : Text} {block : Block}
    (found : before.store.function? here.path name = some block) :
    find here location name before = (.ok block, before) := by
  unfold find
  rw [effect_bind, effect_get]
  simp only [found]
  rfl

theorem spawn_done {location : Location}
    (allowed : settings.maxDepth.allow here.depth location = .ok ()) :
    spawn settings here location before =
      (.ok before.created, { before with created := before.created + 1 }) := by
  unfold spawn
  rw [allowed]
  rfl

theorem round_done {statement : Statement} {predicate : Text} {block : Block} {next : Option Frame}
    (rounds : Rounds settings here statement predicate block before next after) :
    round settings here statement predicate block before = (.ok next, after) := by
  unfold round
  cases rounds with
  | stopped fails =>
      rw [bind_done fails]
      rfl
  | again succeeds allowed =>
      rw [bind_done succeeds]
      exact bind_done (spawn_done allowed)

theorem perform_done {statement : Statement} {rest : Cursor} {next : Cursor × Option Frame}
    (performs : Performs settings here statement rest before next after) :
    perform settings here statement rest before = (.ok next, after) := by
  unfold perform
  cases performs with
  | atOnce done =>
      cases asked : statement.command with
      | define _ | loop _ | branch _ | call _ _ =>
          simp only [atOnce, asked] at done
          cases done
      | _ => exact bind_done done
  | defined asked reading =>
      simp only [asked]
      rw [bind_done (carve_done reading)]
      rfl
  | looped asked reading rounds =>
      simp only [asked]
      rw [bind_done (carve_done reading)]
      exact bind_done (round_done rounds)
  | passed asked chosen =>
      simp only [asked]
      rw [bind_done chosen]
      rfl
  | branched asked chosen allowed =>
      simp only [asked]
      rw [bind_done chosen]
      exact bind_done (spawn_done allowed)
  | called asked found allowed =>
      simp only [asked]
      rw [bind_done (find_done found)]
      exact bind_done (spawn_done allowed)

theorem launch_done (settings : Settings σ) (here : Activation) (line : Line) (rest : Cursor)
    (before : World) {command : Command} {next : Cursor × Option Frame} (terse : settings.verbose = false)
    (reading : Statement.read line = .ok ⟨line.location, command⟩)
    (performs : Performs settings here ⟨line.location, command⟩ rest
      (before.recorded here line.location command) next after) :
    launch settings here line rest before = (.ok next, after) :=
  (launch_read settings here line rest command before terse reading).trans (perform_done performs)

theorem launch_answers {line : Line} {rest : Cursor} {next : Cursor × Option Frame}
    (done : launch settings here line rest before = (.ok next, after)) :
    ∃ statement snapshot, Statement.read line = .ok statement ∧
      Performs settings here statement rest { before with
        journal := before.journal.record (some here.id) (some statement.location)
          statement.command.label snapshot } next after := by
  obtain ⟨statement, _, reading, starting⟩ := bind_answers done
  cases still_answers (still_settled _) reading
  obtain ⟨_, _, recording, performing⟩ := bind_answers starting
  obtain ⟨snapshot, rfl⟩ := record_answers recording
  exact ⟨statement, snapshot, read_answers line statement before reading, perform_answers performing⟩

theorem complete_answers {pending : Option Resume} {cursor : Cursor} {next : Cursor × Option Frame}
    (done : complete settings here cursor pending before = (.ok next, after)) :
    (∃ statement predicate block, pending = some (.loop statement predicate block) ∧
        next.1 = cursor ∧ Rounds settings here statement predicate block before next.2 after) ∨
      (∃ statement terminator, pending = some (.branch statement terminator) ∧
        skip terminator cursor before = (.ok next.1, before) ∧ next.2 = none ∧ after = before) ∨
      next = (cursor, none) ∧ after = before := by
  rcases pending with _ | ⟨statement, predicate, block⟩ | ⟨statement, terminator⟩ | _
  · cases done
    exact .inr (.inr ⟨rfl, rfl⟩)
  · obtain ⟨body, _, rounding, ⟨⟩⟩ := bind_answers done
    exact .inl ⟨statement, predicate, block, rfl, rfl, round_answers rounding⟩
  · obtain ⟨left, _, skipping, ⟨⟩⟩ := bind_answers done
    cases still_answers (still_skip terminator cursor) skipping
    exact .inr (.inl ⟨statement, terminator, rfl, skipping, rfl, rfl⟩)
  · cases done
    exact .inr (.inr ⟨rfl, rfl⟩)

end BareBones.Deed
