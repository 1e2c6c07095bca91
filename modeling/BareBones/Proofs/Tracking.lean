import BareBones.Proofs.Layering
import BareBones.Proofs.Relabelling

set_option autoImplicit false

namespace BareBones

variable {twin : Line → Line → Prop}

structure World.Twin (twin : Line → Line → Prop) (one other : World) : Prop where
  store : one.store.Twin twin other.store
  written : one.written = other.written

structure Activation.Twin (twin : Line → Line → Prop) (one other : Activation) : Prop where
  path : one.path.Twin twin other.path
  arguments : one.arguments = other.arguments
  depth : one.depth = other.depth

inductive Resume.Twin (twin : Line → Line → Prop) : Resume → Resume → Prop
  | loop {statement counterpart : Statement} {predicate : Text} {block body : Block}
      (labels : Renames twin (Machine.blockLabel .loop statement.location)
        (Machine.blockLabel .loop counterpart.location))
      (quiet : ¬predicate.AsksPath) (blocks : block.Twin twin body) :
      Twin twin (.loop statement predicate block) (.loop counterpart predicate body)
  | branch {statement counterpart : Statement} {terminator closing : Line}
      (ends : twin terminator closing) :
      Twin twin (.branch statement terminator) (.branch counterpart closing)
  | call {statement counterpart : Statement} {name : Text} {arguments : List Text} :
      Twin twin (.call statement name arguments) (.call counterpart name arguments)

structure Frame.Twin (twin : Line → Line → Prop) (one other : Frame) : Prop where
  path : one.path.Twin twin other.path
  arguments : one.arguments = other.arguments
  cursor : List.Forall₂ twin one.cursor other.cursor
  resume : Option.Rel (Resume.Twin twin) one.resume other.resume

structure Carried (twin : Line → Line → Prop) (one other : Cursor × Option Frame) : Prop where
  cursor : List.Forall₂ twin one.1 other.1
  body : Option.Rel (Frame.Twin twin) one.2 other.2

namespace Deed

variable {σ α : Type} {settings : Settings σ} {here there : Activation} {before beside after : World}

theorem env_peers (activations : here.Twin twin there) (worlds : before.Twin twin beside) :
    (here.env before).Peers (there.env beside) :=
  ⟨fun name => Store.read_twin worlds.store name activations.path, activations.arguments⟩

theorem placed_ok {location : Location} {result : Except Failure α} {a : α}
    (done : placed location result = .ok a) : result = .ok a := by
  cases result with
  | error failure => cases done
  | ok found => exact done

theorem evaluate_twin {expression : Env → Except Failure α} {location : Location} (place : Location) {a : α}
    (same : expression (here.env before) = expression (there.env beside))
    (done : evaluate here location expression before = (.ok a, after)) :
    after = before ∧ evaluate there place expression beside = (.ok a, beside) := by
  refine ⟨still_answers (still_evaluate here location expression) done, ?_⟩
  have result : placed location (expression (here.env before)) = .ok a := congrArg Prod.fst done
  exact evaluate_answered there place expression beside a (same ▸ placed_ok result)

theorem holds_twin (activations : here.Twin twin there) (worlds : before.Twin twin beside)
    {predicate : Text} (quiet : ¬predicate.AsksPath) {location place : Location} {taken : Bool}
    (done : holds here predicate location before = (.ok taken, after)) :
    holds there predicate place beside = (.ok taken, beside) :=
  (evaluate_twin place (Env.test_peers (env_peers activations worlds) predicate quiet) done).2

theorem allow_elsewhere (limit : DepthLimit) (living : Nat) (location place : Location)
    (allowed : limit.allow living location = .ok ()) : limit.allow living place = .ok () := by
  cases limit with
  | atMost count => rwa [DepthLimit.allow_atMost] at allowed ⊢
  | blank => cases allowed

structure Picked (twin : Line → Line → Prop) (one other : Block × Location) : Prop where
  block : one.1.Twin twin other.1
  clause : Renames twin (Machine.blockLabel .branch one.2) (Machine.blockLabel .branch other.2)

theorem admits_twin (activations : here.Twin twin there) (worlds : before.Twin twin beside)
    {predicate : Option Text} (quiet : ∀ text ∈ predicate, ¬Text.AsksPath text) {location place : Location}
    {taken : Bool} (done : admits here location predicate before = (.ok taken, after)) :
    admits there place predicate beside = (.ok taken, beside) := by
  cases predicate with
  | none =>
      cases done
      rfl
  | some text => exact holds_twin activations worlds (quiet text rfl) done

theorem read_else_twin (faithful : Line.Faithful twin) {line counterpart : Line} {predicate : Option Text}
    (both : twin line counterpart) (reading : Boundary.readElse line = .ok predicate) :
    Boundary.readElse counterpart = .ok predicate ∧ Boundary.isElse line.text = true ∧
      ∀ text ∈ predicate, ¬Text.AsksPath text := by
  unfold Boundary.readElse at reading ⊢
  rw [← faithful.text _ _ both]
  cases found : Boundary.elseClause? line.text with
  | none =>
      rw [found] at reading
      cases reading
  | some clause =>
      rw [found] at reading
      cases reading
      refine ⟨rfl, Option.isSome_iff_exists.mpr ⟨_, found⟩, ?_⟩
      rintro text ⟨⟩
      exact Text.quiet_part (Boundary.else_within _ _ found) (faithful.quiet _ _ both)

theorem choose_twin (faithful : Line.Faithful twin) (activations : here.Twin twin there)
    (worlds : before.Twin twin beside) (predicate : Option Text) (location place : Location)
    (one other rest : Cursor) (choice : Option (Block × Location))
    (quiet : ∀ text ∈ predicate, ¬Text.AsksPath text)
    (labels : Renames twin (Machine.blockLabel .branch location) (Machine.blockLabel .branch place))
    (cursors : List.Forall₂ twin one other)
    (done : choose here predicate location one before = (.ok (choice, rest), before)) :
    ∃ mate behind, choose there predicate place other beside = (.ok (mate, behind), beside) ∧
      Option.Rel (Picked twin) choice mate ∧ List.Forall₂ twin rest behind := by
  cases reading : Block.read BlockKind.branch.keyword location true one with
  | error fault =>
      rw [choose_unread here predicate location one fault reading] at done
      cases done
  | ok found =>
      obtain ⟨block, left⟩ := found
      obtain ⟨body, behind, again, blocks, lefts⟩ :=
        Block.read_twin faithful _ location place true cursors reading
      have ends : block.endsAtElse = body.endsAtElse :=
        congrArg Boundary.isElse (faithful.text _ _ blocks.terminator)
      rw [choose_read here predicate location one left block reading] at done
      rw [choose_read there predicate place other behind body again]
      obtain ⟨taken, _, tested, going⟩ := bind_answers done
      cases still_answers (still_admits here location predicate) tested
      rw [bind_done (admits_twin activations worlds quiet tested), ← ends]
      cases taken with
      | true =>
          cases going
          exact ⟨_, _, rfl, .some ⟨blocks, labels⟩, lefts⟩
      | false =>
          cases stops : block.endsAtElse with
          | false =>
              rw [stops] at going
              cases going
              exact ⟨_, _, rfl, .none, lefts⟩
          | true =>
              rw [stops] at going
              simp only [Bool.false_eq_true, if_false, Bool.not_true] at going ⊢
              have clauses := Cursor.next_twin faithful lefts
              cases taking : Cursor.next? left with
              | none =>
                  rw [taking] at going
                  cases going
              | some ahead =>
                  obtain ⟨line, after⟩ := ahead
                  rw [taking] at going clauses
                  generalize Cursor.next? behind = counterpart at clauses
                  cases clauses with
                  | @some _ counterpart both =>
                      cases clause : Boundary.readElse line with
                      | error fault =>
                          simp only [clause] at going
                          cases going
                      | ok next =>
                          simp only [clause] at going
                          obtain ⟨reads, stops, hushed⟩ := read_else_twin faithful both.1 clause
                          simp only [reads]
                          exact choose_twin faithful activations worlds next line.location
                            counterpart.1.location after counterpart.2 rest choice hushed
                            (.clause both.1 stops) both.2 going
termination_by one.length
decreasing_by
  have kept := Block.read_rest_length reading
  have shorter := Cursor.next_shorter _ _ _ taking
  omega

theorem skip_twin (faithful : Line.Faithful twin) {terminator closing : Line} (ends : twin terminator closing)
    {one other rest : Cursor} (cursors : List.Forall₂ twin one other)
    (done : skip terminator one before = (.ok rest, before)) :
    ∃ behind, skip closing other beside = (.ok behind, beside) ∧ List.Forall₂ twin rest behind := by
  unfold skip at done ⊢
  rw [← faithful.text _ _ ends]
  cases clause : Boundary.isElse terminator.text with
  | false =>
      rw [clause] at done
      cases done
      exact ⟨other, rfl, cursors⟩
  | true =>
      rw [clause] at done
      simp only [if_true] at done ⊢
      have heads := Cursor.next_twin faithful cursors
      cases taking : Cursor.next? one with
      | none =>
          rw [taking] at done
          cases done
      | some ahead =>
          rw [taking] at done heads
          generalize Cursor.next? other = counterpart at heads
          cases heads with
          | some both =>
              obtain ⟨⟨block, left⟩, _, carving, ended⟩ := bind_answers done
              obtain ⟨rfl, reading⟩ := carve_answers carving
              cases ended
              obtain ⟨_, behind, again, _, lefts⟩ :=
                Block.read_twin faithful _ _ closing.location false both.2 reading
              exact ⟨behind, bind_done (carve_done again), lefts⟩

theorem emit_terse (terse : settings.verbose = false) (location : Location) (text : Text) (world : World) :
    emit settings location text world = (.ok (), { world with written := text :: world.written }) := by
  unfold emit
  rw [terse]
  rfl

structure Abroad (twin : Line → Line → Prop) (here there : Activation) (before beside : World) : Prop where
  activations : here.Twin twin there
  worlds : before.Twin twin beside
  present : (before.store.scopeAt? here.path).isSome
  counterpart : (beside.store.scopeAt? there.path).isSome

theorem assign_twin (abroad : Abroad twin here there before beside) (name : Text) (value : Value)
    (tidy : (before.store.write here.path name value).Tidy twin) :
    ∃ ending, assign there name value beside = (.ok (), ending) ∧
      World.Twin twin { before with store := before.store.write here.path name value } ending :=
  ⟨_, rfl, Store.write_twin abroad.worlds.store name value abroad.activations.path abroad.present
    abroad.counterpart tidy, abroad.worlds.written⟩

theorem count_twin (abroad : Abroad twin here there before beside) {location place : Location}
    {direction : Direction} {name : Text} (tidy : after.store.Tidy twin)
    (done : count here location direction name before = (.ok (), after)) :
    ∃ ending, count there place direction name beside = (.ok (), ending) ∧ after.Twin twin ending := by
  obtain ⟨previous, _, reading, going⟩ := bind_answers done
  obtain ⟨rfl, again⟩ := evaluate_twin place
    (Env.value_peers (env_peers abroad.activations abroad.worlds) name) reading
  obtain ⟨number, _, integer, going⟩ := bind_answers going
  cases still_answers (still_settled _) integer
  unfold count
  rw [readVariable, bind_done again]
  have same : settled (Env.orBreakdown previous.integer?) beside = (.ok number, beside) := by
    have result : Env.orBreakdown previous.integer? = .ok number := congrArg Prod.fst integer
    rw [settled, result]
  rw [bind_done same]
  cases number with
  | none =>
      obtain ⟨_, _, _, failed⟩ := bind_answers going
      cases failed
  | some n =>
      cases going
      exact assign_twin abroad name _ tidy

theorem at_once_twin (terse : settings.verbose = false) (abroad : Abroad twin here there before beside)
    (command : Command) (location place : Location) (text : Text) (stands : command.Stands text)
    (quiet : ¬text.AsksPath) (tidy : after.store.Tidy twin)
    (done : atOnce settings here ⟨location, command⟩ before = (.ok (), after)) :
    ∃ ending, atOnce settings there ⟨place, command⟩ beside = (.ok (), ending) ∧
      after.Twin twin ending := by
  have peers := env_peers abroad.activations abroad.worlds
  have wrote := abroad.worlds.written
  cases command with
  | clear name =>
      cases done
      exact assign_twin abroad name _ tidy
  | count direction name => exact count_twin abroad tidy done
  | debug name =>
      obtain ⟨value, _, reading, going⟩ := bind_answers done
      obtain ⟨rfl, again⟩ := evaluate_twin place (Env.value_peers peers name) reading
      obtain ⟨shown, _, showing, going⟩ := bind_answers going
      cases still_answers (still_settled _) showing
      have same : written value beside = (.ok shown, beside) := by
        have result : Env.orBreakdown value.written = .ok shown := congrArg Prod.fst showing
        rw [written, settled, result]
      rw [emit_terse terse] at going
      cases going
      refine ⟨_, (bind_done again).trans ((bind_done same).trans (emit_terse terse _ _ _)), ?_⟩
      exact ⟨abroad.worlds.store, congrArg (_ :: ·) wrote⟩
  | print format =>
      obtain ⟨line, _, expanding, going⟩ := bind_answers done
      obtain ⟨rfl, again⟩ := evaluate_twin place
        (Env.expand_peers peers format (Text.quiet_part stands quiet)) expanding
      rw [emit_terse terse] at going
      cases going
      refine ⟨_, (bind_done again).trans (emit_terse terse _ _ _), ?_⟩
      exact ⟨abroad.worlds.store, congrArg (_ :: ·) wrote⟩
  | assign name format =>
      obtain ⟨held, _, expanding, going⟩ := bind_answers done
      obtain ⟨rfl, again⟩ := evaluate_twin place
        (Env.expand_peers peers format (Text.quiet_part stands quiet)) expanding
      cases going
      obtain ⟨ending, assigned, worlds⟩ := assign_twin abroad name _ tidy
      exact ⟨ending, (bind_done again).trans assigned, worlds⟩
  | _ => cases done

theorem spawned_twin (activations : here.Twin twin there) {label counterpart : Text}
    (labels : Renames twin label counterpart) {arguments : List Text} {lines others : Cursor}
    (cursors : List.Forall₂ twin lines others) {resume pending : Resume}
    (resumes : resume.Twin twin pending) (id number : Nat) (location place : Location) :
    Frame.Twin twin ((here.inner id label arguments).frame label location lines resume)
      ((there.inner number counterpart arguments).frame counterpart place others pending) :=
  ⟨Path.twin_append activations.path labels, rfl, cursors, .some resumes⟩

theorem rounds_twin (counterpart : Statement) (activations : here.Twin twin there)
    (worlds : before.Twin twin beside) {statement : Statement} {predicate : Text} {block body : Block}
    {next : Option Frame}
    (labels : Renames twin (Machine.blockLabel .loop statement.location)
      (Machine.blockLabel .loop counterpart.location))
    (quiet : ¬predicate.AsksPath) (blocks : block.Twin twin body)
    (rounds : Rounds settings here statement predicate block before next after) :
    ∃ other ending, Rounds settings there counterpart predicate body beside other ending ∧
      Option.Rel (Frame.Twin twin) next other ∧ after.Twin twin ending := by
  cases rounds with
  | stopped fails =>
      exact ⟨none, beside, .stopped (holds_twin activations worlds quiet fails), .none, worlds⟩
  | again succeeds allowed =>
      have may := activations.depth ▸ allow_elsewhere _ _ _ counterpart.location allowed
      refine ⟨_, _, .again (holds_twin activations worlds quiet succeeds) may, .some ?_,
        worlds.store, worlds.written⟩
      rw [← activations.arguments]
      exact spawned_twin activations labels blocks.body (.loop labels quiet blocks) _ _ _ _

theorem branch_twin (faithful : Line.Faithful twin) (abroad : Abroad twin here there before beside)
    {line mate : Line} (both : twin line mate) {predicate : Text}
    (header : Boundary.headerOf? .branch line.text = some predicate) {rest behind left : Cursor}
    (cursors : List.Forall₂ twin rest behind) {choice : Option (Block × Location)}
    (chosen : choose here (some predicate) line.location rest before = (.ok (choice, left), before)) :
    ∃ counterpart after, choose there (some predicate) mate.location behind beside =
        (.ok (counterpart, after), beside) ∧
      Option.Rel (Picked twin) choice counterpart ∧ List.Forall₂ twin left after := by
  have hushed := Text.quiet_part (Boundary.header_within _ _ _ header) (faithful.quiet _ _ both)
  refine choose_twin faithful abroad.activations abroad.worlds _ _ mate.location _ behind _ _ ?_
    (.branch both header) cursors chosen
  rintro _ ⟨⟩
  exact hushed

theorem performs_twin (faithful : Line.Faithful twin) (terse : settings.verbose = false)
    (abroad : Abroad twin here there before beside) {line mate : Line} (both : twin line mate)
    {command : Command} (reading : Statement.read line = .ok ⟨line.location, command⟩)
    {rest behind : Cursor} (cursors : List.Forall₂ twin rest behind) {next : Cursor × Option Frame}
    (tidy : after.store.Tidy twin)
    (performs : Performs settings here ⟨line.location, command⟩ rest before next after) :
    ∃ other ending, Performs settings there ⟨mate.location, command⟩ behind beside other ending ∧
      Carried twin next other ∧ after.Twin twin ending := by
  have quiet := faithful.quiet _ _ both
  have stands : command.Stands line.text := by
    obtain ⟨_, found, same⟩ := Statement.map_ok reading
    cases same
    exact Statement.command_stands line command found
  have entered (label counterpart : Text) : World.Twin twin
      { before with store := before.store.enter (here.path ++ [label]) }
      { beside with store := beside.store.enter (there.path ++ [counterpart]) } :=
    ⟨Store.enter_twin abroad.worlds.store _ _, abroad.worlds.written⟩
  have may (location place : Location) (allowed : settings.maxDepth.allow here.depth location = .ok ()) :
      settings.maxDepth.allow there.depth place = .ok () :=
    abroad.activations.depth ▸ allow_elsewhere _ _ _ place allowed
  cases performs with
  | atOnce done =>
      obtain ⟨ending, again, worlds⟩ :=
        at_once_twin terse abroad command _ mate.location line.text stands quiet tidy done
      exact ⟨_, ending, .atOnce again, ⟨cursors, .none⟩, worlds⟩
  | defined asked block =>
      cases asked
      obtain ⟨body, left, again, blocks, lefts⟩ :=
        Block.read_twin faithful _ _ mate.location false cursors block
      refine ⟨_, _, .defined rfl again, ⟨lefts, .none⟩, ?_, abroad.worlds.written⟩
      exact Store.define_twin abroad.worlds.store _ blocks abroad.activations.path abroad.present
        abroad.counterpart tidy
  | looped asked block rounds =>
      cases asked
      obtain ⟨body, left, again, blocks, lefts⟩ :=
        Block.read_twin faithful _ _ mate.location false cursors block
      have hushed := Text.quiet_part (Boundary.header_within _ _ _ stands) quiet
      have labels : Renames twin (Machine.blockLabel .loop line.location)
          (Machine.blockLabel .loop mate.location) := .loop both stands
      obtain ⟨other, ending, further, bodies, worlds⟩ := rounds_twin ⟨mate.location, _⟩
        abroad.activations (entered _ _) labels hushed blocks rounds
      exact ⟨_, ending, .looped rfl again further, ⟨lefts, bodies⟩, worlds⟩
  | passed asked chosen =>
      cases asked
      obtain ⟨_, left, again, choice, lefts⟩ := branch_twin faithful abroad both stands cursors chosen
      cases choice
      exact ⟨_, _, .passed rfl again, ⟨lefts, .none⟩, abroad.worlds⟩
  | branched asked chosen allowed =>
      cases asked
      obtain ⟨choice, left, again, taken, lefts⟩ := branch_twin faithful abroad both stands cursors chosen
      cases taken with
      | some picked =>
          refine ⟨_, _, .branched rfl again (may _ _ allowed), ⟨lefts, .some ?_⟩,
            (entered _ _).store, abroad.worlds.written⟩
          rw [← abroad.activations.arguments]
          exact spawned_twin abroad.activations picked.clause picked.block.body
            (.branch picked.block.terminator) _ _ _ _
  | @called name arguments block asked found allowed =>
      cases asked
      have bodies := Store.function_twin abroad.worlds.store name abroad.activations.path
      rw [found] at bodies
      cases counterpart : beside.store.function? there.path name with
      | none =>
          rw [counterpart] at bodies
          cases bodies
      | some body =>
          rw [counterpart] at bodies
          cases bodies with
          | some blocks =>
              refine ⟨_, _, .called rfl counterpart (may _ _ allowed), ⟨cursors, .some ?_⟩,
                (entered _ _).store, abroad.worlds.written⟩
              exact spawned_twin abroad.activations (.call both reading) blocks.body .call _ _ _ _

theorem launch_twin (faithful : Line.Faithful twin) (terse : settings.verbose = false)
    (abroad : Abroad twin here there before beside) {line mate : Line} (both : twin line mate)
    {rest behind : Cursor} (cursors : List.Forall₂ twin rest behind) {next : Cursor × Option Frame}
    (tidy : after.store.Tidy twin) (done : launch settings here line rest before = (.ok next, after)) :
    ∃ other ending, launch settings there mate behind beside = (.ok other, ending) ∧
      Carried twin next other ∧ after.Twin twin ending := by
  obtain ⟨statement, snapshot, reading, performs⟩ := launch_answers done
  obtain ⟨same, again⟩ := Statement.read_elsewhere line mate statement (faithful.text _ _ both) reading
  rw [same] at reading performs
  have recorded : Abroad twin here there
      { before with
        journal := before.journal.record (some here.id) (some line.location) statement.command.label
          snapshot }
      (beside.recorded there mate.location statement.command) :=
    ⟨abroad.activations, ⟨abroad.worlds.store, abroad.worlds.written⟩, abroad.present, abroad.counterpart⟩
  obtain ⟨other, ending, further, carried, worlds⟩ :=
    performs_twin faithful terse recorded both reading cursors tidy performs
  refine ⟨other, ending, ?_, carried, worlds⟩
  rw [launch_read settings there mate behind _ beside terse again]
  exact perform_done further

theorem complete_twin (faithful : Line.Faithful twin) (activations : here.Twin twin there)
    (worlds : before.Twin twin beside) {cursor other : Cursor} (cursors : List.Forall₂ twin cursor other)
    {pending counterpart : Option Resume} (resumes : Option.Rel (Resume.Twin twin) pending counterpart)
    {next : Cursor × Option Frame} (done : complete settings here cursor pending before = (.ok next, after)) :
    ∃ result ending, complete settings there other counterpart beside = (.ok result, ending) ∧
      Carried twin next result ∧ after.Twin twin ending := by
  cases resumes with
  | none =>
      cases done
      exact ⟨_, _, rfl, ⟨cursors, .none⟩, worlds⟩
  | some resume =>
      cases resume with
      | call =>
          cases done
          exact ⟨_, _, rfl, ⟨cursors, .none⟩, worlds⟩
      | @loop _ mate _ _ _ labels quiet blocks =>
          obtain ⟨body, _, rounding, ended⟩ := bind_answers done
          obtain ⟨frame, ending, again, bodies, worlds⟩ :=
            rounds_twin mate activations worlds labels quiet blocks (round_answers rounding)
          cases ended
          exact ⟨_, ending, bind_done (round_done again), ⟨cursors, bodies⟩, worlds⟩
      | branch ends =>
          obtain ⟨left, _, skipping, ended⟩ := bind_answers done
          cases ended
          cases still_answers (still_skip _ cursor) skipping
          obtain ⟨behind, again, lefts⟩ := skip_twin faithful ends cursors skipping
          exact ⟨_, _, bind_done again, ⟨lefts, .none⟩, worlds⟩

end Deed

namespace Machine

variable {σ : Type} {settings : Settings σ}

theorem turn_goes (machine : Machine σ) {frame : Frame} {below : List Frame}
    {deed : Deed (Cursor × Option Frame)} {next : Cursor × Option Frame} {world : World}
    (unobserved : settings.Unobserved) (turn : Turn settings machine.stack frame below deed)
    (done : deed machine.world = (.ok next, world)) :
    ∃ after, Goes settings machine after ∧ after.world = world ∧
      after.stack = next.2.toList ++ frame.moved next.1 :: below := by
  generalize stands : machine.stack = stack at turn
  cases turn with
  | line _ _ line rest taking =>
      exact goes_line machine frame below line rest next world unobserved stands taking done
  | back ended _ _ spent =>
      have outcome := step_return settings machine ended frame below (unobserved_discreet unobserved)
        stands spent
      rw [done] at outcome
      generalize stepped : step settings machine = result at outcome
      cases outcome with
      | @answered _ _ after met =>
          obtain ⟨rfl, stack⟩ := met
          exact ⟨after, stepped, rfl, stack⟩

theorem stored_filled {path : Path} {spawns : Bool} {before after : Store}
    (stored : Stored path spawns before after) : before.Filled after := by
  cases stored with
  | kept => exact fun _ filled => filled
  | entered label =>
      intro place filled
      rwa [Store.scope_enter]
  | written name value =>
      exact Store.filled_update _ before _ (Scope.assign_filled name value)
  | defined name block =>
      exact Store.filled_update _ before _ (Scope.define_filled name block)

theorem goes_filled {before after : Machine σ} (unobserved : settings.Unobserved)
    (goes : Goes settings before after) (standing : Standing settings before.world before.stack) :
    before.store.Filled after.store := by
  obtain ⟨frame, below, deed, next, turn, done, _⟩ := goes_turn settings before after unobserved goes
  generalize before.stack = stack at turn standing
  cases turn with
  | line _ _ line rest taking =>
      obtain ⟨_, _, _, footprint⟩ :=
        Deed.ensures_answered (Deed.launch_footprint settings _ line rest before.world) done
      exact stored_filled footprint.stored
  | back ended _ _ spent =>
      obtain ⟨store, _⟩ := Deed.ensures_answered (return_footprint _ standing.stacked) done
      have same : after.store = before.store := store
      rw [same]
      exact fun _ filled => filled

structure Twinned (twin : Line → Line → Prop) (settings : Settings σ) (one other : Machine σ) : Prop where
  stack : List.Forall₂ (Frame.Twin twin) one.stack other.stack
  worlds : one.world.Twin twin other.world
  standing : Standing settings one.world one.stack
  counterpart : Standing settings other.world other.stack

theorem carried_stack {next result : Cursor × Option Frame} {frame mate : Frame} {below under : List Frame}
    (carried : Carried twin next result) (frames : frame.Twin twin mate)
    (lower : List.Forall₂ (Frame.Twin twin) below under) :
    List.Forall₂ (Frame.Twin twin) (next.2.toList ++ frame.moved next.1 :: below)
      (result.2.toList ++ mate.moved result.1 :: under) := by
  obtain ⟨cursors, bodies⟩ := carried
  have moved : (frame.moved next.1).Twin twin (mate.moved result.1) :=
    ⟨frames.path, frames.arguments, cursors, frames.resume⟩
  rcases next with ⟨cursor, _ | body⟩
  · rcases result with ⟨other, _ | counterpart⟩
    · exact .cons moved lower
    · cases bodies
  · rcases result with ⟨other, _ | counterpart⟩
    · cases bodies
    · cases bodies with
      | some twins => exact .cons twins (.cons moved lower)

theorem twin_activations {frame mate : Frame} {below under : List Frame} (frames : frame.Twin twin mate)
    (lower : List.Forall₂ (Frame.Twin twin) below under) :
    (frame.activation (below.length + 1)).Twin twin (mate.activation (under.length + 1)) :=
  ⟨frames.path, frames.arguments, congrArg (· + 1) lower.length_eq⟩

theorem turn_twin (faithful : Line.Faithful twin) (terse : settings.verbose = false) {one other : Machine σ}
    (twinned : Twinned twin settings one other) {frame : Frame} {below : List Frame}
    {deed : Deed (Cursor × Option Frame)} {next : Cursor × Option Frame} {after : World}
    (turn : Turn settings one.stack frame below deed) (done : deed one.world = (.ok next, after))
    (tidy : after.store.Tidy twin) :
    ∃ mate under counterpart result ending, Turn settings other.stack mate under counterpart ∧
      counterpart other.world = (.ok result, ending) ∧ Carried twin next result ∧
      after.Twin twin ending ∧ frame.Twin twin mate ∧ List.Forall₂ (Frame.Twin twin) below under := by
  obtain ⟨paired, worlds, standing, counterpart⟩ := twinned
  generalize one.stack = stack, other.stack = mates at turn paired standing counterpart
  cases turn with
  | line _ _ line rest taking =>
      cases paired with
      | @cons _ mate _ under frames lower =>
          have heads := Cursor.next_twin faithful frames.cursor
          rw [taking] at heads
          generalize again : Cursor.next? mate.cursor = ahead at heads
          cases heads with
          | @some _ ahead both =>
              obtain ⟨facing, behind⟩ := ahead
              have abroad : Deed.Abroad twin (frame.activation (below.length + 1))
                  (mate.activation (under.length + 1)) one.world other.world :=
                ⟨twin_activations frames lower, worlds,
                  stacked_present standing.stacked List.mem_cons_self,
                  stacked_present counterpart.stacked List.mem_cons_self⟩
              obtain ⟨result, ending, launched, carried, linked⟩ :=
                Deed.launch_twin faithful terse abroad both.1 both.2 tidy done
              exact ⟨mate, under, _, result, ending, .line mate under _ behind again, launched, carried,
                linked, frames, lower⟩
  | back ended _ _ spent =>
      cases paired with
      | @cons _ closed _ _ returns lower =>
          cases lower with
          | @cons _ mate _ under frames lower =>
              have heads := Cursor.next_twin faithful returns.cursor
              rw [spent] at heads
              generalize again : Cursor.next? closed.cursor = ahead at heads
              cases heads
              obtain ⟨_, middle, ⟨⟩, going⟩ := Deed.bind_answers done
              have left : World.Twin twin { one.world with journal := one.world.journal.forget ended.id }
                  { other.world with journal := other.world.journal.forget closed.id } :=
                ⟨worlds.store, worlds.written⟩
              obtain ⟨result, ending, completed, carried, linked⟩ := Deed.complete_twin faithful
                (twin_activations frames lower) left frames.cursor returns.resume going
              exact ⟨mate, under, _, result, ending, .back closed mate under again, completed, carried,
                linked, frames, lower⟩

theorem goes_twin (faithful : Line.Faithful twin) (unobserved : settings.Unobserved)
    (terse : settings.verbose = false) {one other after : Machine σ} (twinned : Twinned twin settings one other)
    (goes : Goes settings one after) (tidy : after.store.Tidy twin) :
    ∃ ending, Goes settings other ending ∧ Twinned twin settings after ending := by
  obtain ⟨frame, below, deed, next, turn, done, stack⟩ := goes_turn settings one after unobserved goes
  obtain ⟨mate, under, counterpart, result, world, beside, did, carried, worlds, frames, lower⟩ :=
    turn_twin faithful terse twinned turn done tidy
  obtain ⟨ending, going, rfl, stands⟩ := turn_goes other unobserved beside did
  refine ⟨ending, going, ?_, worlds, (goes_standing unobserved goes twinned.standing).1,
    (goes_standing unobserved going twinned.counterpart).1⟩
  rw [stack, stands]
  exact carried_stack carried frames lower

theorem reaches_twin (faithful : Line.Faithful twin) (unobserved : settings.Unobserved)
    (terse : settings.verbose = false) {one other after : Machine σ} (twinned : Twinned twin settings one other)
    (path : Reaches settings one after) (tidy : after.store.Tidy twin) :
    ∃ ending, Reaches settings other ending ∧ Twinned twin settings after ending := by
  induction path with
  | refl => exact ⟨other, .refl, twinned⟩
  | tail path goes ih =>
      have standing := (reaches_standing unobserved path twinned.standing).1
      have filled := goes_filled unobserved goes standing
      obtain ⟨middle, further, linked⟩ := ih (Store.tidy_filled filled tidy)
      obtain ⟨ending, going, linked⟩ := goes_twin faithful unobserved terse linked goes tidy
      exact ⟨ending, further.tail going, linked⟩

theorem reaches_filled {before after : Machine σ} (unobserved : settings.Unobserved)
    (path : Reaches settings before after) (standing : Standing settings before.world before.stack) :
    before.store.Filled after.store := by
  induction path with
  | refl => exact fun _ filled => filled
  | tail path goes ih =>
      have stands := (reaches_standing unobserved path standing).1
      intro place filled
      exact goes_filled unobserved goes stands place (ih place filled)

end Machine
end BareBones
