import BareBones.Proofs.Blame
import BareBones.Proofs.Clauses
import BareBones.Proofs.LiveFrames
import BareBones.Proofs.Provenance

set_option autoImplicit false

namespace BareBones

def Failure.Unlimited : Failure → Prop
  | .fault found => found.cause.origin ≠ .limit
  | .signal _ => True
  | .breakdown broken => broken ≠ .longLimit

namespace Deed

variable {σ α β : Type}

def Blamed (blame : Failure → Prop) (deed : Deed α) : Prop :=
  ∀ world, Ensures deed world (fun _ _ => True) (fun failure _ => blame failure)

section

variable {blame : Failure → Prop}

theorem blamed_mono {weaker : Failure → Prop} {deed : Deed α} (blamed : Blamed blame deed)
    (implies : ∀ failure, blame failure → weaker failure) : Blamed weaker deed := fun world =>
  ensures_mono (blamed world) (fun _ _ _ => trivial) fun failure _ => implies failure

theorem ensures_blamed {deed : Deed α} {world : World} {answered : α → World → Prop}
    {failed : Failure → World → Prop} (blamed : Blamed blame deed)
    (ensures : Ensures deed world answered failed) :
    Ensures deed world answered (fun failure _ => blame failure) := by
  have fails := blamed world
  unfold Ensures at ensures fails ⊢
  generalize deed world = done at ensures fails ⊢
  rcases done with ⟨failure | a, after⟩
  · exact fails
  · exact ensures

theorem blamed_bind {deed : Deed α} {next : α → Deed β} (first : Blamed blame deed)
    (later : ∀ a, Blamed blame (next a)) : Blamed blame (deed >>= next) := fun world =>
  ensures_then (first world) fun a after _ => later a after

theorem blamed_settled (result : Except Failure α) (fails : Fails blame result) :
    Blamed blame (settled result) := by
  intro world
  cases result with
  | ok a => trivial
  | error failure => exact fails failure rfl

theorem blamed_pure (a : α) : Blamed blame (pure a) := fun _ => trivial

theorem blamed_modify (change : World → World) : Blamed blame (modify change) := fun _ => trivial

end

theorem blamed_breakdown (location : Location) {result : Except Breakdown α} (numeric : Numeric result) :
    Blamed (Failure.Stated location) (settled (Env.orBreakdown result)) :=
  blamed_settled _ (Env.or_breakdown_fails .broken numeric)

theorem blamed_evaluate (here : Activation) (location : Location)
    (expression : Env → Except Failure α)
    (fails : ∀ env, Fails Failure.Evaluative (expression env)) :
    Blamed (Failure.Stated location) (evaluate here location expression) := by
  refine blamed_bind (fun _ => trivial) fun world => blamed_settled _ ?_
  exact fails_placed location _ (fails _) (evaluative_stated location)

theorem snapshot_numeric (store : Store) (path : Path) : Numeric (store.snapshot path) :=
  numeric_each _ (fun binding => numeric_map _ binding.2.summary_numeric) _

theorem blamed_record (settings : Settings σ) (here : Activation) (statement : Statement) :
    Blamed (Failure.Stated statement.location) (record settings here statement) := by
  unfold record
  cases settings.verbose with
  | false => exact blamed_modify _
  | true =>
      refine blamed_bind (fun _ => trivial) fun world => ?_
      refine blamed_bind (blamed_bind ?_ fun _ => blamed_pure _) fun _ => blamed_modify _
      exact blamed_breakdown _ (snapshot_numeric world.store here.path)

theorem blamed_read_variable (here : Activation) (location : Location) (name : Text) :
    Blamed (Failure.Stated location) (readVariable here location name) := by
  refine blamed_evaluate here location _ fun env => ?_
  unfold Env.value Store.read
  cases env.store.read? env.path name with
  | some value => exact fails_ok value
  | none => exact fails_error _ (.fault _ rfl)

theorem blamed_expand (here : Activation) (location : Location) (format : Text) :
    Blamed (Failure.Stated location) (evaluate here location (·.expand format)) :=
  blamed_evaluate here location _ fun env => Env.expand_from_fails env .plain format

theorem blamed_at_once (settings : Settings σ) (here : Activation) (statement : Statement) :
    Blamed (Failure.Stated statement.location) (atOnce settings here statement) := by
  rcases statement with ⟨location, command⟩
  have unsupported : Blamed (Failure.Stated location)
      (settled (.error (.fault (.at location .unsupported))) : Deed Unit) :=
    blamed_settled _ (fails_error _ (.fault _ rfl))
  cases command with
  | clear name => exact blamed_modify _
  | count direction name =>
      refine blamed_bind (blamed_read_variable here location name) fun previous => ?_
      refine blamed_bind (blamed_breakdown location previous.integer_numeric) fun number => ?_
      cases number with
      | some n => exact blamed_modify _
      | none =>
          refine blamed_bind (blamed_breakdown location previous.written_numeric) fun text => ?_
          exact blamed_settled _ (fails_error _ (.fault _ rfl))
  | debug name =>
      refine blamed_bind (blamed_read_variable here location name) fun value => ?_
      exact blamed_bind (blamed_breakdown location value.written_numeric) fun text => blamed_modify _
  | print format =>
      exact blamed_bind (blamed_expand here location format) fun text => blamed_modify _
  | assign name format =>
      exact blamed_bind (blamed_expand here location format) fun text => blamed_modify _
  | loop predicate => exact unsupported
  | branch predicate => exact unsupported
  | define name => exact unsupported
  | call name arguments => exact unsupported
  | unsupported => exact unsupported

theorem blamed_holds (here : Activation) (predicate : Text) (location : Location) :
    Blamed (Failure.Stated location) (holds here predicate location) :=
  blamed_evaluate here location _ fun env => Env.test_fails env predicate

theorem blamed_admits (here : Activation) (location : Location) (predicate : Option Text) :
    Blamed (Failure.Stated location) (admits here location predicate) := by
  cases predicate with
  | none => exact blamed_pure true
  | some text => exact blamed_holds here text location

-- What a deed inside `here` fails by: a fault at one of the places, in which the depth limit has a part
-- only if it allows no invocation inside `here`, or an integer that cannot be read or written.
inductive Blame (settings : Settings σ) (here : Activation) (places : Location → Prop) : Failure → Prop
  | fault (place : Location) (cause : Cause) (known : places place) (other : cause.origin ≠ .limit) :
      Blame settings here places (.fault (.at place cause))
  | refused (place : Location) (failure : Failure) (known : places place)
      (refused : settings.maxDepth.allow here.depth place = .error failure) :
      Blame settings here places failure
  | broken (broken : Breakdown) (numeric : broken.Numeric) :
      Blame settings here places (.breakdown broken)

section

variable (settings : Settings σ) (here : Activation)

theorem blame_mono {settings : Settings σ} {here : Activation} {places wider : Location → Prop}
    {failure : Failure} (within : ∀ place, places place → wider place)
    (blame : Blame settings here places failure) : Blame settings here wider failure := by
  cases blame with
  | fault place cause known other => exact .fault place cause (within place known) other
  | refused place failure known refused => exact .refused place failure (within place known) refused
  | broken broken numeric => exact .broken broken numeric

theorem blame_cases {settings : Settings σ} {here : Activation} {places : Location → Prop}
    {failure : Failure} (blame : Blame settings here places failure) :
    (∃ place cause, places place ∧ failure = .fault (.at place cause)) ∨
      ∃ broken, failure = .breakdown broken ∧
        (settings.maxDepth = .blank ∨ broken = .longLimit ∨ broken.Numeric) := by
  cases blame with
  | fault place cause known _ => exact .inl ⟨place, cause, known, rfl⟩
  | broken broken numeric => exact .inr ⟨broken, rfl, .inr (.inr numeric)⟩
  | refused place failure known refused =>
      cases limit : settings.maxDepth with
      | blank =>
          rw [limit] at refused
          cases refused
          exact .inr ⟨.blankLimit, rfl, .inl rfl⟩
      | atMost count =>
          rw [limit] at refused
          rw [(DepthLimit.allow_refused refused).2]
          cases DepthLimit.refusal_cases count place with
          | inl written => exact .inl ⟨place, _, known, written⟩
          | inr long => exact .inr ⟨.longLimit, long, .inr (.inl rfl)⟩

theorem stated_blame {deed : Deed α} {location : Location} {places : Location → Prop}
    (known : places location) (blamed : Blamed (Failure.Stated location) deed) :
    Blamed (Blame settings here places) deed := by
  refine blamed_mono blamed fun failure stated => ?_
  cases stated with
  | fault cause blamed =>
      refine .fault location cause known ?_
      rw [blamed]
      decide
  | broken broken numeric => exact .broken broken numeric

theorem read_blame (line : Line) (solid : line.isBlank = false) (world : World) :
    Ensures (read line) world (fun statement _ => Statement.read line = .ok statement)
      (fun failure _ => Blame settings here (· = line.location) failure) := by
  unfold Ensures read settled placed
  have misread := Statement.read_misread line solid
  cases reading : Statement.read line with
  | ok statement => rfl
  | error failure =>
      obtain ⟨cause, blamed⟩ := misread failure reading
      refine .fault line.location cause rfl ?_
      rw [blamed]
      decide

theorem carve_blame (kind : BlockKind) (header : Location) (cursor : Cursor) :
    Blamed (Blame settings here (· = header)) (carve kind header cursor) := by
  refine blamed_settled _ ?_
  cases reading : Block.read kind.keyword header false cursor with
  | ok carved => exact fails_ok carved
  | error fault =>
      rw [(Block.read_fails reading).2]
      exact fails_error _ (.fault header _ rfl nofun)

theorem find_blame (location : Location) (name : Text) :
    Blamed (Blame settings here (· = location)) (find here location name) := by
  refine blamed_bind (fun _ => trivial) fun world => ?_
  split
  · exact blamed_pure _
  · exact blamed_settled _ (fails_error _ (.fault location _ rfl nofun))

def Taken (location : Location) (cursor : Cursor) : Option (Block × Location) × Cursor → Prop
  | (none, _) => True
  | (some (block, clause), left) => Block.Chain location cursor clause ∧
      (Boundary.isElse block.terminator.text = true → Block.Clause cursor block.terminator ∧
        ∃ rest, Cursor.next? left = some (block.terminator, rest))

theorem choose_blame (predicate : Option Text) (location : Location) (cursor : Cursor) (world : World) :
    Ensures (choose here predicate location cursor) world (fun chosen _ => Taken location cursor chosen)
      (fun failure _ => Blame settings here (Block.Chain location cursor) failure) := by
  cases reading : Block.read BlockKind.branch.keyword location true cursor with
  | error fault =>
      rw [choose_unread here predicate location cursor fault reading,
        (Block.read_fails reading).2]
      exact .fault location _ (.inl rfl) (by decide)
  | ok carved =>
      obtain ⟨block, rest⟩ := carved
      rw [choose_read here predicate location cursor rest block reading]
      refine ensures_then (stated_blame settings here (.inl rfl)
        (blamed_admits here location predicate) world) ?_
      intro taken after _
      cases stops : block.endsAtElse with
      | false =>
          have whole : Boundary.isElse block.terminator.text = false := stops
          cases taken with
          | true => exact ⟨.inl rfl, fun clause => absurd clause (ne_true_of_eq_false whole)⟩
          | false => trivial
      | true =>
          obtain ⟨_, carving, carved, same, stands⟩ := Block.read_stops _ _ _ _ _ _ reading stops
          have clause : Boundary.isElse carving.terminator.text = true := by
            rw [same]
            exact stops
          cases taken with
          | true =>
              refine ⟨.inl rfl, fun _ => ⟨?_, carving.after, stands⟩⟩
              rw [← same]
              exact .next carved clause
          | false =>
              obtain ⟨next, found⟩ := Boundary.read_else block.terminator stops
              simp only [Bool.false_eq_true, if_false, Bool.not_true, stands, found]
              refine ensures_mono
                (choose_blame next block.terminator.location carving.after after) ?_ ?_
              · rintro ⟨_ | ⟨body, place⟩, left⟩ _ inner
                · trivial
                · obtain ⟨chain, ends⟩ := inner
                  rw [← same] at chain
                  refine ⟨Block.chain_clause carved clause chain, fun again => ?_⟩
                  obtain ⟨further, standing⟩ := ends again
                  exact ⟨.later carved clause further, standing⟩
              · intro failure _ blame
                rw [← same] at blame
                exact blame_mono (fun _ => Block.chain_clause carved clause) blame
termination_by cursor.length
decreasing_by
  have kept := Block.read_rest_length reading
  have shorter := Cursor.next_shorter _ _ _ stands
  omega

theorem skip_blame (terminator : Line) (cursor : Cursor)
    (awaited : Boundary.isElse terminator.text = true →
      ∃ rest, Cursor.next? cursor = some (terminator, rest)) :
    Blamed (Blame settings here fun place => Boundary.isElse terminator.text = true ∧
      place = terminator.location) (skip terminator cursor) := by
  unfold skip
  cases clause : Boundary.isElse terminator.text with
  | false => exact blamed_pure _
  | true =>
      obtain ⟨rest, taking⟩ := awaited clause
      rw [if_pos rfl, taking]
      refine blamed_bind (blamed_mono (carve_blame settings here .branch terminator.location rest) ?_)
        fun _ => blamed_pure _
      exact fun failure blame => blame_mono (fun place same => ⟨rfl, same⟩) blame

theorem spawn_blame {places : Location → Prop} (location : Location) (known : places location) :
    Blamed (Blame settings here places) (spawn settings here location) := by
  refine blamed_bind (blamed_settled _ fun failure refused => .refused location failure known refused)
    fun _ => ?_
  refine blamed_bind (fun _ => trivial) fun world => ?_
  exact blamed_bind (blamed_modify _) fun _ => blamed_pure _

theorem round_blame (statement : Statement) (predicate : Text) (block : Block) :
    Blamed (Blame settings here (· = statement.location))
      (round settings here statement predicate block) := by
  refine blamed_bind (stated_blame settings here rfl (blamed_holds here predicate _)) fun holds => ?_
  cases holds with
  | true => exact blamed_bind (spawn_blame settings here _ rfl) fun _ => blamed_pure _
  | false => exact blamed_pure _

def places (statement : Statement) (rest : Cursor) (place : Location) : Prop :=
  place = statement.location ∨
    ∃ predicate clause, statement.command = .branch predicate ∧ Block.Clause rest clause ∧
      place = clause.location

theorem perform_blame (statement : Statement) (rest : Cursor) :
    Blamed (Blame settings here (places statement rest)) (perform settings here statement rest) := by
  have own {α : Type} {deed : Deed α}
      (blamed : Blamed (Blame settings here (· = statement.location)) deed) :
      Blamed (Blame settings here (places statement rest)) deed :=
    blamed_mono blamed fun failure blame => blame_mono (fun _ => .inl) blame
  have plain : Blamed (Blame settings here (places statement rest))
      (do atOnce settings here statement; return (rest, (none : Option Frame))) :=
    blamed_bind (stated_blame settings here (.inl rfl) (blamed_at_once settings here statement))
      fun _ => blamed_pure _
  rcases statement with ⟨location, command⟩
  cases command with
  | define name =>
      refine blamed_bind (own (carve_blame settings here .function location rest)) fun carved => ?_
      exact blamed_bind (blamed_modify _) fun _ => blamed_pure _
  | loop predicate =>
      refine blamed_bind (own (carve_blame settings here .loop location rest)) fun carved => ?_
      refine blamed_bind (blamed_modify _) fun _ => ?_
      exact blamed_bind (own (round_blame settings here _ predicate _)) fun _ => blamed_pure _
  | branch predicate =>
      have chain : ∀ place, Block.Chain location rest place →
          places ⟨location, .branch predicate⟩ rest place := by
        rintro place (rfl | ⟨clause, found, rfl⟩)
        · exact .inl rfl
        · exact .inr ⟨predicate, clause, rfl, found, rfl⟩
      intro world
      refine ensures_then (ensures_mono (choose_blame settings here (some predicate) location rest world)
        (fun _ _ taken => taken) fun _ _ blame => blame_mono chain blame) ?_
      rintro ⟨chosen, left⟩ after taken
      cases chosen with
      | none => trivial
      | some found =>
          have spawned := spawn_blame settings here found.2 (chain found.2 taken.1)
          exact blamed_bind (blamed_modify _)
            (fun _ => blamed_bind spawned fun _ => blamed_pure _) after
  | call name arguments =>
      refine blamed_bind (own (find_blame settings here location name)) fun block => ?_
      refine blamed_bind (blamed_modify _) fun _ => ?_
      exact blamed_bind (spawn_blame settings here location (.inl rfl)) fun _ => blamed_pure _
  | clear name => exact plain
  | count direction name => exact plain
  | debug name => exact plain
  | print format => exact plain
  | assign name format => exact plain
  | unsupported => exact plain

def linePlaces (line : Line) (rest : Cursor) (place : Location) : Prop :=
  place = line.location ∨
    ∃ predicate clause, Statement.read line = .ok ⟨line.location, .branch predicate⟩ ∧
      Block.Clause rest clause ∧ place = clause.location

theorem launch_blame (line : Line) (rest : Cursor) (solid : line.isBlank = false) :
    Blamed (Blame settings here (linePlaces line rest)) (launch settings here line rest) := by
  intro world
  have known : ∀ place, place = line.location → linePlaces line rest place := fun _ => .inl
  refine ensures_then (ensures_mono (read_blame settings here line solid world)
    (fun _ _ reading => reading) fun _ _ blame => blame_mono known blame) ?_
  intro statement after reading
  have located := Machine.read_location line statement reading
  have recorded := stated_blame settings here (known _ located) (blamed_record settings here statement)
  refine blamed_bind recorded (fun _ => ?_) after
  refine blamed_mono (perform_blame settings here statement rest) fun failure blame =>
    blame_mono ?_ blame
  rintro place (rfl | ⟨predicate, clause, asked, found, rfl⟩)
  · exact known _ located
  · refine .inr ⟨predicate, clause, ?_, found, rfl⟩
    rw [reading, ← located, ← asked]

def resumePlaces : Option Resume → Location → Prop
  | some (.loop statement _ _), place => place = statement.location
  | some (.branch _ terminator), place =>
      Boundary.isElse terminator.text = true ∧ place = terminator.location
  | _, _ => False

theorem complete_blame (cursor : Cursor) (pending : Option Resume) (awaited : Awaited pending cursor) :
    Blamed (Blame settings here (resumePlaces pending)) (complete settings here cursor pending) := by
  rcases pending with _ | ⟨statement, predicate, block⟩ | ⟨statement, terminator⟩ | _
  · exact blamed_pure _
  · exact blamed_bind (round_blame settings here statement predicate block) fun _ => blamed_pure _
  · exact blamed_bind (skip_blame settings here terminator cursor awaited) fun _ => blamed_pure _
  · exact blamed_pure _

end

end Deed

namespace Machine

variable {σ : Type} {settings : Settings σ}

def places : List Frame → Location → Prop
  | [], _ => False
  | top :: _, place =>
      (∃ line rest, Cursor.next? top.cursor = some (line, rest) ∧ Deed.linePlaces line rest place) ∨
        Cursor.next? top.cursor = none ∧ Deed.resumePlaces top.resume place

def Attended (stack : List Frame) : Prop :=
  stack.IsChain fun above below => Awaited above.resume below.cursor

theorem turn_blame {stack : List Frame} {frame : Frame} {below : List Frame}
    {deed : Deed (Cursor × Option Frame)} (turn : Turn settings stack frame below deed)
    (attended : Attended stack) :
    Deed.Blamed (Deed.Blame settings (frame.activation (below.length + 1)) (places stack)) deed := by
  cases turn with
  | line _ _ line rest taking =>
      have solid := (Cursor.next_drawn frame.cursor rest line taking).2
      refine Deed.blamed_mono (Deed.launch_blame settings _ line rest solid) fun _ blame =>
        Deed.blame_mono ?_ blame
      exact fun place known => .inl ⟨line, rest, taking, known⟩
  | back ended _ _ spent =>
      have awaited := (List.isChain_cons_cons.mp attended).1
      refine Deed.blamed_bind (Deed.blamed_modify _) fun _ => ?_
      refine Deed.blamed_mono (Deed.complete_blame settings _ _ _ awaited) fun _ blame =>
        Deed.blame_mono ?_ blame
      exact fun place known => .inr ⟨spent, known⟩

theorem launch_awaits {here : Activation} {line : Line} {rest : Cursor}
    {next : Cursor × Option Frame} {before after : World}
    (done : Deed.launch settings here line rest before = (.ok next, after)) :
    ∀ body ∈ next.2, Awaited body.resume next.1 := by
  obtain ⟨statement, snapshot, reading, performs⟩ := Deed.launch_answers done
  cases performs with
  | atOnce _ => exact Frame.nobody
  | defined _ _ => exact Frame.nobody
  | passed _ _ => exact Frame.nobody
  | looped _ _ rounds =>
      cases rounds with
      | stopped _ => exact Frame.nobody
      | again _ _ =>
          rintro _ ⟨⟩
          trivial
  | branched _ chosen _ =>
      rintro _ ⟨⟩ clause
      exact (Deed.ensures_answered (Deed.choose_blame settings here _ _ _ _) chosen).2 clause |>.2
  | called _ _ _ =>
      rintro _ ⟨⟩
      trivial

theorem complete_awaits {here : Activation} {cursor : Cursor} {pending : Option Resume}
    {next : Cursor × Option Frame} {before after : World}
    (done : Deed.complete settings here cursor pending before = (.ok next, after)) :
    ∀ body ∈ next.2, Awaited body.resume next.1 := by
  rcases Deed.complete_answers done with
    ⟨_, _, _, _, _, rounds⟩ | ⟨_, _, _, _, spawned, _⟩ | ⟨rfl, _⟩
  · cases next with
    | mk left body =>
        cases rounds with
        | stopped _ => exact Frame.nobody
        | again _ _ =>
            rintro _ ⟨⟩
            trivial
  · rw [spawned]
    exact Frame.nobody
  · exact Frame.nobody

theorem attended_spawned {frame : Frame} {below : List Frame} {next : Cursor × Option Frame}
    (awaits : ∀ body ∈ next.2, Awaited body.resume next.1) (attended : Attended (frame :: below)) :
    Attended (next.2.toList ++ frame.moved next.1 :: below) := by
  have kept : Attended (frame.moved next.1 :: below) := by
    cases below with
    | nil => exact .singleton _
    | cons caller lower =>
        obtain ⟨awaited, rest⟩ := List.isChain_cons_cons.mp attended
        exact .cons_cons awaited rest
  cases spawned : next.2 with
  | none => exact kept
  | some body => exact .cons_cons (awaits body spawned) kept

theorem turn_attended {before after : World} {stack : List Frame} {frame : Frame}
    {below : List Frame} {deed : Deed (Cursor × Option Frame)} {next : Cursor × Option Frame}
    (turn : Turn settings stack frame below deed) (done : deed before = (.ok next, after))
    (attended : Attended stack) : Attended (next.2.toList ++ frame.moved next.1 :: below) := by
  cases turn with
  | line _ _ line rest taking => exact attended_spawned (launch_awaits done) attended
  | back ended _ _ spent =>
      obtain ⟨_, _, ⟨⟩, going⟩ := Deed.bind_answers done
      exact attended_spawned (complete_awaits going) (List.isChain_cons_cons.mp attended).2

theorem reaches_attended {before after : Machine σ} (unobserved : settings.Unobserved)
    (path : Reaches settings before after) (attended : Attended before.stack) :
    Attended after.stack := by
  induction path with
  | refl => exact attended
  | @tail middle after _ goes ih =>
      obtain ⟨frame, below, deed, next, turn, done, stack⟩ :=
        goes_turn settings middle after unobserved goes
      rw [stack]
      exact turn_attended turn done ih

theorem opening_attended (settings : Settings σ) (source : Text) (journal : Journal Nat) (host : σ) :
    Attended (opening settings source (fresh journal host)).stack := by
  rw [opening_stack]
  exact .singleton _

theorem fails_blame {before after : Machine σ} {failure : Failure} (unobserved : settings.Unobserved)
    (failed : step settings before = (.error failure, after)) (attended : Attended before.stack) :
    ∃ here, here.depth = after.stack.length ∧
      Deed.Blame settings here (places before.stack) failure := by
  obtain ⟨frame, below, deed, cursor, turn, done, stack⟩ :=
    fails_turn settings before after failure unobserved failed
  refine ⟨frame.activation (below.length + 1), ?_, ?_⟩
  · rw [stack]
    rfl
  · exact Deed.ensures_failed (turn_blame turn attended before.world) done

theorem turn_written {before : World} {stack : List Frame} {frame : Frame} {below : List Frame}
    {deed : Deed (Cursor × Option Frame)} (turn : Turn settings stack frame below deed)
    (standing : Standing settings before stack) :
    deed.Ensures before (fun _ after => before.written <:+ after.written)
      (fun _ after => after.written = before.written) := by
  cases turn with
  | line _ _ line rest taking =>
      refine Deed.ensures_mono (Deed.launch_footprint settings _ line rest before) ?_ ?_
      · rintro next after ⟨_, _, _, footprint⟩
        exact footprint.written
      · rintro failure after ⟨_, written, _⟩
        exact written
  | back ended _ _ spent =>
      refine Deed.ensures_mono (return_footprint _ standing.stacked) ?_ ?_
      · rintro next after ⟨_, _, written, _⟩
        exact written ▸ List.suffix_rfl
      · rintro failure after rfl
        rfl

theorem fails_written {before after : Machine σ} {failure : Failure} (unobserved : settings.Unobserved)
    (failed : step settings before = (.error failure, after))
    (standing : Standing settings before.world before.stack) : after.written = before.written := by
  obtain ⟨frame, below, deed, cursor, turn, done, _⟩ :=
    fails_turn settings before after failure unobserved failed
  exact Deed.ensures_failed (turn_written turn standing) done

theorem step_ended {before after : Machine σ} (unobserved : settings.Unobserved)
    (ended : step settings before = (.ok false, after)) :
    after = before ∧ before.stack.length ≤ 1 := by
  rcases step_turn settings before unobserved with
    ⟨spent, alone⟩ | ⟨frame, below, deed, turn, outcome⟩
  · rw [spent] at ended
    cases ended
    exact ⟨rfl, alone⟩
  · rw [ended] at outcome
    generalize deed before.world = expected at outcome
    cases outcome with
    | answered met => cases met.1

end Machine
end BareBones
