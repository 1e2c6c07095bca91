import BareBones.Proofs.Brackets
import BareBones.Proofs.Layering
import BareBones.Proofs.Refusal
import BareBones.Proofs.Remembering
import BareBones.Report.Traceback
import Mathlib.Data.List.Forall2

set_option autoImplicit false

namespace BareBones

namespace Deed

variable {σ : Type} {settings : Settings σ} {here : Activation} {before after : World}

theorem record_fails {statement : Statement} {failure : Failure}
    (done : record settings here statement before = (.error failure, after)) :
    after = before ∧ ∃ broken, before.store.snapshot here.path = .error broken := by
  refine ⟨ensures_failed (record_ensures settings here statement before) done, ?_⟩
  unfold record at done
  cases verbose : settings.verbose with
  | false =>
      rw [verbose] at done
      cases done
  | true =>
      cases taken : before.store.snapshot here.path with
      | error broken => exact ⟨broken, rfl⟩
      | ok snapshot =>
          have kept : (some <$> settled (Env.orBreakdown (before.store.snapshot here.path)) :
              Deed (Option Snapshot)) before = (.ok (some snapshot), before) := by
            rw [taken]
            rfl
          rw [verbose, if_pos rfl, effect_bind, effect_get] at done
          dsimp only at done
          rw [effect_bind, kept] at done
          cases done

structure Enters (here : Activation) (line : Line) (statement : Statement) (before after : World) :
    Prop where
  reading : Statement.read line = .ok statement
  journal : ∃ snapshot, after.journal = before.journal.record (some here.id)
    (some statement.location) statement.command.label snapshot

theorem rounds_pending {statement : Statement} {predicate : Text} {block : Block} {next : Option Frame}
    (rounds : Rounds settings here statement predicate block before next after) :
    ∀ body ∈ next, body.resume = some (.loop statement predicate block) := by
  cases rounds with
  | stopped _ => exact Frame.nobody
  | again _ _ =>
      rintro _ ⟨⟩
      rfl

theorem performs_pending {statement : Statement} {rest : Cursor} {next : Cursor × Option Frame}
    (performs : Performs settings here statement rest before next after) :
    ∀ body ∈ next.2, statement.command.spawns = true ∧
      ∃ pending, body.resume = some pending ∧ pending.statement = statement := by
  cases performs with
  | atOnce _ => exact Frame.nobody
  | defined _ _ => exact Frame.nobody
  | passed _ _ => exact Frame.nobody
  | looped asked _ rounds =>
      intro body spawned
      exact ⟨by rw [asked]; rfl, _, rounds_pending rounds body spawned, rfl⟩
  | branched asked _ _ =>
      rintro _ ⟨⟩
      exact ⟨by rw [asked]; rfl, _, rfl, rfl⟩
  | called asked _ _ =>
      rintro _ ⟨⟩
      exact ⟨by rw [asked]; rfl, _, rfl, rfl⟩

theorem launch_enters (line : Line) (rest : Cursor) (world : World) :
    Ensures (launch settings here line rest) world
      (fun next after => ∃ statement, Enters here line statement world after ∧
        ∀ body ∈ next.2, statement.command.spawns = true ∧
          ∃ pending, body.resume = some pending ∧ pending.statement = statement)
      (fun failure after => (∃ statement, Enters here line statement world after) ∨
        after = world ∧ ((∃ unread, Statement.read line = .error unread ∧
            failure = unread.located line.location) ∨
          ∃ broken, world.store.snapshot here.path = .error broken)) := by
  unfold Ensures
  rcases done : launch settings here line rest world with ⟨failure | next, after⟩
  · cases reading : Statement.read line with
    | error unread =>
        unfold launch read at done
        rw [reading] at done
        cases done
        exact .inr ⟨rfl, .inl ⟨unread, rfl, rfl⟩⟩
    | ok statement =>
        unfold launch read start at done
        rw [reading, effect_bind] at done
        change (record settings here statement >>= fun _ => _) world = _ at done
        rw [effect_bind] at done
        rcases recorded : record settings here statement world with ⟨refused | _, middle⟩
        · rw [recorded] at done
          cases done
          obtain ⟨same, broken⟩ := record_fails recorded
          exact .inr ⟨same, .inr broken⟩
        · rw [recorded] at done
          obtain ⟨snapshot, rfl⟩ := record_answers recorded
          obtain ⟨_, journal, _⟩ :=
            ensures_failed (perform_performing settings here statement rest _) done
          exact .inl ⟨statement, reading, snapshot, journal⟩
  · obtain ⟨statement, snapshot, reading, performs⟩ := launch_answers done
    obtain ⟨_, journal, _⟩ := ensures_answered
      (perform_performing settings here statement rest _) (perform_done performs)
    exact ⟨statement, ⟨reading, snapshot, journal⟩, performs_pending performs⟩

end Deed

namespace Machine

variable {σ : Type} {settings : Settings σ} {start : Machine σ}

def Above (settings : Settings σ) (height : Nat) : Machine σ → Machine σ → Prop :=
  Relation.ReflTransGen fun before after => Goes settings before after ∧ height < after.stack.length

-- The frame `caller`, on top of `below`, has run a statement with a body as the step `number` of the run,
-- and a frame has been alive above it ever since.
inductive Underway (settings : Settings σ) (start after : Machine σ) (caller : Frame)
    (below : List Frame) (statement : Statement) (number : Nat) : Prop
  | since {before : Machine σ} {cursor rest : Cursor} {line : Line}
      (path : Reaches settings start before)
      (stands : before.stack = caller.moved cursor :: below)
      (taking : Cursor.next? cursor = some (line, rest))
      (reading : Statement.read line = .ok statement) (spawns : statement.command.spawns = true)
      (counts : before.journal.steps + 1 = number)
      (above : Above settings (below.length + 1) before after)

-- Every frame with another one above it has for its newest entry that of the statement which is underway.
inductive Marked (settings : Settings σ) (start after : Machine σ) (journal : Journal Nat) :
    List Frame → Prop
  | program (frame : Frame) (resumes : frame.resume = none) : Marked settings start after journal [frame]
  | body {inner caller : Frame} {below : List Frame} {pending : Resume} {entry : Entry Nat}
      (marked : Marked settings start after journal (caller :: below))
      (resumes : inner.resume = some pending) (latest : journal.latestOf? caller.id = some entry)
      (located : entry.location = some pending.statement.location)
      (underway : Underway settings start after caller below pending.statement entry.step) :
      Marked settings start after journal (inner :: caller :: below)

section

variable {before after : Machine σ} {journal : Journal Nat} {stack : List Frame}

theorem underway_goes {caller : Frame} {below : List Frame} {statement : Statement} {number : Nat}
    (underway : Underway settings start before caller below statement number)
    (goes : Goes settings before after) (tall : below.length + 1 < after.stack.length) :
    Underway settings start after caller below statement number := by
  obtain ⟨path, stands, taking, reading, spawns, counts, above⟩ := underway
  exact .since path stands taking reading spawns counts (above.tail ⟨goes, tall⟩)

theorem underway_moved {caller : Frame} {below : List Frame} {statement : Statement} {number : Nat}
    (moved : Cursor) (underway : Underway settings start after caller below statement number) :
    Underway settings start after (caller.moved moved) below statement number := by
  obtain ⟨path, stands, taking, reading, spawns, counts, above⟩ := underway
  exact .since path stands taking reading spawns counts above

theorem marked_kept {later : Journal Nat} (marked : Marked settings start after journal stack)
    (kept : ∀ frame ∈ stack.tail, later.latestOf? frame.id = journal.latestOf? frame.id) :
    Marked settings start after later stack := by
  induction marked with
  | program frame resumes => exact .program frame resumes
  | body _ resumes latest located underway ih =>
      refine .body (ih fun frame member => kept frame (List.mem_of_mem_tail member)) resumes ?_ located
        underway
      rw [kept _ List.mem_cons_self, latest]

theorem marked_goes (marked : Marked settings start before journal stack)
    (goes : Goes settings before after) (tall : stack.length ≤ after.stack.length) :
    Marked settings start after journal stack := by
  induction marked with
  | program frame resumes => exact .program frame resumes
  | body _ resumes latest located underway ih =>
      exact .body (ih (Nat.le_of_succ_le tall)) resumes latest located (underway_goes underway goes tall)

theorem marked_moved {frame : Frame} {below : List Frame} (cursor : Cursor)
    (marked : Marked settings start after journal (frame :: below)) :
    Marked settings start after journal (frame.moved cursor :: below) := by
  cases marked with
  | program _ resumes => exact .program _ resumes
  | body marked resumes latest located underway => exact .body marked resumes latest located underway

theorem marked_tail {frame caller : Frame} {below : List Frame}
    (marked : Marked settings start after journal (frame :: caller :: below)) :
    Marked settings start after journal (caller :: below) := by
  cases marked with
  | body marked _ _ _ _ => exact marked

end

theorem stacked_apart {world : World} {frame : Frame} {below : List Frame}
    (stacked : Stacked settings world (frame :: below)) : ∀ lower ∈ below, frame.id ≠ lower.id :=
  fun lower member => Nat.ne_of_gt ((List.pairwise_cons.mp (stacked_ordered stacked)).1 lower member)

theorem enters_kept {frame : Frame} {below : List Frame} {line : Line} {statement : Statement}
    {before after : World} (stacked : Stacked settings before (frame :: below))
    (enters : Deed.Enters (frame.activation (below.length + 1)) line statement before after) :
    ∀ lower ∈ below, after.journal.latestOf? lower.id = before.journal.latestOf? lower.id := by
  intro lower member
  obtain ⟨snapshot, journal⟩ := enters.journal
  rw [journal]
  exact Journal.latest_record_other _ _ _ _ (stacked_apart stacked lower member)

theorem forgotten_kept {ended : Frame} {below : List Frame} {before : World} (journal : Journal Nat)
    (stacked : Stacked settings before (ended :: below)) :
    ∀ lower ∈ below, (journal.forget ended.id).latestOf? lower.id = journal.latestOf? lower.id :=
  fun lower member => Journal.latest_forget_other journal (stacked_apart stacked lower member)

theorem goes_marked {middle after : Machine σ} (unobserved : settings.Unobserved)
    (path : Reaches settings start middle) (goes : Goes settings middle after)
    (standing : Standing settings middle.world middle.stack)
    (marked : Marked settings start middle middle.journal middle.stack) :
    Marked settings start after after.journal after.stack := by
  obtain ⟨frame, below, deed, ⟨cursor, spawned⟩, turn, done, stack⟩ :=
    goes_turn settings middle after unobserved goes
  have tall : below.length + 1 ≤ after.stack.length := by
    rw [stack, List.length_append]
    exact Nat.le_add_left _ _
  have stacked := standing.stacked
  generalize stands : middle.stack = before at turn marked stacked
  rw [stack]
  cases turn with
  | line _ _ line rest taking =>
      obtain ⟨statement, enters, resumes⟩ :=
        Deed.ensures_answered (Deed.launch_enters line rest middle.world) done
      have kept := enters_kept stacked enters
      have under := marked_moved cursor (marked_goes (marked_kept marked kept) goes tall)
      cases spawned with
      | none => exact under
      | some body =>
          -- The entry that was just made is that of the statement which has spawned the body.
          obtain ⟨spawns, pending, waiting, rfl⟩ := resumes body rfl
          obtain ⟨snapshot, journal⟩ := enters.journal
          change after.journal = _ at journal
          have latest := Journal.latest_record_same middle.journal frame.id
            (some pending.statement.location) pending.statement.command.label snapshot
          refine .body under waiting (by rw [journal]; exact latest) rfl ?_
          refine .since path stands taking enters.reading spawns rfl (.single ⟨goes, ?_⟩)
          rw [stack]
          exact Nat.lt_succ_self _
  | back ended _ _ spent =>
      obtain ⟨_, journal, _⟩ := Deed.ensures_answered (return_footprint _ stacked) done
      change after.journal = middle.journal.forget ended.id at journal
      have kept := forgotten_kept middle.journal stacked
      rw [← journal] at kept
      cases marked with
      | body marked resumes latest located underway =>
          have under := marked_moved cursor (marked_goes (marked_kept marked
            fun lower member => kept lower (List.mem_of_mem_tail member)) goes tall)
          cases spawned with
          | none => exact under
          | some body =>
              -- Only a loop spawns another body, for the statement that the first was spawned for.
              obtain ⟨_, _, ⟨⟩, going⟩ := Deed.bind_answers done
              rcases Deed.complete_answers going with
                ⟨statement, predicate, block, looping, _, rounds⟩ | ⟨_, _, _, _, nobody, _⟩ | ⟨nobody, _⟩
              · rw [resumes] at looping
                cases looping
                have again := Deed.rounds_pending rounds body rfl
                have onward := underway_moved cursor (underway_goes underway goes ?_)
                · refine .body under again ?_ located onward
                  rw [← latest]
                  exact kept frame List.mem_cons_self
                · rw [stack]
                  exact Nat.lt_succ_self _
              · cases nobody
              · cases nobody

theorem reaches_marked {after : Machine σ} (unobserved : settings.Unobserved)
    (path : Reaches settings start after) (standing : Standing settings start.world start.stack)
    (marked : Marked settings start start start.journal start.stack) :
    Marked settings start after after.journal after.stack := by
  induction path with
  | refl => exact marked
  | tail path goes ih =>
      exact goes_marked unobserved path goes (reaches_standing unobserved path standing).1 ih

theorem fails_marked {last after : Machine σ} {failure : Failure} (unobserved : settings.Unobserved)
    (failed : step settings last = (.error failure, after))
    (standing : Standing settings last.world last.stack)
    (marked : Marked settings start last last.journal last.stack) :
    Marked settings start last after.journal after.stack := by
  obtain ⟨frame, below, deed, cursor, turn, done, stack⟩ :=
    fails_turn settings last after failure unobserved failed
  have stacked := standing.stacked
  generalize stands : last.stack = before at turn marked stacked
  rw [stack]
  cases turn with
  | line _ _ line rest taking =>
      have kept : ∀ lower ∈ below,
          after.journal.latestOf? lower.id = last.journal.latestOf? lower.id := by
        rcases Deed.ensures_failed (Deed.launch_enters line rest last.world) done with
          ⟨statement, enters⟩ | ⟨same, _⟩
        · exact enters_kept stacked enters
        · rw [show after.journal = last.journal from congrArg World.journal same]
          exact fun _ _ => rfl
      exact marked_moved cursor (marked_kept marked kept)
  | back ended _ _ spent =>
      have left := Deed.ensures_failed (return_footprint _ stacked) done
      have journal : after.journal = last.journal.forget ended.id := congrArg World.journal left
      have kept := forgotten_kept last.journal stacked
      rw [← journal] at kept
      exact marked_moved cursor (marked_kept (marked_tail marked)
        fun lower member => kept lower (List.mem_cons_of_mem _ member))

theorem marked_split {after : Machine σ} {journal : Journal Nat} {above below : List Frame}
    {inner caller : Frame}
    (marked : Marked settings start after journal (above ++ inner :: caller :: below)) :
    ∃ pending entry, inner.resume = some pending ∧ journal.latestOf? caller.id = some entry ∧
      entry.location = some pending.statement.location ∧
      Underway settings start after caller below pending.statement entry.step := by
  induction above with
  | nil =>
      cases marked with
      | body _ resumes latest located underway => exact ⟨_, _, resumes, latest, located, underway⟩
  | cons frame above ih =>
      cases rest : above ++ inner :: caller :: below with
      | nil => cases (List.append_eq_nil_iff.mp rest).2
      | cons lower others =>
          rw [List.cons_append, rest] at marked
          rw [rest] at ih
          exact ih (marked_tail marked)

end Machine

def Value.isWritable : Value → Bool
  | .int n => Numeral.isWritable n
  | .text _ => true

theorem Value.summary_answers (value : Value) (writable : value.isWritable = true) :
    ∃ text, value.summary = .ok text := by
  cases value with
  | int n =>
      have short : Numeral.isWritable n = true := writable
      exact ⟨_, by rw [summary, written, Numeral.write, if_pos short]; rfl⟩
  | text t => exact ⟨_, rfl⟩

section

variable {ε α β : Type}

theorem each_answers (change : α → Except ε β) (items : List α)
    (answers : ∀ item ∈ items, ∃ result, change item = .ok result) :
    ∃ results, items.mapM change = .ok results ∧
      List.Forall₂ (fun item result => change item = .ok result) items results := by
  induction items with
  | nil => exact ⟨[], rfl, .nil⟩
  | cons item rest ih =>
      obtain ⟨result, answered⟩ := answers item List.mem_cons_self
      obtain ⟨results, others, related⟩ := ih fun other member =>
        answers other (List.mem_cons_of_mem _ member)
      refine ⟨result :: results, ?_, .cons answered related⟩
      rw [List.mapM_cons, answered, others]
      rfl

theorem related_at {related : α → β → Prop} {items : List α} {results : List β} {item : α} (index : Nat)
    (all : List.Forall₂ related items results) (found : items[index]? = some item) :
    ∃ result, results[index]? = some result ∧ related item result := by
  induction all generalizing index with
  | nil => simp at found
  | cons first _ ih =>
      cases index with
      | zero =>
          cases found
          exact ⟨_, rfl, first⟩
      | succ index => exact ih index found

end

theorem Scope.snapshot_answers (scope : Scope)
    (writable : ∀ binding ∈ scope.values, binding.2.isWritable = true) :
    ∃ snapshot, scope.snapshot = .ok snapshot := by
  have answers : ∀ binding ∈ scope.values,
      ∃ shown, Except.map (binding.1, ·) binding.2.summary = .ok shown := by
    intro binding member
    obtain ⟨text, answered⟩ := binding.2.summary_answers (writable binding member)
    exact ⟨(binding.1, text), congrArg (Except.map (binding.1, ·)) answered⟩
  obtain ⟨snapshot, taken, _⟩ := each_answers _ scope.values answers
  exact ⟨snapshot, taken⟩

namespace Traceback

variable {σ : Type}

theorem frame_answers (machine : Machine σ) (live : Frame)
    (writable : ∀ scope ∈ machine.store.scopeAt? live.path, ∀ binding ∈ scope.values,
      binding.2.isWritable = true) :
    ∃ shown, frame machine live = .ok shown := by
  have whole : ∃ snapshot, machine.store.snapshot live.path = .ok snapshot := by
    apply Scope.snapshot_answers
    cases present : machine.store.scopeAt? live.path with
    | none => exact fun binding member => absurd member List.not_mem_nil
    | some scope => exact writable scope present
  obtain ⟨snapshot, taken⟩ := whole
  exact ⟨_, by rw [frame, taken]; rfl⟩

end Traceback

namespace Machine

variable {σ : Type}

def whereabouts (machine : Machine σ) (live : Frame) : Option Location :=
  match machine.journal.latestOf? live.id with
  | some entry => entry.location
  | none => live.calledFrom

theorem whereabouts_moved (machine : Machine σ) (live : Frame) (cursor : Cursor) :
    machine.whereabouts (live.moved cursor) = machine.whereabouts live := rfl

theorem whereabouts_latest {machine : Machine σ} {live : Frame} {entry : Entry Nat}
    (latest : machine.journal.latestOf? live.id = some entry) :
    machine.whereabouts live = entry.location := by
  rw [whereabouts, latest]

structure Pictures (machine : Machine σ) (live : Frame) (shown : TraceFrame) : Prop where
  name : shown.name = live.name
  path : shown.path = live.path
  location : shown.location = machine.whereabouts live
  step : shown.step = (machine.journal.latestOf? live.id).map (·.step)
  snapshot : machine.store.snapshot live.path = .ok shown.snapshot

theorem frame_pictures {machine : Machine σ} {live : Frame} {shown : TraceFrame}
    (answered : Traceback.frame machine live = .ok shown) : Pictures machine live shown := by
  unfold Traceback.frame at answered
  cases taken : machine.store.snapshot live.path with
  | error broken =>
      rw [taken] at answered
      cases answered
  | ok snapshot =>
      rw [taken] at answered
      cases answered
      exact ⟨rfl, rfl, rfl, rfl, taken⟩

def Writable (machine : Machine σ) : Prop :=
  ∀ frame ∈ machine.stack, ∀ scope ∈ machine.store.scopeAt? frame.path, ∀ binding ∈ scope.values,
    binding.2.isWritable = true

instance (machine : Machine σ) : Decidable machine.Writable :=
  inferInstanceAs (Decidable (∀ frame ∈ machine.stack, ∀ scope ∈ machine.store.scopeAt? frame.path,
    ∀ binding ∈ scope.values, binding.2.isWritable = true))

theorem frames_pictures {machine : Machine σ} (writable : machine.Writable) :
    ∃ shown, Traceback.frames machine = .ok shown ∧
      List.Forall₂ (Pictures machine) machine.stack.reverse shown := by
  obtain ⟨shown, framed, related⟩ := each_answers (Traceback.frame machine) machine.stack.reverse
    fun frame member => Traceback.frame_answers machine frame
      (writable frame (List.mem_reverse.mp member))
  exact ⟨shown, framed, related.imp fun _ _ => frame_pictures⟩

theorem shown_at {machine : Machine σ} {shown : List TraceFrame} {above below : List Frame}
    {live : Frame} (pictures : List.Forall₂ (Pictures machine) machine.stack.reverse shown)
    (split : machine.stack = above ++ live :: below) :
    ∃ one, shown[below.length]? = some one ∧ Pictures machine live one := by
  refine related_at below.length pictures ?_
  rw [split]
  simp

theorem run_fails {settings : Settings σ} {source : Text} {fuel : Nat} {failure : Failure}
    {before after : Machine σ} (unobserved : settings.Unobserved)
    (ran : run settings fuel source before = some (.error failure, after)) :
    ∃ last failed, Reaches settings (opening settings source before) last ∧
      step settings last = (.error failed, after) ∧ failure = .fault (after.faultOf failed) := by
  rw [run_unobserved settings _ _ _ unobserved] at ran
  obtain ⟨⟨result, machine⟩, driven, same⟩ := Option.map_eq_some_iff.mp ran
  obtain ⟨last, path, ended⟩ := drive_ends settings fuel _ machine result driven
  cases result with
  | ok _ => cases same
  | error failed =>
      cases same
      exact ⟨last, failed, path, ended, rfl⟩

-- After a run that has failed, however little the journal keeps, the traceback shows the live frames from
-- the program inwards. Each of them but the innermost stands at the statement with a body that was run in
-- it and that the next frame was spawned for, with the step at which that was.
theorem traceback_bookmarked (settings : Settings σ) (source : Text) (capacity fuel : Nat) (host : σ)
    (failure : Failure) (machine : Machine σ) (unobserved : settings.Unobserved)
    (ran : run settings fuel source (fresh (.empty capacity) host) = some (.error failure, machine))
    (writable : machine.Writable) :
    ∃ shown last failed,
      Reaches settings (opening settings source (fresh (.empty capacity) host)) last ∧
      step settings last = (.error failed, machine) ∧
      Traceback.frames machine = .ok shown ∧
      List.Forall₂ (Pictures machine) machine.stack.reverse shown ∧
      (∃ program, machine.stack.getLast? = some program ∧ program.path = [settings.program] ∧
        program.resume = none) ∧
      ∀ above inner caller below, machine.stack = above ++ inner :: caller :: below →
        ∃ one pending number, shown[below.length]? = some one ∧ one.path = caller.path ∧
          inner.resume = some pending ∧ one.location = some pending.statement.location ∧
          one.step = some number ∧
          Underway settings (opening settings source (fresh (.empty capacity) host)) last caller below
            pending.statement number := by
  have opens := opening_standing settings source capacity host
  obtain ⟨last, failed, path, ended, _⟩ := run_fails unobserved ran
  have standing := (reaches_standing unobserved path opens).1
  have marked := fails_marked unobserved ended standing
    (reaches_marked unobserved path opens (.program (outermost settings source) rfl))
  have stacked := (fails_standing unobserved ended standing).1.stacked
  obtain ⟨shown, framed, pictures⟩ := frames_pictures writable
  obtain ⟨program, bottom, _, first, _, _, resumes⟩ := stacked_bottom stacked
  refine ⟨shown, last, failed, path, ended, framed, pictures, ⟨program, bottom, first, resumes⟩, ?_⟩
  intro above inner caller below split
  rw [split] at marked
  obtain ⟨pending, entry, waiting, latest, located, underway⟩ := marked_split marked
  have lower : machine.stack = (above ++ [inner]) ++ caller :: below := by
    rw [split, List.append_assoc]
    rfl
  obtain ⟨one, there, picture⟩ := shown_at pictures lower
  have stands := picture.location.trans (whereabouts_latest latest)
  have counts := picture.step
  rw [latest] at counts
  exact ⟨one, pending, entry.step, there, picture.path, waiting, stands.trans located, counts, underway⟩

theorem traceback_bookmarked_failing : quiet.Unobserved ∧ ∃ failure machine shown one pending number,
    run quiet 3 failing (fresh (.empty 0) ()) = some (.error failure, machine) ∧
      machine.journal.recent = [] ∧ Traceback.frames machine = .ok shown ∧ shown[0]? = some one ∧
      one.path = ["f".toList] ∧ one.location = some (Resume.statement pending).location ∧
      one.step = some number := by
  have outline : (run quiet 3 failing (fresh (.empty 0) ())).map (fun (result, machine) =>
      (result.toOption, machine.stack.length, machine.journal.recent, decide machine.Writable)) =
        some (none, 2, [], true) := by
    decide +kernel
  obtain ⟨⟨result, machine⟩, ran, same⟩ := Option.map_eq_some_iff.mp outline
  have two : machine.stack.length = 2 := congrArg (·.2.1) same
  have dropped : machine.journal.recent = [] := congrArg (·.2.2.1) same
  have writable := of_decide_eq_true (congrArg (·.2.2.2) same)
  obtain ⟨inner, program, stack⟩ := List.length_eq_two.mp two
  cases result with
  | ok _ => cases same
  | error failure =>
      obtain ⟨shown, last, failed, _, _, framed, _, ⟨bottom, first, path, _⟩, marks⟩ :=
        traceback_bookmarked quiet failing 0 3 () failure machine quiet_unobserved ran writable
      obtain ⟨one, pending, number, there, here, _, location, step, _⟩ := marks [] inner program [] stack
      have outermost : program = bottom := by
        rw [stack] at first
        exact Option.some.inj first
      rw [outermost, path] at here
      exact ⟨quiet_unobserved, failure, machine, shown, one, pending, number, ran, dropped, framed, there,
        here, location, step⟩

end Machine
end BareBones
