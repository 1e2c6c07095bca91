import BareBones.Proofs.Observers
import BareBones.Proofs.Tales
import BareBones.Timer

set_option autoImplicit false

namespace BareBones.Machine

open Telling

variable {σ : Type} {hears : σ → List Notice}

section

variable {settings : Settings σ} {frame : Frame} {start : Tale}
  {failed : List Notice → Prop}

theorem tells_record (statement : Statement) (fails : failed start.told) :
    Tells hears (recordStep settings statement) start
      (fun _ after => after = { start with steps := start.steps + 1 }) failed := by
  refine tells_hushed keeps_get fails fun machine => ?_
  dsimp only
  split
  · refine tells_hushed (keeps_bind (keeps_settle _) fun _ => keeps_pure _) fails fun snapshot => ?_
    rintro machine rfl
    rfl
  · refine tells_hushed (keeps_pure _) fails fun snapshot => ?_
    rintro machine rfl
    rfl

theorem tells_spawn {good : Tale → Prop} (body : List Line) (name : Text) (path : Path)
    (arguments : List Text) (calledFrom : Location) (pending : Resume) (fails : failed start.told)
    (met : good (start.spawn pending)) :
    Tells hears (spawn settings body name path arguments calledFrom pending) start (fun _ => good)
      failed := by
  refine tells_hushed keeps_get fails fun machine => ?_
  refine tells_hushed (keeps_settle _) fails fun _ => ?_
  refine tells_hushed (keeps_note tale_oblivious _ _) fails fun _ => ?_
  rintro machine rfl
  exact met

theorem tells_round {good : Tale → Prop} (recording : Recording hears settings) (statement : Statement)
    (predicate : Text) (block : Block) (fails : failed start.told)
    (again : good (start.spawn (.loop statement predicate block)))
    (done : good (start.tell [.afterStatement statement frame.id])) :
    Tells hears (loopRound settings frame statement predicate block) start (fun _ => good) failed := by
  refine tells_hushed (keeps_test tale_oblivious _ _) fails fun holds => ?_
  split
  · exact tells_spawn _ _ _ _ _ _ fails again
  · exact tells_announce recording _ done

end

section

variable {settings : Settings σ} {frame : Frame} {start : Tale} {program : Path}
  {resumed : Option Resume} {below : List (Nat × Option Resume)}

theorem tells_call (recording : Recording hears settings) (sound : start.Sound program)
    (top : start.stack = (frame.id, resumed) :: below) (location : Location) (name : Text)
    (arguments : List Text) :
    Tells hears (call settings frame ⟨location, .call name arguments⟩ name arguments)
      (start.begin ⟨location, .call name arguments⟩ frame.id) (fun _ => Tale.Sound program)
      (Unfinished program) := by
  have fails := sound_begun ⟨location, .call name arguments⟩ sound top
  refine tells_hushed keeps_get fails fun machine => ?_
  split
  · exact tells_throw _ fails
  · refine tells_announce_bind recording _ ?_
    have called : Unfinished program
        ((start.begin ⟨location, .call name arguments⟩ frame.id).tell
          [.beforeCall name arguments frame.id location]).told := by
      have begins : [.beforeStatement ⟨location, .call name arguments⟩ frame.id,
          .beforeCall name arguments frame.id location] <+:
          pair ⟨location, .call name arguments⟩ frame.id
            [.beforeCall name arguments frame.id location, .afterCall name arguments frame.id location] :=
        ⟨_, rfl⟩
      have reached := sound_prefix sound top (.call (.start _ _)) begins
      simpa [Tale.tell, Tale.begin] using reached
    refine tells_hushed (fun _ => rfl) called fun path => ?_
    exact tells_spawn _ _ _ _ _ _ called
      (sound_spawn sound top (.call location name arguments start.created) rfl)

theorem tells_execute (recording : Recording hears settings) (sound : start.Sound program)
    (top : start.stack = (frame.id, resumed) :: below) (statement : Statement) :
    Tells hears (execute settings frame statement) (start.tell [.beforeStatement statement frame.id])
      (fun deferred after =>
        (if deferred then after else after.tell [.afterStatement statement frame.id]).Sound program)
      (Unfinished program) := by
  have fails := sound_begun statement sound top
  refine tells_bind (tells_record statement fails) ?_
  rintro _ _ rfl
  change Tells hears _ (start.begin statement frame.id) _ _
  rcases statement with ⟨location, command⟩
  have plain : command.spawns = false →
      ((start.begin ⟨location, command⟩ frame.id).tell
        [.afterStatement ⟨location, command⟩ frame.id]).Sound program :=
    fun atOnce => sound_end sound top (.atOnce _ _ atOnce)
  cases command with
  | clear name => exact tells_hushed (fun _ => rfl) fails fun _ => tells_pure _ (plain rfl)
  | count direction name =>
      exact tells_hushed (keeps_count tale_oblivious _ _ _) fails fun _ => tells_pure _ (plain rfl)
  | debug name =>
      refine tells_hushed (keeps_read_variable _ name) fails fun value => ?_
      refine tells_hushed (keeps_settle _) fails fun written => ?_
      exact tells_hushed (fun _ => rfl) fails fun _ => tells_pure _ (plain rfl)
  | print format =>
      refine tells_hushed keeps_get fails fun machine => ?_
      refine tells_hushed (keeps_settle _) fails fun text => ?_
      exact tells_hushed (fun _ => rfl) fails fun _ => tells_pure _ (plain rfl)
  | assign name format =>
      refine tells_hushed keeps_get fails fun machine => ?_
      refine tells_hushed (keeps_settle _) fails fun text => ?_
      refine tells_hushed (keeps_note tale_oblivious _ _) fails fun _ => ?_
      exact tells_hushed (fun _ => rfl) fails fun _ => tells_pure _ (plain rfl)
  | define name =>
      refine tells_hushed (keeps_read_block tale_oblivious _ _ _) fails fun block => ?_
      refine tells_hushed (fun _ => rfl) fails fun _ => ?_
      exact tells_hushed (keeps_note tale_oblivious _ _) fails fun _ => tells_pure _ (plain rfl)
  | loop predicate =>
      refine tells_hushed (keeps_read_block tale_oblivious _ _ _) fails fun block => ?_
      refine tells_hushed (fun _ => rfl) fails fun _ => ?_
      have round := sound_spawn sound top (.loop location predicate block (.start _)) rfl
      rw [Tale.tell_nil] at round
      have rounds := tells_round recording _ predicate block fails round
        (sound_end sound top (.loop (.start _)))
      exact tells_bind rounds fun _ after good => tells_pure true good
  | branch predicate =>
      refine tells_hushed (keeps_choose tale_oblivious _ _ _) fails fun chosen => ?_
      cases chosen with
      | none => exact tells_pure false (sound_end sound top (.skipped _ _ _ _))
      | some taken =>
          obtain ⟨block, clause⟩ := taken
          refine tells_hushed (fun _ => rfl) fails fun path => ?_
          have taken := sound_spawn sound top (.branch location predicate block.terminator _) rfl
          rw [Tale.tell_nil] at taken
          exact tells_bind (tells_spawn _ _ _ _ _ _ fails taken) fun _ after good => tells_pure true good
  | call name arguments =>
      exact tells_bind (tells_call recording sound top location name arguments)
        fun _ after good => tells_pure true good
  | unsupported => exact tells_throw _ fails

theorem tells_dispatch (recording : Recording hears settings) (sound : start.Sound program)
    (top : start.stack = (frame.id, resumed) :: below) (line : Line) :
    Tells hears (dispatch settings frame line) start (fun _ => Tale.Sound program)
      (Unfinished program) := by
  have fails := sound_unfinished sound
  refine tells_hushed (keeps_note tale_oblivious _ _) fails fun _ => ?_
  have executed : ∀ statement, Tells hears
      (do
        announce settings (.beforeStatement statement frame.id)
        let deferred ← execute settings frame statement
        return (statement, deferred)) start
      (fun answer after => (if answer.2 then after
        else after.tell [.afterStatement answer.1 frame.id]).Sound program) (Unfinished program) := by
    intro statement
    refine tells_announce_bind recording _ ?_
    exact tells_bind (tells_execute recording sound top statement)
      fun deferred after good => tells_pure (statement, deferred) good
  refine tells_bind (tells_locating line.location
    (tells_hushed (keeps_settle (Statement.read line)) fails executed)) ?_
  rintro ⟨statement, deferred⟩ after good
  cases deferred with
  | true => exact tells_pure () good
  | false => exact tells_announce recording _ good

theorem tells_resume {id : Nat} {caller : Frame} {pending : Resume} (recording : Recording hears settings)
    (sound : start.Sound program)
    (top : start.stack = (id, some pending) :: (caller.id, resumed) :: below) :
    Tells hears (resume settings caller pending) start.pop (fun _ => Tale.Sound program)
      (Unfinished program) := by
  have fails := sound_unfinished sound
  have returned := sound_return sound top
  cases pending with
  | loop statement predicate block =>
      exact tells_round recording statement predicate block fails (sound_again sound top) returned
  | branch statement terminator =>
      unfold resume
      dsimp only
      split
      · split
        · exact tells_throw _ fails
        · refine tells_hushed (keeps_read_block tale_oblivious _ _ _) fails fun _ => ?_
          exact tells_announce recording _ returned
      · exact tells_announce recording _ returned
  | call statement name arguments =>
      refine tells_announce_bind recording _ (tells_announce recording _ ?_)
      rw [Tale.tell_tell]
      exact returned

theorem tells_return {body caller : Frame} (recording : Recording hears settings)
    (sound : start.Sound program)
    (top : start.stack = (body.id, body.resume) :: (caller.id, resumed) :: below) :
    Tells hears (returnFrom settings body caller) start (fun _ => Tale.Sound program)
      (Unfinished program) := by
  have popped : Tells hears (modify fun machine : Machine σ =>
      { machine.pop with journal := machine.journal.forget body.id }) start
      (fun _ after => after = start.pop) (Unfinished program) := by
    rintro machine rfl
    exact congrArg (Tale.mk _ _ _) List.map_tail
  refine tells_bind popped ?_
  rintro _ _ rfl
  obtain ⟨pending, waiting⟩ := sound_pending sound top
  rw [waiting] at top ⊢
  exact tells_resume recording sound top

theorem tells_true {act : Act σ Unit} (tells : Tells hears act start (fun _ => Tale.Sound program)
    (Unfinished program)) :
    Tells hears (act >>= fun _ => pure true) start
      (fun going after => if going then after.Sound program else after.Over program)
      (Unfinished program) :=
  tells_bind tells fun _ _ sound => tells_pure true sound

theorem tells_step (recording : Recording hears settings) (sound : start.Sound program) :
    Tells hears (step settings) start
      (fun going after => if going then after.Sound program else after.Over program)
      (Unfinished program) := by
  rintro machine rfl
  cases stands : machine.stack with
  | nil => exact absurd (congrArg (List.map _) stands) (sound_alive sound)
  | cons frame below =>
      have top : (machine.tale hears).stack = (frame.id, frame.resume) :: _ :=
        congrArg (List.map _) stands
      cases taking : Cursor.next? frame.cursor with
      | some taken =>
          obtain ⟨line, rest⟩ := taken
          have moved : (machine.tale hears).stack = ((frame.moved rest).id, frame.resume) :: _ := top
          have ran := tells_hushed (keeps_move tale_oblivious rest) (sound_unfinished sound) fun _ =>
            tells_true (tells_dispatch recording sound moved line)
          unfold step
          rw [effect_bind, effect_get]
          simp only [stands, taking]
          exact ran machine rfl
      | none =>
          cases below with
          | nil =>
              rw [step_over settings machine frame stands taking]
              exact sound_over sound top
          | cons caller below =>
              have returned := tells_true (tells_return recording sound top)
              unfold step
              rw [effect_bind, effect_get]
              simp only [stands, taking]
              exact returned machine rfl

def Told (program : Path) : Except Failure Unit → Tale → Prop
  | .ok _, tale => tale.Over program
  | .error _, tale => Unfinished program tale.told

theorem drive_told (recording : Recording hears settings) (fuel : Nat)
    (machine after : Machine σ) (result : Except Failure Unit)
    (sound : (machine.tale hears).Sound program)
    (ends : drive settings fuel machine = some (result, after)) :
    Told program result (after.tale hears) := by
  induction fuel generalizing machine with
  | zero => cases ends
  | succ fuel ih =>
      have step := tells_step recording sound machine rfl
      rw [drive] at ends
      generalize stepped : Machine.step settings machine = done at step ends
      rcases done with ⟨failure | going, next⟩
      · cases ends
        exact step
      · cases going with
        | true => exact ih next step ends
        | false =>
            cases ends
            exact step

end

section

variable {settings : Settings σ}

theorem discreet_recording (discreet : Discreet settings) (heard : settings.Heard hears) :
    Recording hears settings := by
  intro notice machine
  obtain ⟨after, told, sameWorld, sameStack⟩ := discreet notice machine
  refine ⟨after, told, ?_⟩
  simp only [world, World.mk.injEq] at sameWorld
  obtain ⟨_, journal, created, _⟩ := sameWorld
  simp only [tale, Tale.tell, journal, created, sameStack, heard notice machine after told]

inductive Recounted (program : Path) (world : World) : Except Failure Unit → List Notice → Prop
  | success (told : List Notice) (body : Body 0 1 told world.created)
      (counted : statements told = world.journal.steps) :
      Recounted program world (.ok ()) (.programStart program :: (told ++ [.programEnd 0]))
  | failure (fault : Fault) (front rest : List Notice) (last : Nat) (body : Body 0 1 (front ++ rest) last)
      (inner : front.all Notice.inner = true) :
      Recounted program world (.error (.fault fault))
        (.programStart program :: (front ++ [.onError fault]))

theorem finish_recounted {program : Path} (recording : Recording hears settings) (ending : Ending σ)
    (told : Told program ending.1 (ending.2.tale hears)) :
    Recounted program (finish settings ending).2.world (finish settings ending).1
      (hears (finish settings ending).2.host) := by
  rcases ending with ⟨failure | _, last⟩
  · obtain ⟨after, announced, same⟩ := recording (.onError (last.faultOf failure)) last
    obtain ⟨front, rest, next, start, body⟩ := told
    have heard : hears after.host = _ := (congrArg Tale.told same).trans (congrArg (· ++ _) start)
    have inner := body_inner body
    rw [List.all_append, Bool.and_eq_true] at inner
    simp only [finish, fail, announced, heard]
    exact .failure _ front rest next body inner.1
  · obtain ⟨after, announced, same⟩ := recording (.programEnd 0) last
    obtain ⟨front, start, body, counted⟩ := told
    have heard : hears after.pop.host = _ := (congrArg Tale.told same).trans (congrArg (· ++ _) start)
    have created : after.pop.world.created = last.created := congrArg Tale.created same
    have steps : after.pop.world.journal.steps = last.journal.steps := congrArg Tale.steps same
    simp only [finish, succeed, announced, heard]
    refine .success front ?_ ?_
    · rw [created]
      exact body
    · rw [steps]
      exact counted

theorem trial_recounted (source : Text) (capacity : Nat) (host : σ) (fuel : Nat)
    (result : Except Failure Unit) (after : Machine σ) (discreet : Discreet settings)
    (heard : settings.Heard hears) (fresh : hears host = [])
    (ran : trial settings source capacity host fuel = some (result, after)) :
    Recounted [settings.program] after.world result (hears after.host) := by
  have recording := discreet_recording discreet heard
  obtain ⟨begun, announced, _, runs⟩ := run_discreet discreet source (.fresh (.empty capacity) host)
  obtain ⟨_, told, same⟩ := recording (.programStart [settings.program])
    ((Machine.fresh (.empty capacity) host).enterProgram settings)
  cases announced.symm.trans told
  have sound : ((begun.load settings source).tale hears).Sound [settings.program] := by
    refine ⟨[], ?_⟩
    rw [load, set_cursor_tale, same]
    exact ⟨congrArg (· ++ _) fresh, .program (.start 0 1), rfl⟩
  unfold trial at ran
  rw [runs] at ran
  obtain ⟨ending, driven, finished⟩ := Option.map_eq_some_iff.mp ran
  have recounted := finish_recounted recording ending
    (drive_told recording fuel _ ending.2 ending.1 sound driven)
  rwa [finished] at recounted

-- In front of observers that only look on, a run tells its start, then of its statements and calls, each
-- closed inside the one in which it has begun, and then its end. If it fails, it tells the beginning of
-- such a telling, and then its failure.
theorem told_nested (settings : Settings σ) (source : Text) (capacity : Nat) (host : σ) (fuel : Nat)
    (result : Except Failure Unit) (after : Machine σ) (watched : settings.Watched)
    (ran : trial settings source capacity host fuel = some (result, after)) :
    (∃ beside, trial settings.recorded source capacity (host, []) fuel = some (result, beside) ∧
      beside.world = after.world ∧ beside.stack.length = after.stack.length ∧
      Recounted [settings.program] after.world result beside.host.2) ∧
      ∀ hears, settings.Heard hears → hears host = [] →
        Recounted [settings.program] after.world result (hears after.host) := by
  constructor
  · obtain ⟨beside, recorded, world, height⟩ :=
      trial_recorded watched source capacity host fuel result after ran
    refine ⟨beside, recorded, world, height, ?_⟩
    have recounted := trial_recounted source capacity (host, []) fuel result beside
      (recorded_discreet watched) (recorded_heard settings) rfl recorded
    rw [← world]
    exact recounted
  · intro hears heard fresh
    exact trial_recounted source capacity host fuel result after (watched_discreet watched) heard fresh ran

theorem timer_leaves (started finished : Rat) (milliseconds : Int) (notice : Notice)
    (known : Timer.milliseconds? started finished = some milliseconds) :
    (Timer.handler started finished : Handler σ).Leaves interpreter notice := by
  intro machine
  refine ⟨{ machine with traced := Timer.line milliseconds :: machine.traced }, ?_, rfl⟩
  unfold Timer.handler
  rw [known]

def repeating : Text :=
  "set X 1\nfunction f do\ndecr X\nend\nwhile X not 0 do\nf\nend".toList

def timed (limit : Int) : Settings Unit :=
  { quiet with maxDepth := .atMost limit, handlers := Timer.registry 0 0 }

theorem timed_watched (limit : Int) : (timed limit).Watched := by
  intro notice registration member
  cases notice with
  | programEnd status =>
      cases List.mem_singleton.mp member
      exact timer_leaves 0 0 0 (.programEnd status) (by decide +kernel)
  | _ => cases member

theorem told_nested_repeating :
    (timed 3).Watched ∧ (timed 2).Watched ∧ (timed 2).recorded.Watched ∧
      (∃ after beside, trial (timed 3) repeating 5 () 8 = some (.ok (), after) ∧
        trial (timed 3).recorded repeating 5 ((), []) 8 = some (.ok (), beside) ∧
        Recounted ["f".toList] after.world (.ok ()) beside.host.2) ∧
      ∃ fault after, fault.cause = .depthLimit "2".toList ∧
        trial (timed 2).recorded repeating 5 ((), []) 8 = some (.error (.fault fault), after) ∧
        (timed 2).recorded.Heard Prod.snd ∧
        Recounted ["f".toList] after.world (.error (.fault fault)) after.host.2 := by
  have succeeds : (trial (timed 3) repeating 5 () 8).map (·.1.toOption) = some (some ()) := by
    decide +kernel
  have fails : (trial (timed 2).recorded repeating 5 ((), []) 8).map (·.1.mapError Failure.cause) =
      some (.error (.depthLimit "2".toList)) := by
    decide +kernel
  have watched := recorded_watched (timed_watched 2)
  refine ⟨timed_watched 3, timed_watched 2, watched, ?_, ?_⟩
  · obtain ⟨⟨result, after⟩, ran, success⟩ := Option.map_eq_some_iff.mp succeeds
    rcases result with failure | _
    · cases success
    · obtain ⟨beside, recorded, _, _, recounted⟩ :=
        (told_nested (timed 3) repeating 5 () 8 _ after (timed_watched 3) ran).1
      exact ⟨after, beside, ran, recorded, recounted⟩
  · obtain ⟨⟨result, after⟩, ran, failed⟩ := Option.map_eq_some_iff.mp fails
    rcases result with (fault | _ | _) | _
    · have recounted := (told_nested (timed 2).recorded repeating 5 ((), []) 8 _ after watched ran).2
        Prod.snd (recorded_heard (timed 2)) rfl
      exact ⟨fault, after, Except.error.inj failed, ran, recorded_heard (timed 2), recounted⟩
    all_goals cases failed

end

end BareBones.Machine
