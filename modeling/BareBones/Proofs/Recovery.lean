import BareBones.Proofs.Joining
import BareBones.Proofs.Lockstep
import BareBones.Proofs.Refusal

set_option autoImplicit false

namespace BareBones

-- The worlds have the same store and the same output. What was counted or entered into the journal may differ.
def Bond.visible : Bond :=
  ⟨fun one other => one.store = other.store ∧ one.written = other.written, fun _ => False⟩

def Frame.Renumbered : Frame → Frame → Prop :=
  Frame.Alias fun _ _ => True

namespace Deed

variable {σ τ : Type} {settings : Settings σ} {others : Settings τ}

theorem visible_store (change : Store → Store) :
    Paired .visible Eq (modify fun world => { world with store := change world.store } : Deed PUnit)
      (modify fun world => { world with store := change world.store }) :=
  paired_modify fun _ _ link => ⟨congrArg change link.1, link.2⟩

theorem visible_env {one other : World} (here : Activation) (link : Bond.visible.linked one other) :
    here.env one = here.env other := by
  rw [Activation.env, Activation.env, link.1]

theorem visible_reads : Reads .visible where
  holds here predicate location :=
    evaluate_paired here location _ fun _ _ link => congrArg (·.test predicate) (visible_env here link)
  expand here location format :=
    evaluate_paired here location _ fun _ _ link => congrArg (·.expand format) (visible_env here link)
  value here location name := paired_interchangeable
    (evaluate_paired here location _ fun _ _ link => congrArg (·.value name) (visible_env here link))
  assign here name value := visible_store (·.write here.path name value)
  define here name block := visible_store (·.define here.path name block)
  enter here label := visible_store (·.enter (here.path ++ [label]))
  find here location name :=
    find_paired here location name fun _ _ link => congrArg (·.function? here.path name) link.1

theorem visible_spawn (settings : Settings σ) (here : Activation) (location : Location) :
    Paired .visible (fun _ _ => True) (spawn settings here location) (spawn settings here location) := by
  apply paired_same (paired_settled _)
  exact fun _ _ _ link => .answered trivial link

theorem visible_emits (settings : Settings σ) (location : Location) :
    Emits .visible settings settings location :=
  fun _ => paired_modify fun _ _ link => ⟨link.1, congrArg (_ :: ·) link.2⟩

theorem choose_renumbered (here : Activation) (id : Nat) (predicate : Option Text) (location : Location)
    (cursor : Cursor) :
    choose { here with id := id } predicate location cursor = choose here predicate location cursor := by
  cases reading : Block.read BlockKind.branch.keyword location true cursor with
  | error fault => rw [choose_unread _ _ _ _ _ reading, choose_unread _ _ _ _ _ reading]
  | ok carved =>
      obtain ⟨block, rest⟩ := carved
      have tested : admits { here with id := id } location predicate = admits here location predicate := by
        cases predicate <;> rfl
      rw [choose_read _ _ _ _ _ _ reading, choose_read _ _ _ _ _ _ reading, tested]
      congr 1
      funext taken
      split
      · rfl
      · split
        · rfl
        · cases taking : Cursor.next? rest with
          | none => rfl
          | some ahead =>
              obtain ⟨line, after⟩ := ahead
              dsimp only
              cases Boundary.readElse line with
              | error fault => rfl
              | ok next => exact choose_renumbered here id next line.location after
termination_by cursor.length
decreasing_by
  have kept := Block.read_rest_length reading
  have shorter := Cursor.next_shorter _ _ _ taking
  omega

theorem perform_renumbered (settings : Settings σ) (here : Activation) (id : Nat) (statement : Statement)
    (rest : Cursor) :
    perform settings { here with id := id } statement rest = perform settings here statement rest := by
  rcases statement with ⟨location, command⟩
  cases command with
  | branch predicate =>
      unfold perform
      dsimp only
      rw [choose_renumbered]
      rfl
  | _ => rfl

theorem complete_renumbered (settings : Settings σ) (here : Activation) (id : Nat) (cursor : Cursor)
    (pending : Option Resume) :
    complete settings { here with id := id } cursor pending = complete settings here cursor pending := by
  rcases pending with _ | _ | _ | _ <;> rfl

theorem record_renumbered (terse : settings.verbose = false) (here : Activation) (id : Nat)
    (statement : Statement) :
    Paired .visible Eq (record settings here statement) (record settings { here with id := id } statement) := by
  intro one other link
  unfold record
  rw [terse]
  exact .answered rfl link

theorem launch_renumbered (terse : settings.verbose = false) (here : Activation) (id : Nat) (line : Line)
    (rest : Cursor) :
    Paired .visible (Kin fun _ _ => True) (launch settings here line rest)
      (launch settings { here with id := id } line rest) := by
  apply paired_same (paired_settled _)
  intro statement
  apply paired_same (record_renumbered terse here id statement)
  intro _
  rw [perform_renumbered settings here id]
  exact perform_numbered visible_reads (visible_spawn settings) here statement rest
    (visible_emits settings statement.location)

theorem return_renumbered (settings : Settings σ) (here : Activation) (id first second : Nat)
    (cursor : Cursor) (pending : Option Resume) :
    Paired .visible (Kin fun _ _ => True) (do leave first; complete settings here cursor pending)
      (do leave second; complete settings { here with id := id } cursor pending) := by
  have left : Paired .visible Eq (leave first) (leave second) := paired_modify fun _ _ link => link
  apply paired_same left
  intro _
  rw [complete_renumbered settings here id]
  exact complete_numbered visible_reads (visible_spawn settings) here cursor pending

end Deed

namespace Machine

variable {σ τ α : Type} {settings : Settings σ}

structure Echo (one : Machine σ) (other : Machine τ) : Prop where
  stack : List.Forall₂ Frame.Renumbered one.stack other.stack
  visible : Bond.visible.linked one.world other.world

inductive Echoes : Except Failure α × Machine σ → Except Failure α × Machine τ → Prop
  | answered {a : α} {one : Machine σ} {other : Machine τ} (echo : Echo one other) :
      Echoes (.ok a, one) (.ok a, other)
  | failed {failure : Failure} {one : Machine σ} {other : Machine τ}
      (visible : Bond.visible.linked one.world other.world) :
      Echoes (.error failure, one) (.error failure, other)

theorem renumbered_moved {one other : Frame} (cursor : Cursor) (aliases : Frame.Renumbered one other) :
    Frame.Renumbered (one.moved cursor) (other.moved cursor) :=
  ⟨trivial, congrArg (Frame.moved cursor) aliases.2⟩

theorem option_list {one other : Option Frame} (bodies : Option.Rel Frame.Renumbered one other) :
    List.Forall₂ Frame.Renumbered one.toList other.toList := by
  cases bodies with
  | none => exact .nil
  | some same => exact .cons same .nil

theorem outcomes_echo {frame counterpart : Frame} {below lower : List Frame}
    {done other : Except Failure Bool × Machine σ}
    {expected there : Except Failure (Cursor × Option Frame) × World}
    (outcome : Outcomes id frame below (Going frame below) done expected)
    (beside : Outcomes id counterpart lower (Going counterpart lower) other there)
    (aliases : Frame.Renumbered frame counterpart) (under : List.Forall₂ Frame.Renumbered below lower)
    (pairs : Deed.Pairs .visible (Deed.Kin fun _ _ => True) expected there) : Echoes done other := by
  cases pairs with
  | answered kin link =>
      cases outcome with
      | answered met =>
          cases beside with
          | answered near =>
              obtain ⟨rfl, stack⟩ := met
              obtain ⟨rfl, stood⟩ := near
              obtain ⟨cursors, bodies⟩ := kin
              refine .answered ⟨?_, link⟩
              rw [stack, stood, cursors]
              refine List.rel_append ?_ (.cons (renumbered_moved _ aliases) under)
              exact option_list bodies
  | failed link =>
      cases outcome with
      | failed _ _ =>
          cases beside with
          | failed _ _ => exact .failed link
  | excused excuse => cases excuse

theorem step_echo {one other : Machine σ} (unobserved : settings.Unobserved)
    (terse : settings.verbose = false) (echo : Echo one other) :
    Echoes (step settings one) (step settings other) := by
  obtain ⟨stacked, visible⟩ := echo
  have discreet := unobserved_discreet unobserved
  generalize stands : one.stack = stack, beside : other.stack = counter at stacked
  cases stacked with
  | nil =>
      rw [step_empty settings one stands, step_empty settings other beside]
      exact .answered ⟨by rw [stands, beside]; exact .nil, visible⟩
  | @cons frame counterpart below lower aliases under =>
      have alone : one.stack.length = other.stack.length := by
        rw [stands, beside, List.length_cons, List.length_cons, under.length_eq]
      obtain ⟨id, rfl⟩ : ∃ id, counterpart = { frame with id := id } := ⟨counterpart.id, aliases.2⟩
      cases taking : Cursor.next? frame.cursor with
      | some taken =>
          obtain ⟨line, rest⟩ := taken
          refine outcomes_echo (step_line settings one frame below line rest discreet stands taking)
            (step_line settings other _ lower line rest discreet beside taking) aliases under ?_
          rw [← under.length_eq]
          exact Deed.launch_renumbered terse (frame.activation (below.length + 1)) id line rest _ _ visible
      | none =>
          cases under with
          | nil =>
              rw [step_over settings one frame stands taking, step_over settings other _ beside taking]
              refine .answered ⟨?_, visible⟩
              rw [stands, beside]
              exact .cons aliases .nil
          | @cons caller callee below lower kin under =>
              obtain ⟨number, rfl⟩ : ∃ number, callee = { caller with id := number } := ⟨callee.id, kin.2⟩
              refine outcomes_echo (step_return settings one frame caller below discreet stands taking)
                (step_return settings other _ _ lower discreet beside taking) kin under ?_
              rw [← under.length_eq]
              exact Deed.return_renumbered settings (caller.activation (below.length + 1)) number frame.id id
                caller.cursor frame.resume _ _ visible

theorem drive_echo {one other : Machine σ} (unobserved : settings.Unobserved)
    (terse : settings.verbose = false) (fuel : Nat) (echo : Echo one other) :
    Option.Rel Echoes (drive settings fuel one) (drive settings fuel other) := by
  induction fuel generalizing one other with
  | zero => exact .none
  | succ fuel ih =>
      have echoes := step_echo unobserved terse echo
      rw [drive, drive]
      generalize step settings one = done, step settings other = counterpart at echoes
      cases echoes with
      | @answered going _ _ echo =>
          cases going with
          | true => exact ih echo
          | false => exact .some (.answered echo)
      | failed visible => exact .some (.failed visible)

def Ready (settings : Settings σ) (machine : Machine σ) : Prop :=
  ∃ cursor, machine.stack = [ground settings cursor]

structure Reply where
  result : Except Failure Unit
  output : List Text
  store : Store

def Ending.reply (ending : Ending σ) : Reply :=
  ⟨ending.1, ending.2.output, ending.2.store⟩

-- The machine with which a session goes on. After a fault the frames but the outermost are given up; no
-- other failure is recovered from.
def Ending.next? : Ending σ → Option (Machine σ)
  | (.ok _, after) => some after
  | (.error (.fault _), after) => some after.unwind
  | (.error _, _) => none

def enter (settings : Settings σ) (fuel : Nat) (machine : Machine σ) (source : Text) : Option (Ending σ) :=
  runSource settings fuel source { machine with written := [], traced := [] }

def replies (settings : Settings σ) (fuel : Nat) : List Text → Machine σ → Option (List Reply)
  | [], _ => some []
  | source :: rest, machine =>
      (enter settings fuel machine source).bind fun ending =>
        match ending.next? with
        | some next => (replies settings fuel rest next).map (ending.reply :: ·)
        | none => some [ending.reply]

inductive Session (settings : Settings σ) : Machine σ → Prop
  | begun (capacity : Nat) (host : σ) :
      Session settings ((fresh (.empty capacity) host).enterProgram settings)
  | entered {machine next : Machine σ} {source : Text} {fuel : Nat} {ending : Ending σ}
      (session : Session settings machine) (ran : enter settings fuel machine source = some ending)
      (goes : ending.next? = some next) : Session settings next

section

variable {machine one other next : Machine σ} {source : Text} {fuel : Nat} {ending : Ending σ}

def Founded (settings : Settings σ) (machine : Machine σ) : Prop :=
  ∃ upper cursor, machine.stack = upper ++ [ground settings cursor]

theorem turn_founded {before after : Machine σ} {actor : Frame} {lower bodies : List Frame}
    {deed : Deed (Cursor × Option Frame)} {left : Cursor} (founded : Founded settings before)
    (turn : Turn settings before.stack actor lower deed)
    (stack : after.stack = bodies ++ actor.moved left :: lower) : Founded settings after := by
  obtain ⟨upper, cursor, stands⟩ := founded
  have bottom : before.stack = upper ++ (ground settings cursor).moved cursor :: [] := stands
  rw [bottom] at turn
  rcases turn_bears turn with stays | ⟨_, impossible, _⟩
  · obtain ⟨upper, cursor, stood⟩ := stays left
    rw [stood, ← List.append_assoc] at stack
    exact ⟨bodies ++ upper, cursor, stack⟩
  · cases impossible

theorem reaches_founded {before after : Machine σ} (unobserved : settings.Unobserved)
    (path : Reaches settings before after) (founded : Founded settings before) : Founded settings after := by
  induction path with
  | refl => exact founded
  | tail _ goes ih =>
      obtain ⟨actor, lower, deed, next, turn, _, stack⟩ := goes_turn settings _ _ unobserved goes
      exact turn_founded ih turn stack

theorem drive_founded {before after : Machine σ} {result : Except Failure Unit}
    (unobserved : settings.Unobserved) (ends : drive settings fuel before = some (result, after))
    (founded : Founded settings before) :
    Founded settings after ∧ (result = .ok () → after.stack.length ≤ 1) := by
  obtain ⟨last, path, ended⟩ := drive_ends settings fuel before after result ends
  have founded := reaches_founded unobserved path founded
  cases result with
  | ok _ =>
      obtain ⟨rfl, alone⟩ := step_ended unobserved ended
      exact ⟨founded, fun _ => alone⟩
  | error failure =>
      obtain ⟨actor, lower, deed, cursor, turn, _, stack⟩ :=
        fails_turn settings last after failure unobserved ended
      rw [← List.nil_append (actor.moved cursor :: lower)] at stack
      exact ⟨turn_founded founded turn stack, fun impossible => by cases impossible⟩

theorem ready_loaded (ready : Ready settings machine) :
    Founded settings ({ machine with written := [], traced := [] }.load settings source) := by
  obtain ⟨cursor, stands⟩ := ready
  exact ⟨[], _, (load_ground source { machine with written := [], traced := [] } stands).1⟩

theorem founded_alone (founded : Founded settings machine) (alone : machine.stack.length ≤ 1) :
    Ready settings machine := by
  obtain ⟨upper, cursor, stands⟩ := founded
  rw [stands, List.length_append, List.length_singleton] at alone
  obtain rfl : upper = [] := List.length_eq_zero_iff.mp (by omega)
  exact ⟨cursor, stands⟩

theorem founded_unwound (founded : Founded settings machine) : Ready settings machine.unwind := by
  obtain ⟨upper, cursor, stands⟩ := founded
  refine ⟨cursor, ?_⟩
  rw [unwind, stands, List.getLast?_append_of_ne_nil _ (List.cons_ne_nil _ _)]
  rfl

theorem ready_next (unobserved : settings.Unobserved) (ready : Ready settings machine)
    (ran : enter settings fuel machine source = some ending) (goes : ending.next? = some next) :
    Ready settings next := by
  obtain ⟨result, after⟩ := ending
  obtain ⟨founded, alone⟩ := drive_founded unobserved ran (ready_loaded ready)
  rcases result with (fault | _ | _) | _
  · cases goes
    exact founded_unwound founded
  · cases goes
  · cases goes
  · cases goes
    exact founded_alone founded (alone rfl)

theorem session_ready (unobserved : settings.Unobserved) (session : Session settings machine) :
    Ready settings machine := by
  induction session with
  | begun capacity host => exact ⟨[], rfl⟩
  | entered _ ran goes ih => exact ready_next unobserved ih ran goes

theorem enter_echo (unobserved : settings.Unobserved) (terse : settings.verbose = false)
    (first : Ready settings one) (second : Ready settings other) (store : one.store = other.store) :
    Option.Rel Echoes (enter settings fuel one source) (enter settings fuel other source) := by
  obtain ⟨_, stands⟩ := first
  obtain ⟨_, beside⟩ := second
  obtain ⟨loaded, world⟩ := load_ground source { one with written := [], traced := [] } stands
  obtain ⟨laden, there⟩ := load_ground source { other with written := [], traced := [] } beside
  refine drive_echo unobserved terse fuel ⟨?_, ?_⟩
  · rw [loaded, laden]
    exact .cons ⟨trivial, rfl⟩ .nil
  · rw [world, there]
    exact ⟨store, rfl⟩

theorem echoes_reply {ending counterpart : Ending σ} (echoes : Echoes ending counterpart) :
    ending.reply = counterpart.reply ∧
      Option.Rel (fun one other => one.store = other.store) ending.next? counterpart.next? := by
  cases echoes with
  | answered echo =>
      obtain ⟨store, written⟩ := echo.visible
      exact ⟨congrArg₂ (Reply.mk _) (congrArg List.reverse written) store, .some store⟩
  | @failed failure _ _ visible =>
      obtain ⟨store, written⟩ := visible
      refine ⟨congrArg₂ (Reply.mk _) (congrArg List.reverse written) store, ?_⟩
      cases failure with
      | fault fault => exact .some store
      | breakdown broken => exact .none
      | signal signal => exact .none

theorem replies_echo (unobserved : settings.Unobserved) (terse : settings.verbose = false)
    (first : Ready settings one) (second : Ready settings other) (store : one.store = other.store)
    (entries : List Text) : replies settings fuel entries one = replies settings fuel entries other := by
  induction entries generalizing one other with
  | nil => rfl
  | cons source rest ih =>
      have echoes : Option.Rel Echoes (enter settings fuel one source) (enter settings fuel other source) :=
        enter_echo unobserved terse first second store
      rw [replies, replies]
      generalize ran : enter settings fuel one source = found,
        beside : enter settings fuel other source = counter at echoes
      cases echoes with
      | none => rfl
      | @some ending counterpart echoes =>
          obtain ⟨reply, nexts⟩ := echoes_reply echoes
          rw [Option.bind_some, Option.bind_some, reply]
          generalize goes : ending.next? = next, follows : counterpart.next? = successor at nexts
          cases nexts with
          | none => rfl
          | some store =>
              have onward := ih (ready_next unobserved first ran goes)
                (ready_next unobserved second beside follows) store
              dsimp only
              rw [onward]

end

-- After an entry that has failed with a fault, a session answers every further entry as a machine does that
-- has run nothing and has the store that the entry has left.
theorem session_recovers (settings : Settings σ) (machine failed : Machine σ) (source : Text) (fuel : Nat)
    (fault : Fault) (unobserved : settings.Unobserved) (terse : settings.verbose = false)
    (session : Session settings machine)
    (fails : enter settings fuel machine source = some (.error (.fault fault), failed)) :
    ∀ capacity host entries more, replies settings more entries failed.unwind =
      replies settings more entries
        { (fresh (.empty capacity) host).enterProgram settings with store := failed.store } := by
  intro capacity host entries more
  have ready := session_ready unobserved session
  have recovered : Ready settings failed.unwind := ready_next unobserved ready fails rfl
  have anew : Ready settings
      { (fresh (.empty capacity) host).enterProgram settings with store := failed.store } := ⟨[], rfl⟩
  exact replies_echo unobserved terse recovered anew rfl entries

def stumbling : Text :=
  "set X 1\nif 1 is 1 do\nset Y 2\nincr Z\nend\nset X 3".toList

def further : List Text :=
  ["print {X}".toList, "if 1 is 1 do\nprint {Y}\nend".toList, "incr Z".toList, "debug X".toList]

theorem session_recovers_branch :
    let begun := (fresh (.empty 5) ()).enterProgram quiet
    ∃ fault failed, enter quiet 9 begun stumbling = some (.error (.fault fault), failed) ∧
      failed.stack.length = 2 ∧
      ∀ more, replies quiet more further failed.unwind =
        replies quiet more further
          { (fresh (.empty 7) ()).enterProgram quiet with store := failed.store } := by
  intro begun
  have height : (enter quiet 9 begun stumbling).map (·.2.stack.length) = some 2 := by decide +kernel
  have stopped : (enter quiet 9 begun stumbling).map (·.1.isOk) = some false := by decide +kernel
  have goes : ((enter quiet 9 begun stumbling).bind Ending.next?).isSome := by decide +kernel
  cases ran : enter quiet 9 begun stumbling with
  | none =>
      rw [ran] at height
      cases height
  | some ending =>
      obtain ⟨result, failed⟩ := ending
      rw [ran] at height stopped goes
      rcases result with (fault | _ | _) | _
      · refine ⟨fault, failed, rfl, Option.some.inj height, ?_⟩
        exact session_recovers quiet begun failed stumbling 9 fault quiet_unobserved rfl
          (.begun 5 ()) ran 7 () further
      · cases goes
      · cases goes
      · cases stopped

end Machine
end BareBones
