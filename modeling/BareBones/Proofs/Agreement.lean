import BareBones.Proofs.Blocks
import BareBones.Proofs.Launch

set_option autoImplicit false

namespace BareBones

def Settings.Unobserved {σ : Type} (settings : Settings σ) : Prop :=
  ∀ event, settings.handlers.of event = []

namespace Machine

variable {σ α β γ δ : Type}

def world (machine : Machine σ) : World :=
  ⟨machine.store, machine.journal, machine.created, machine.written⟩

def Placed : Failure → Prop
  | .fault fault => fault.location.isSome
  | .signal _ | .breakdown _ => True

def Gentle (place : Failure → Failure) : Prop :=
  ∀ failure, Placed failure → place failure = failure

theorem located_gentle (location : Location) : Gentle (Failure.located location) := by
  intro failure placed
  cases failure with
  | fault fault =>
      rcases fault with ⟨cause, place, step⟩
      cases place with
      | none => cases placed
      | some place => rfl
  | signal signal => rfl
  | breakdown breakdown => rfl

def Silent (act : Act σ Unit) : Prop :=
  ∀ machine : Machine σ, ∃ after : Machine σ,
    act machine = (.ok (), after) ∧ after.world = machine.world ∧ after.stack = machine.stack

def Discreet (settings : Settings σ) : Prop :=
  ∀ notice, Silent (announce settings notice)

theorem unobserved_discreet {settings : Settings σ} (unobserved : settings.Unobserved) :
    Discreet settings := by
  intro notice machine
  refine ⟨machine, ?_, rfl, rfl⟩
  unfold announce Registry.notify
  rw [unobserved]
  rfl

theorem note_silent (settings : Settings σ) (location : Option Location) (message : Text) :
    Silent (note settings location message) := by
  intro machine
  refine ⟨_, rfl, ?_, ?_⟩
  all_goals
    dsimp only
    split <;> rfl

theorem pure_silent : Silent (pure () : Act σ Unit) :=
  fun machine => ⟨machine, rfl, rfl, rfl⟩

-- How an action on a machine and a deed come out alike: both fail, the deed after `place`, and the frame
-- that ran stays on top, or both answer, and `meets` ties the answers and the stack.
inductive Outcomes (place : Failure → Failure) (frame : Frame) (below : List Frame)
    (meets : α → β → List Frame → Prop) :
    Except Failure α × Machine σ → Except Failure β × World → Prop
  | answered {a : α} {b : β} {after : Machine σ} (met : meets a b after.stack) :
      Outcomes place frame below meets (.ok a, after) (.ok b, after.world)
  | failed {failure : Failure} {after : Machine σ} (cursor : Cursor)
      (stands : after.stack = frame.moved cursor :: below) :
      Outcomes place frame below meets (.error failure, after) (.error (place failure), after.world)

def Agrees (place : Failure → Failure) (frame : Frame) (below : List Frame) (cursor : Cursor)
    (act : Act σ α) (deed : Deed β) (meets : α → β → List Frame → Prop) : Prop :=
  ∀ machine : Machine σ, machine.stack = frame.moved cursor :: below →
    Outcomes place frame below meets (act machine) (deed machine.world)

section

variable {place : Failure → Failure} {frame : Frame} {below : List Frame} {cursor held : Cursor}

theorem agrees_bind {act : Act σ α} {deed : Deed β} {next : α → Act σ γ} {after : β → Deed δ}
    {link : α → β → Prop} {meets : γ → δ → List Frame → Prop} (target : β → Cursor)
    (first : Agrees place frame below cursor act deed fun a b stack =>
      stack = frame.moved (target b) :: below ∧ link a b)
    (second : ∀ a b, link a b → Agrees place frame below (target b) (next a) (after b) meets) :
    Agrees place frame below cursor (act >>= next) (deed >>= after) meets := by
  intro machine stands
  have step := first machine stands
  rw [effect_bind, effect_bind]
  generalize act machine = done, deed machine.world = expected at step
  cases step with
  | answered met => exact second _ _ met.2 _ met.1
  | failed moved stack => exact .failed moved stack

def Alike (frame : Frame) (below : List Frame) (cursor : Cursor) (a b : α) (stack : List Frame) :
    Prop :=
  stack = frame.moved cursor :: below ∧ a = b

theorem agrees_alike {act : Act σ α} {deed : Deed α} {next : α → Act σ γ} {after : α → Deed δ}
    {meets : γ → δ → List Frame → Prop}
    (first : Agrees place frame below cursor act deed (Alike frame below cursor))
    (second : ∀ a, Agrees place frame below cursor (next a) (after a) meets) :
    Agrees place frame below cursor (act >>= next) (deed >>= after) meets := by
  apply agrees_bind (fun _ => cursor) first
  rintro a b rfl
  exact second a

theorem agrees_silent {quiet : Act σ Unit} {act : Act σ α} {deed : Deed β}
    {meets : α → β → List Frame → Prop} (silent : Silent quiet)
    (rest : Agrees place frame below cursor act deed meets) :
    Agrees place frame below cursor (quiet >>= fun _ => act) deed meets := by
  intro machine stands
  obtain ⟨after, done, sameWorld, sameStack⟩ := silent machine
  rw [effect_bind, done, ← sameWorld]
  exact rest after (sameStack.trans stands)

theorem agrees_settle (act deed : Except Failure α) (same : deed = act.mapError place) :
    Agrees place frame below cursor (settle act : Act σ α) (Deed.settled deed)
      (Alike frame below cursor) := by
  intro machine stands
  subst same
  cases act with
  | ok a => exact .answered ⟨stands, rfl⟩
  | error failure => exact .failed cursor stands

theorem agrees_assign (name : Text) (value : Value) :
    Agrees place frame below cursor (assign (frame.moved held) name value : Act σ Unit)
      (Deed.assign (frame.activation (below.length + 1)) name value) (Alike frame below cursor) := by
  intro machine stands
  exact .answered ⟨stands, rfl⟩

theorem agrees_write_line (settings : Settings σ) (text : Text) (location : Location) :
    Agrees place frame below cursor (writeLine settings text location)
      (Deed.emit settings location text) (Alike frame below cursor) := by
  intro machine stands
  exact .answered ⟨stands, rfl⟩

theorem agrees_enter_child (label : Text) :
    Agrees place frame below cursor (enterChild (frame.moved held) label : Act σ Path)
      (Deed.enter (frame.activation (below.length + 1)) label)
      (fun path _ stack => stack = frame.moved cursor :: below ∧ path = frame.path ++ [label]) := by
  intro machine stands
  exact .answered ⟨stands, rfl⟩

theorem agrees_define (name : Text) (block : Block) :
    Agrees place frame below cursor
      (modify fun machine => { machine with store := machine.store.define frame.path name block } :
        Act σ Unit)
      (Deed.define (frame.activation (below.length + 1)) name block) (Alike frame below cursor) := by
  intro machine stands
  exact .answered ⟨stands, rfl⟩

theorem failed_in_place {meets : α → β → List Frame → Prop} {failure : Failure}
    {after : Machine σ} (cursor : Cursor) (gentle : Gentle place) (placed : Placed failure)
    (stands : after.stack = frame.moved cursor :: below) :
    Outcomes place frame below meets (.error failure, after) (.error failure, after.world) := by
  have kept : Outcomes place frame below meets (.error failure, after)
      (.error (place failure), after.world) := .failed cursor stands
  rwa [gentle failure placed] at kept

theorem agrees_settle_placed (result : Except Failure α) (gentle : Gentle place)
    (placed : ∀ failure, result = .error failure → Placed failure) :
    Agrees place frame below cursor (settle result : Act σ α) (Deed.settled result)
      (Alike frame below cursor) := by
  intro machine stands
  cases result with
  | ok a => exact .answered ⟨stands, rfl⟩
  | error failure => exact failed_in_place _ gentle (placed failure rfl) stands

theorem breakdown_placed (result : Except Breakdown α) (failure : Failure)
    (broken : Env.orBreakdown result = .error failure) : Placed failure := by
  cases result with
  | ok a => cases broken
  | error breakdown =>
      cases broken
      trivial

theorem agrees_record (settings : Settings σ) (statement : Statement) (gentle : Gentle place) :
    Agrees place frame below cursor (recordStep settings statement)
      (Deed.record settings (frame.activation (below.length + 1)) statement)
      (Alike frame below cursor) := by
  intro machine stands
  rcases machine with ⟨store, stack, journal, created, written, traced, host⟩
  cases stands
  simp only [recordStep, Deed.record, effect_bind, effect_get, List.head?_cons]
  cases settings.verbose with
  | false => exact .answered ⟨rfl, rfl⟩
  | true =>
      simp only [if_true, effect_bind, effect_map, effect_get, settle, Deed.settled]
      dsimp only [Frame.moved, Frame.activation, world]
      cases store.snapshot frame.path with
      | ok snapshot => exact .answered ⟨rfl, rfl⟩
      | error breakdown => exact failed_in_place cursor gentle trivial rfl

theorem agrees_read_variable (location : Location) (name : Text) :
    Agrees (Failure.located location) frame below cursor
      (readVariable (frame.moved held) name : Act σ Value)
      (Deed.readVariable (frame.activation (below.length + 1)) location name)
      (Alike frame below cursor) := by
  intro machine stands
  simp only [readVariable, Deed.readVariable, Deed.evaluate, Env.value, effect_bind, effect_get,
    Deed.settled, Frame.moved]
  dsimp only [Frame.activation, Activation.env, world]
  cases machine.store.read frame.path name with
  | ok value => exact .answered ⟨stands, rfl⟩
  | error fault => exact .failed cursor stands

theorem located_placed (location : Location) (failure : Failure) :
    Placed (failure.located location) := by
  cases failure with
  | fault fault =>
      rcases fault with ⟨cause, place, step⟩
      cases place <;> rfl
  | signal signal => trivial
  | breakdown breakdown => trivial

theorem agrees_test (settings : Settings σ) (predicate : Text) (location : Location)
    (gentle : Gentle place) :
    Agrees place frame below cursor (test settings (frame.moved held) predicate location)
      (Deed.holds (frame.activation (below.length + 1)) predicate location)
      (Alike frame below cursor) := by
  intro machine stands
  simp only [test, Deed.holds, Deed.evaluate, effect_bind, effect_get, locating, settle, Deed.settled]
  dsimp only [Frame.activation, Activation.env, world, env, Frame.moved]
  cases tested : Env.test ⟨machine.store, frame.path, frame.arguments⟩ predicate with
  | ok holds =>
      obtain ⟨after, done, sameWorld, sameStack⟩ :=
        note_silent settings (some location) ("Testing predicate ".toList ++ predicate.cited ++
          " -> ".toList ++ if holds then "true".toList else "false".toList) machine
      simp only [done]
      change Outcomes _ _ _ _ (.ok holds, after) (.ok holds, machine.world)
      rw [← sameWorld]
      exact .answered ⟨sameStack.trans stands, rfl⟩
  | error failure =>
      exact failed_in_place _ gentle (located_placed location failure) stands

theorem block_read_placed {keyword : Text} {header : Location} {elseEnds : Bool} {cursor : Cursor} {fault : Fault}
    (failed : Block.read keyword header elseEnds cursor = .error fault) : Placed (.fault fault) := by
  rw [(Block.read_fails failed).2]
  rfl

theorem set_cursor_world (cursor : Cursor) (machine : Machine σ) :
    (machine.setCursor cursor).world = machine.world := by
  unfold setCursor
  split <;> rfl

theorem set_cursor_stack (moved : Cursor) (machine : Machine σ)
    (stands : machine.stack = frame.moved cursor :: below) :
    (machine.setCursor moved).stack = frame.moved moved :: below := by
  unfold setCursor
  rw [stands]
  rfl

theorem agrees_read_block (kind : BlockKind) (header : Location) (lines : Cursor)
    (gentle : Gentle place) :
    Agrees place frame below cursor (readBlock kind header lines : Act σ Block)
      (Deed.carve kind header lines)
      (fun block carved stack => stack = frame.moved carved.2 :: below ∧ block = carved.1) := by
  intro machine stands
  unfold readBlock
  simp only [Deed.carve, Deed.settled]
  cases reading : Block.read kind.keyword header false lines with
  | ok carved =>
      rw [Block.take_read reading]
      simp only [effect_bind, effect_modify]
      rw [← set_cursor_world carved.2 machine]
      exact .answered ⟨set_cursor_stack carved.2 machine stands, rfl⟩
  | error fault =>
      rw [Block.take_unread reading]
      simp only [effect_bind, effect_modify]
      rw [← set_cursor_world [] machine]
      exact failed_in_place _ gentle (block_read_placed reading)
        (set_cursor_stack [] machine stands)

theorem choose_branch_unread (settings : Settings σ) (here : Frame) (predicate : Option Text)
    {header : Location} {cursor rest : Cursor} {fault : Fault}
    (taking : Block.take BlockKind.branch.keyword header true cursor = (.error fault, rest)) :
    chooseBranch settings here predicate header cursor = (do
      modify (setCursor rest)
      throw (.fault fault)) := by
  unfold chooseBranch
  split <;> simp_all

theorem allow_placed (limit : DepthLimit) (living : Nat) (location : Location) (failure : Failure)
    (refused : limit.allow living location = .error failure) : Placed failure := by
  cases limit with
  | atMost count =>
      rw [(DepthLimit.allow_refused refused).2]
      cases DepthLimit.refusal_cases count location with
      | inl written =>
          rw [written]
          rfl
      | inr long =>
          rw [long]
          trivial
  | blank =>
      cases refused
      trivial

theorem agrees_spawn (settings : Settings σ) (body : List Line) (label : Text)
    (arguments : List Text) (location : Location) (resume : Resume) (gentle : Gentle place) :
    Agrees place frame below cursor
      (spawn settings body label (frame.path ++ [label]) arguments location resume)
      (Deed.spawn settings (frame.activation (below.length + 1)) location)
      (fun _ id stack =>
        stack = (((frame.activation (below.length + 1)).inner id label arguments).frame label location
          body resume) :: frame.moved cursor :: below) := by
  intro machine stands
  simp only [spawn, Deed.spawn, effect_bind, effect_get, settle, Deed.settled]
  rw [stands]
  dsimp only [Frame.activation, List.length_cons]
  cases allowed : settings.maxDepth.allow (below.length + 1) location with
  | ok =>
      obtain ⟨after, done, sameWorld, sameStack⟩ :=
        note_silent settings (some location) ("Spawning invocation ".toList ++
          Text.cited (Path.describe (frame.path ++ [label])) ++ " with arguments ".toList ++
          Text.quotedList arguments) machine
      simp only [done, effect_modify]
      rw [← sameWorld]
      refine .answered ?_
      simp only [push, sameStack, stands]
      rfl
  | error failure => exact failed_in_place _ gentle (allow_placed _ _ _ _ allowed) stands

end

end Machine
end BareBones
