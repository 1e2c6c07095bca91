import BareBones.Proofs.Agreement

set_option autoImplicit false

namespace BareBones.Machine

variable {σ α β : Type}

section

variable {place : Failure → Failure} {frame : Frame} {below : List Frame} {cursor held : Cursor}

theorem agrees_move (moved : Cursor) {act : Act σ α} {deed : Deed β}
    {meets : α → β → List Frame → Prop}
    (rest : Agrees place frame below moved act deed meets) :
    Agrees place frame below cursor (modify (setCursor moved) >>= fun _ => act) deed meets := by
  intro machine stands
  rw [effect_bind, effect_modify, ← set_cursor_world moved machine]
  exact rest (machine.setCursor moved) (set_cursor_stack moved machine stands)

theorem agrees_throw {meets : α → β → List Frame → Prop} (failure : Failure) (gentle : Gentle place)
    (placed : Placed failure) :
    Agrees place frame below cursor (throw failure : Act σ α) (Deed.settled (.error failure)) meets :=
  fun _ stands => failed_in_place _ gentle placed stands

theorem agrees_throw_bind {γ δ : Type} {next : α → Act σ γ} {after : β → Deed δ}
    {meets : γ → δ → List Frame → Prop} (failure : Failure) (gentle : Gentle place)
    (placed : Placed failure) :
    Agrees place frame below cursor (throw failure >>= next)
      (Deed.settled (.error failure) >>= after) meets :=
  fun _ stands => failed_in_place _ gentle placed stands

theorem agrees_pure {meets : α → β → List Frame → Prop} (a : α) (b : β)
    (met : meets a b (frame.moved cursor :: below)) :
    Agrees place frame below cursor (pure a : Act σ α) (pure b) meets := by
  intro machine stands
  refine .answered ?_
  rwa [stands]

theorem read_else_placed (line : Line) (fault : Fault)
    (failed : Boundary.readElse line = .error fault) : Placed (.fault fault) := by
  unfold Boundary.readElse at failed
  split at failed
  · cases failed
  · cases failed
    rfl

def admits (settings : Settings σ) (frame : Frame) (location : Location) :
    Option Text → Act σ Bool
  | some predicate => test settings frame predicate location
  | none => pure true

theorem choose_branch_read (settings : Settings σ) (here : Frame) (predicate : Option Text)
    (location : Location) (lines rest : Cursor) (block : Block)
    (reading : Block.read BlockKind.branch.keyword location true lines = .ok (block, rest)) :
    chooseBranch settings here predicate location lines = (do
      modify (setCursor rest)
      let taken ← admits settings here location predicate
      if taken then return some (block, location)
      else if !block.endsAtElse then return none
      else
        match Cursor.next? rest with
        | none => throw (.signal .noLines)
        | some (line, after) => do
            modify (setCursor after)
            match Boundary.readElse line with
            | .error fault => throw (.fault fault)
            | .ok next => chooseBranch settings here next line.location after) := by
  rw [chooseBranch.eq_def]
  have taking := Block.take_read reading
  split
  · rename_i again
    cases taking.symm.trans again
  · rename_i again
    cases taking.symm.trans again
    cases predicate with
    | none => rfl
    | some text =>
        dsimp only [admits]
        congr 1
        funext _
        congr 1
        funext taken
        split
        · rfl
        · split
          · rfl
          · cases Cursor.next? rest <;> rfl

theorem agrees_admits (settings : Settings σ) (predicate : Option Text) (location : Location)
    (gentle : Gentle place) :
    Agrees place frame below cursor (admits settings (frame.moved held) location predicate)
      (Deed.admits (frame.activation (below.length + 1)) location predicate)
      (Alike frame below cursor) := by
  cases predicate with
  | some text => exact agrees_test settings text location gentle
  | none => exact agrees_pure _ _ ⟨rfl, rfl⟩

theorem agrees_choose (settings : Settings σ) (predicate : Option Text) (location : Location)
    (cursor lines : Cursor) (gentle : Gentle place) :
    Agrees place frame below cursor
      (chooseBranch settings (frame.moved held) predicate location lines)
      (Deed.choose (frame.activation (below.length + 1)) predicate location lines)
      (fun chosen answered stack =>
        stack = frame.moved answered.2 :: below ∧ chosen = answered.1) := by
  cases reading : Block.read BlockKind.branch.keyword location true lines with
  | error fault =>
      rw [Deed.choose_unread _ _ _ _ _ reading, choose_branch_unread _ _ _ (Block.take_unread reading)]
      exact agrees_move [] (agrees_throw _ gentle (block_read_placed reading))
  | ok carved =>
      obtain ⟨block, rest⟩ := carved
      rw [Deed.choose_read _ _ _ _ _ _ reading, choose_branch_read _ _ _ _ _ _ _ reading]
      refine agrees_move rest (agrees_alike (agrees_admits settings predicate location gentle) ?_)
      intro taken
      by_cases accepted : taken = true
      · rw [if_pos accepted, if_pos accepted]
        exact agrees_pure _ _ ⟨rfl, rfl⟩
      · rw [if_neg accepted, if_neg accepted]
        by_cases last : (!block.endsAtElse) = true
        · rw [if_pos last, if_pos last]
          exact agrees_pure _ _ ⟨rfl, rfl⟩
        · rw [if_neg last, if_neg last]
          cases taking : Cursor.next? rest with
          | none => exact agrees_throw _ gentle trivial
          | some next =>
              obtain ⟨line, after⟩ := next
              apply agrees_move after
              dsimp only
              cases clause : Boundary.readElse line with
              | error fault => exact agrees_throw _ gentle (read_else_placed line fault clause)
              | ok next => exact agrees_choose settings next line.location after after gentle
termination_by lines.length
decreasing_by
  have kept := Block.read_rest_length reading
  have shorter := Cursor.next_shorter _ _ _ taking
  omega

theorem agrees_more {γ : Type} {act : Act σ α} {deed : Deed β} {next : α → Act σ γ}
    {link : α → β → List Frame → Prop} {meets : γ → β → List Frame → Prop}
    (first : Agrees place frame below cursor act deed link)
    (further : ∀ a b (after : Machine σ), link a b after.stack → ∃ c last,
      next a after = (.ok c, last) ∧ last.world = after.world ∧ meets c b last.stack) :
    Agrees place frame below cursor (act >>= next) deed meets := by
  intro machine stands
  have step := first machine stands
  rw [effect_bind]
  generalize act machine = done, deed machine.world = expected at step
  cases step with
  | @answered a b after link =>
      obtain ⟨c, last, done, sameWorld, met⟩ := further a b after link
      dsimp only
      rw [done, ← sameWorld]
      exact .answered met
  | failed moved stack => exact .failed moved stack

-- What a deed answers is what goes on: the frame that ran stays at a cursor, below a spawned one if there
-- is one. What the action answers does not matter.
def Carries (place : Failure → Failure) (frame : Frame) (below : List Frame) (cursor : Cursor)
    (act : Act σ α) (deed : Deed (Cursor × Option Frame)) : Prop :=
  Agrees place frame below cursor act deed fun _ next stack =>
    stack = next.2.toList ++ frame.moved next.1 :: below

theorem carries_return {act : Act σ α} {deed : Deed (Cursor × Option Frame)} (answer : α → β)
    (first : Carries place frame below cursor act deed) :
    Carries place frame below cursor (act >>= fun a => pure (answer a)) deed :=
  agrees_more first fun a _ after met => ⟨answer a, after, rfl, rfl, met⟩

theorem carries_silent {act : Act σ α} {deed : Deed (Cursor × Option Frame)} {quiet : α → Act σ Unit}
    (first : Carries place frame below cursor act deed) (silent : ∀ a, Silent (quiet a)) :
    Carries place frame below cursor (act >>= quiet) deed := by
  apply agrees_more first
  intro a next after met
  obtain ⟨last, done, sameWorld, sameStack⟩ := silent a after
  rw [← sameStack] at met
  exact ⟨(), last, done, sameWorld, met⟩

theorem carries_pure (answer : α) :
    Carries place frame below cursor (pure answer : Act σ α) (pure (cursor, none)) :=
  agrees_pure _ _ rfl

theorem carries_spawn (settings : Settings σ) (body : List Line) (label : Text)
    (arguments : List Text) (location : Location) (resume : Resume) (gentle : Gentle place) :
    Carries place frame below cursor
      (spawn settings body label (frame.path ++ [label]) arguments location resume)
      (do
        let here := frame.activation (below.length + 1)
        let id ← Deed.spawn settings here location
        return (cursor, some ((here.inner id label arguments).frame label location body resume))) := by
  intro machine stands
  have step := agrees_spawn settings body label arguments location resume gentle machine stands
  rw [effect_bind]
  generalize spawn settings body label _ arguments location resume machine = done,
    Deed.spawn settings _ location machine.world = expected at step
  cases step with
  | answered spawns => exact .answered spawns
  | failed moved stack => exact .failed moved stack

theorem carries_round (settings : Settings σ) (statement : Statement) (predicate : Text)
    (block : Block) (discreet : Discreet settings) (gentle : Gentle place) :
    Carries place frame below cursor
      (loopRound settings (frame.moved held) statement predicate block)
      (do
        let next ← Deed.round settings (frame.activation (below.length + 1)) statement predicate block
        return (cursor, next)) := by
  unfold loopRound Deed.round
  rw [bind_assoc]
  apply agrees_alike (agrees_test settings predicate statement.location gentle)
  intro holds
  cases holds with
  | true =>
      simp only [if_true, bind_assoc, pure_bind]
      exact carries_spawn settings _ _ _ _ _ gentle
  | false =>
      simp only [Bool.false_eq_true, if_false, pure_bind]
      exact carries_silent (carries_pure ()) fun _ => discreet _

theorem agrees_count (location : Location) (direction : Direction) (name : Text) :
    Agrees (Failure.located location) frame below cursor
      (count (frame.moved held) location direction name : Act σ Unit)
      (Deed.count (frame.activation (below.length + 1)) location direction name)
      (Alike frame below cursor) := by
  unfold count Deed.count
  have gentle := located_gentle location
  apply agrees_alike (agrees_read_variable location name)
  intro previous
  apply agrees_alike (agrees_settle_placed _ gentle (breakdown_placed _))
  intro number
  cases number with
  | some n => exact agrees_assign name _
  | none =>
      apply agrees_alike (agrees_settle_placed _ gentle (breakdown_placed _))
      intro written
      exact agrees_throw _ gentle rfl

theorem agrees_expand {next : Text → Act σ α} {after : Text → Deed β}
    {meets : α → β → List Frame → Prop} (location : Location) (format : Text)
    (second : ∀ text, Agrees (Failure.located location) frame below cursor (next text) (after text)
      meets) :
    Agrees (Failure.located location) frame below cursor
      (do next (← settle (((← get).env (frame.moved held)).expand format)))
      (do after (← Deed.evaluate (frame.activation (below.length + 1)) location (·.expand format)))
      meets := by
  rw [← bind_assoc]
  refine agrees_alike ?_ second
  intro machine stands
  simp only [Deed.evaluate, effect_bind, effect_get]
  exact agrees_settle _ _ rfl machine stands

theorem agrees_enter {next : Path → Act σ α} {after : Unit → Deed β}
    {meets : α → β → List Frame → Prop} (label : Text)
    (second : Agrees place frame below cursor (next (frame.path ++ [label])) (after ()) meets) :
    Agrees place frame below cursor (enterChild (frame.moved held) label >>= next)
      (Deed.enter (frame.activation (below.length + 1)) label >>= after) meets := by
  apply agrees_bind (fun _ => cursor) (agrees_enter_child label)
  rintro path ⟨⟩ rfl
  exact second

theorem carries_call (settings : Settings σ) (statement : Statement) (name : Text)
    (arguments : List Text) (discreet : Discreet settings) (gentle : Gentle place) :
    Carries place frame below cursor
      (call settings (frame.moved held) statement name arguments)
      (do
        let here := frame.activation (below.length + 1)
        let block ← Deed.find here statement.location name
        Deed.enter here name
        let id ← Deed.spawn settings here statement.location
        return (cursor, some ((here.inner id name arguments).frame name statement.location block.body
          (.call statement name arguments)))) := by
  intro machine stands
  simp only [call, Deed.find, bind_assoc]
  rw [effect_bind, effect_bind, effect_get, effect_get]
  dsimp only
  cases found : machine.store.function? frame.path name with
  | none =>
      have unknown : machine.store.function? (frame.moved held).path name = none := found
      have missing : machine.world.store.function? (frame.activation (below.length + 1)).path name =
        none := found
      rw [unknown, missing]
      exact failed_in_place _ gentle rfl stands
  | some block =>
      have known : machine.store.function? (frame.moved held).path name = some block := found
      have present : machine.world.store.function? (frame.activation (below.length + 1)).path name =
        some block := found
      rw [known, present]
      simp only [pure_bind]
      refine agrees_silent (discreet _) ?_ machine stands
      apply agrees_enter name
      exact carries_spawn settings _ _ _ _ _ gentle

theorem carries_execute (settings : Settings σ) (statement : Statement)
    (discreet : Discreet settings) :
    Carries (Failure.located statement.location) frame below cursor
      (execute settings (frame.moved cursor) statement)
      (Deed.start settings (frame.activation (below.length + 1)) statement cursor) := by
  have gentle := located_gentle statement.location
  rcases statement with ⟨location, command⟩
  unfold execute Deed.start Deed.perform
  apply agrees_alike (agrees_record settings _ gentle)
  intro _
  cases command with
  | clear name =>
      exact agrees_alike (agrees_assign name _) fun _ => carries_pure false
  | count direction name =>
      exact agrees_alike (agrees_count location direction name) fun _ => carries_pure false
  | debug name =>
      simp only [Deed.atOnce, bind_assoc]
      refine agrees_alike (agrees_read_variable location name) fun value => ?_
      refine agrees_alike (agrees_settle_placed _ gentle (breakdown_placed _)) fun text => ?_
      exact agrees_alike (agrees_write_line settings _ location) fun _ => carries_pure false
  | print format =>
      simp only [Deed.atOnce, bind_assoc]
      refine agrees_expand location format fun text => ?_
      exact agrees_alike (agrees_write_line settings _ location) fun _ => carries_pure false
  | assign name format =>
      simp only [Deed.atOnce, bind_assoc]
      refine agrees_expand location format fun text => ?_
      refine agrees_silent (note_silent settings _ _) ?_
      exact agrees_alike (agrees_assign name _) fun _ => carries_pure false
  | loop predicate =>
      apply agrees_bind Prod.snd (agrees_read_block .loop location cursor gentle)
      rintro block ⟨_, rest⟩ rfl
      apply agrees_enter _
      exact carries_return (fun _ => true) (carries_round settings _ predicate block discreet gentle)
  | branch predicate =>
      refine agrees_bind Prod.snd
        (agrees_choose settings (some predicate) location cursor cursor gentle) ?_
      rintro chosen ⟨_, rest⟩ rfl
      cases chosen with
      | none => exact carries_pure false
      | some taken =>
          obtain ⟨block, clause⟩ := taken
          apply agrees_enter _
          exact carries_return (fun _ => true) (carries_spawn settings _ _ _ _ _ gentle)
  | define name =>
      apply agrees_bind Prod.snd (agrees_read_block .function location cursor gentle)
      rintro block ⟨_, rest⟩ rfl
      refine agrees_alike (agrees_define name block) fun _ => ?_
      exact agrees_silent (note_silent settings _ _) (carries_pure false)
  | call name arguments =>
      exact carries_return (fun _ => true) (carries_call settings _ name arguments discreet gentle)
  | unsupported => exact agrees_throw _ gentle rfl

theorem agrees_locating {act : Act σ α} {deed : Deed β} {meets : α → β → List Frame → Prop}
    (location : Location)
    (inner : Agrees (Failure.located location) frame below cursor act deed meets) :
    Agrees id frame below cursor (locating location act) deed meets := by
  intro machine stands
  have step := inner machine stands
  unfold locating
  generalize act machine = done, deed machine.world = expected at step
  cases step with
  | answered met => exact .answered met
  | @failed failure after moved stack =>
      exact .failed moved stack

theorem carries_resume (settings : Settings σ) (pending : Resume) (discreet : Discreet settings) :
    Carries id frame below cursor (resume settings (frame.moved cursor) pending)
      (Deed.complete settings (frame.activation (below.length + 1)) cursor (some pending)) := by
  have gentle : Gentle id := fun _ _ => rfl
  cases pending with
  | loop statement predicate block =>
      exact carries_round settings statement predicate block discreet gentle
  | call statement name arguments =>
      apply agrees_silent (discreet _)
      exact carries_silent (carries_pure ()) fun _ => discreet _
  | branch statement terminator =>
      dsimp only [resume, Deed.complete, Deed.skip, Cursor.advance, Frame.moved]
      by_cases another : Boundary.isElse terminator.text = true
      · simp only [another, if_true]
        cases Cursor.next? cursor with
        | none => exact agrees_throw_bind _ gentle trivial
        | some next =>
            dsimp only
            rw [bind_assoc]
            apply agrees_bind Prod.snd (agrees_read_block .branch _ next.2 gentle)
            rintro block ⟨_, rest⟩ rfl
            exact carries_silent (carries_pure ()) fun _ => discreet _
      · rw [if_neg another, if_neg another]
        exact carries_silent (carries_pure ()) fun _ => discreet _

theorem read_location (line : Line) (statement : Statement)
    (reading : Statement.read line = .ok statement) : statement.location = line.location := by
  unfold Statement.read at reading
  cases command : Statement.readCommand line with
  | error failure =>
      rw [command] at reading
      cases reading
  | ok command =>
      rw [command] at reading
      cases reading
      rfl

theorem carries_dispatch (settings : Settings σ) (line : Line) (discreet : Discreet settings) :
    Carries id frame below cursor (dispatch settings (frame.moved cursor) line)
      (Deed.launch settings (frame.activation (below.length + 1)) line cursor) := by
  unfold dispatch Deed.launch
  apply agrees_silent (note_silent settings _ _)
  refine carries_silent (agrees_locating line.location ?_) ?_
  · unfold Deed.read
    cases reading : Statement.read line with
    | error failure => exact fun _ stands => .failed cursor stands
    | ok statement =>
        apply agrees_silent (discreet _)
        rw [← read_location line statement reading]
        exact carries_return (fun deferred => (statement, deferred))
          (carries_execute settings statement discreet)
  · rintro ⟨statement, deferred⟩
    cases deferred with
    | true => exact pure_silent
    | false => exact discreet _

end

def Going (frame : Frame) (below : List Frame) (going : Bool) (next : Cursor × Option Frame)
    (stack : List Frame) : Prop :=
  going = true ∧ stack = next.2.toList ++ frame.moved next.1 :: below

theorem going_true {frame : Frame} {below : List Frame} {cursor : Cursor} {act : Act σ Unit}
    {deed : Deed (Cursor × Option Frame)} (carried : Carries id frame below cursor act deed) :
    Agrees id frame below cursor (act >>= fun _ => pure true) deed (Going frame below) :=
  agrees_more carried fun _ _ after met => ⟨true, after, rfl, rfl, rfl, met⟩

theorem step_line (settings : Settings σ) (machine : Machine σ) (frame : Frame)
    (below : List Frame) (line : Line) (rest : Cursor) (discreet : Discreet settings)
    (stands : machine.stack = frame :: below) (taking : Cursor.next? frame.cursor = some (line, rest)) :
    Outcomes id frame below (Going frame below) (step settings machine)
      (Deed.launch settings (frame.activation (below.length + 1)) line rest machine.world) := by
  unfold step
  rw [effect_bind, effect_get]
  simp only [stands, taking]
  have carried : Carries id frame below rest (dispatch settings (frame.moved rest) line)
      (Deed.launch settings (frame.activation (below.length + 1)) line rest) :=
    carries_dispatch settings line discreet
  exact agrees_move rest (going_true carried) machine stands

theorem step_return (settings : Settings σ) (machine : Machine σ) (frame caller : Frame)
    (below : List Frame) (discreet : Discreet settings)
    (stands : machine.stack = frame :: caller :: below) (spent : Cursor.next? frame.cursor = none) :
    Outcomes id caller below (Going caller below) (step settings machine)
      ((do
        Deed.leave frame.id
        Deed.complete settings (caller.activation (below.length + 1)) caller.cursor frame.resume :
          Deed (Cursor × Option Frame)) machine.world) := by
  unfold step
  rw [effect_bind, effect_get]
  simp only [stands, spent]
  let left : Machine σ := { machine.pop with journal := machine.journal.forget frame.id }
  have popped : left.stack = caller.moved caller.cursor :: below := congrArg List.tail stands
  unfold returnFrom
  cases frame.resume with
  | none => exact going_true (carries_pure ()) left popped
  | some pending =>
      have carried : Carries id caller below caller.cursor (resume settings caller pending)
          (Deed.complete settings (caller.activation (below.length + 1)) caller.cursor (some pending)) :=
        carries_resume settings pending discreet
      exact going_true carried left popped

theorem step_empty (settings : Settings σ) (machine : Machine σ) (stands : machine.stack = []) :
    step settings machine = (.ok false, machine) := by
  unfold step
  rw [effect_bind, effect_get]
  simp only [stands]
  rfl

theorem step_over (settings : Settings σ) (machine : Machine σ) (frame : Frame)
    (stands : machine.stack = [frame]) (spent : Cursor.next? frame.cursor = none) :
    step settings machine = (.ok false, machine) := by
  unfold step
  rw [effect_bind, effect_get]
  simp only [stands, spent]
  rfl

end BareBones.Machine
