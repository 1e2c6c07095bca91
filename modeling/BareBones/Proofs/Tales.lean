import BareBones.Proofs.Brackets
import BareBones.Proofs.Keeping

set_option autoImplicit false

namespace BareBones

open Telling

structure Tale where
  told : List Notice
  created : Nat
  steps : Nat
  stack : List (Nat × Option Resume)

namespace Tale

def tell (notices : List Notice) (tale : Tale) : Tale :=
  { tale with told := tale.told ++ notices }

@[simp]
theorem tell_nil (tale : Tale) : tale.tell [] = tale :=
  congrArg (fun told => { tale with told }) (List.append_nil tale.told)

@[simp]
theorem tell_tell (first later : List Notice) (tale : Tale) :
    (tale.tell first).tell later = tale.tell (first ++ later) :=
  congrArg (fun told => { tale with told }) (List.append_assoc tale.told first later)

def begin (statement : Statement) (frame : Nat) (tale : Tale) : Tale :=
  { tale.tell [.beforeStatement statement frame] with steps := tale.steps + 1 }

def spawn (pending : Resume) (tale : Tale) : Tale :=
  { tale with
    created := tale.created + 1
    stack := (tale.created, some pending) :: tale.stack }

def pop (tale : Tale) : Tale :=
  { tale with stack := tale.stack.tail }

def Sound (program : Path) (tale : Tale) : Prop :=
  ∃ told, tale.told = .programStart program :: told ∧ Story tale.stack told tale.created ∧
    statements told = tale.steps

def Over (program : Path) (tale : Tale) : Prop :=
  ∃ told, tale.told = .programStart program :: told ∧ Body 0 1 told tale.created ∧
    statements told = tale.steps

end Tale

def Unfinished (program : Path) (told : List Notice) : Prop :=
  ∃ front rest last, told = .programStart program :: front ∧ Body 0 1 (front ++ rest) last

section

variable {program : Path} {tale : Tale} {frame : Nat} {resumed : Option Resume}
  {below : List (Nat × Option Resume)} {statement : Statement} {pending : Resume}

theorem sound_unfinished (sound : tale.Sound program) : Unfinished program tale.told := by
  obtain ⟨told, start, story, _⟩ := sound
  obtain ⟨rest, last, body⟩ := story_whole story
  exact ⟨told, rest, last, start, body⟩

theorem sound_prefix {inside told : List Notice} {next : Nat} (sound : tale.Sound program)
    (top : tale.stack = (frame, resumed) :: below)
    (within : Inside statement frame tale.created inside next)
    (begins : told <+: pair statement frame inside) : Unfinished program (tale.told ++ told) := by
  obtain ⟨earlier, start, story, _⟩ := sound
  rw [top] at story
  obtain ⟨rest, last, body⟩ := story_begun story within begins
  refine ⟨earlier ++ told, rest, last, ?_, body⟩
  rw [start]
  rfl

theorem sound_begun (statement : Statement) (sound : tale.Sound program)
    (top : tale.stack = (frame, resumed) :: below) :
    Unfinished program (tale.told ++ [.beforeStatement statement frame]) := by
  obtain ⟨inside, next, within⟩ := inside_some statement frame tale.created
  exact sound_prefix sound top within ⟨_, rfl⟩

theorem sound_end (sound : tale.Sound program) (top : tale.stack = (frame, resumed) :: below)
    (within : Inside statement frame tale.created [] tale.created) :
    ((tale.begin statement frame).tell [.afterStatement statement frame]).Sound program := by
  obtain ⟨told, start, story, counted⟩ := sound
  rw [top] at story
  have whole := story_statement story within
  refine ⟨told ++ pair statement frame [], ?_, ?_, ?_⟩
  · simp [Tale.tell, Tale.begin, start, pair]
  · simpa [Tale.tell, Tale.begin, top] using whole
  · simp [Tale.tell, Tale.begin, pair, counted, Notice.begins]

theorem sound_spawn {begun : List Notice} (sound : tale.Sound program)
    (top : tale.stack = (frame, resumed) :: below)
    (underway : Underway frame pending tale.created begun tale.created)
    (first : statements begun = 0) :
    (((tale.begin pending.statement frame).tell begun).spawn pending).Sound program := by
  obtain ⟨told, start, story, counted⟩ := sound
  rw [top] at story
  have spawned := story_spawn story underway
  refine ⟨told ++ .beforeStatement pending.statement frame :: begun, ?_, ?_, ?_⟩
  · simp [Tale.tell, Tale.begin, Tale.spawn, start]
  · simpa [Tale.tell, Tale.begin, Tale.spawn, top] using spawned
  · simp [Tale.tell, Tale.begin, Tale.spawn, counted, first, Notice.begins]

theorem sound_return {id : Nat} (sound : tale.Sound program)
    (top : tale.stack = (id, some pending) :: (frame, resumed) :: below) :
    (tale.pop.tell (closing frame pending)).Sound program := by
  obtain ⟨told, start, story, counted⟩ := sound
  rw [top] at story
  refine ⟨told ++ closing frame pending, ?_, ?_, ?_⟩
  · simp [Tale.tell, Tale.pop, start]
  · simpa [Tale.tell, Tale.pop, top] using story_return story
  · simp [Tale.tell, Tale.pop, counted, statements_closing]

theorem sound_again {id : Nat} {predicate : Text} {block : Block} (sound : tale.Sound program)
    (top : tale.stack = (id, some (.loop statement predicate block)) :: below) :
    (tale.pop.spawn (.loop statement predicate block)).Sound program := by
  obtain ⟨told, start, story, counted⟩ := sound
  rw [top] at story
  refine ⟨told, start, ?_, counted⟩
  simpa [Tale.pop, Tale.spawn, top] using story_again story

theorem sound_alive (sound : tale.Sound program) : tale.stack ≠ [] := by
  rintro empty
  obtain ⟨told, _, story, _⟩ := sound
  rw [empty] at story
  cases story

theorem sound_over {id : Nat} (sound : tale.Sound program) (top : tale.stack = [(id, resumed)]) :
    tale.Over program := by
  obtain ⟨told, start, story, counted⟩ := sound
  rw [top] at story
  cases story with
  | program body => exact ⟨told, start, body, counted⟩

theorem sound_pending {id : Nat} {waiting : Option Resume} (sound : tale.Sound program)
    (top : tale.stack = (id, waiting) :: (frame, resumed) :: below) :
    ∃ pending, waiting = some pending := by
  obtain ⟨told, _, story, _⟩ := sound
  rw [top] at story
  cases story with
  | body => exact ⟨_, rfl⟩

end

namespace Machine

variable {σ α β : Type} {hears : σ → List Notice}

def tale (hears : σ → List Notice) (machine : Machine σ) : Tale where
  told := hears machine.host
  created := machine.created
  steps := machine.journal.steps
  stack := machine.stack.map fun frame => (frame.id, frame.resume)

def Tells (hears : σ → List Notice) (act : Act σ α) (start : Tale) (answered : α → Tale → Prop)
    (failed : List Notice → Prop) : Prop :=
  ∀ machine, machine.tale hears = start →
    match act machine with
    | (.ok a, after) => answered a (after.tale hears)
    | (.error _, after) => failed (after.tale hears).told

def Hushed (hears : σ → List Notice) (act : Act σ α) : Prop :=
  ∀ machine, (act machine).2.tale hears = machine.tale hears

def Recording (hears : σ → List Notice) (settings : Settings σ) : Prop :=
  ∀ notice machine, ∃ after, announce settings notice machine = (.ok (), after) ∧
    after.tale hears = (machine.tale hears).tell [notice]

section

variable {start : Tale} {answered : α → Tale → Prop} {failed : List Notice → Prop}

theorem tells_bind {act : Act σ β} {next : β → Act σ α}
    {middle : β → Tale → Prop} (first : Tells hears act start middle failed)
    (second : ∀ b tale, middle b tale → Tells hears (next b) tale answered failed) :
    Tells hears (act >>= next) start answered failed := by
  intro machine same
  have step := first machine same
  rw [effect_bind]
  generalize act machine = done at step ⊢
  rcases done with ⟨failure | b, after⟩
  · exact step
  · exact second b (after.tale hears) step after rfl

theorem tells_hushed {act : Act σ β} {next : β → Act σ α}
    (hushed : Hushed hears act) (fails : failed start.told)
    (rest : ∀ b, Tells hears (next b) start answered failed) :
    Tells hears (act >>= next) start answered failed := by
  have first : Tells hears act start (fun _ tale => tale = start) failed := by
    rintro machine rfl
    have same := hushed machine
    generalize act machine = done at same ⊢
    rcases done with ⟨failure | b, after⟩
    · exact same ▸ fails
    · exact same
  refine tells_bind first ?_
  rintro b _ rfl
  exact rest b

theorem tells_pure (a : α) (met : answered a start) :
    Tells hears (pure a : Act σ α) start answered failed := by
  rintro machine rfl
  exact met

theorem tells_throw (failure : Failure) (fails : failed start.told) :
    Tells hears (throw failure : Act σ α) start answered failed := by
  rintro machine rfl
  exact fails

theorem tells_announce {settings : Settings σ} {answered : Unit → Tale → Prop}
    (recording : Recording hears settings) (notice : Notice) (met : answered () (start.tell [notice])) :
    Tells hears (announce settings notice) start answered failed := by
  rintro machine rfl
  obtain ⟨after, told, same⟩ := recording notice machine
  rw [told]
  change answered () (after.tale hears)
  rwa [same]

theorem tells_announce_bind {settings : Settings σ}
    {next : Unit → Act σ α} (recording : Recording hears settings) (notice : Notice)
    (rest : Tells hears (next ()) (start.tell [notice]) answered failed) :
    Tells hears (announce settings notice >>= next) start answered failed := by
  have told : Tells hears (announce settings notice) start
      (fun _ tale => tale = start.tell [notice]) failed :=
    tells_announce recording notice rfl
  refine tells_bind told ?_
  rintro _ _ rfl
  exact rest

theorem tells_locating {act : Act σ α} (location : Location)
    (tells : Tells hears act start answered failed) :
    Tells hears (locating location act) start answered failed := by
  intro machine same
  have step := tells machine same
  unfold locating
  generalize act machine = done at step ⊢
  rcases done with ⟨failure | a, after⟩
  · exact step
  · exact step

end

theorem set_cursor_tale (cursor : Cursor) (machine : Machine σ) :
    (machine.setCursor cursor).tale hears = machine.tale hears := by
  unfold setCursor
  split
  · rfl
  · rename_i stands
    simp [tale, stands]

theorem tale_oblivious : Oblivious (tale hears : Machine σ → Tale) where
  moved := set_cursor_tale
  traced _ _ := rfl
  stored _ _ := rfl

end Machine
end BareBones
