import BareBones.Machine.State
import BareBones.Proofs.Footprint

set_option autoImplicit false

namespace BareBones

def Resume.statement : Resume → Statement
  | .loop statement _ _ => statement
  | .branch statement _ => statement
  | .call statement _ _ => statement

def Notice.inner : Notice → Bool
  | .programStart _ | .onError _ | .programEnd _ => false
  | _ => true

def Notice.begins : Notice → Bool
  | .beforeStatement _ _ => true
  | _ => false

namespace Telling

def statements (told : List Notice) : Nat :=
  told.countP Notice.begins

@[simp]
theorem statements_append (first later : List Notice) :
    statements (first ++ later) = statements first + statements later :=
  List.countP_append

@[simp]
theorem statements_cons (notice : Notice) (told : List Notice) :
    statements (notice :: told) = statements told + if notice.begins then 1 else 0 :=
  List.countP_cons

@[simp]
theorem statements_nil : statements [] = 0 := rfl

def pair (statement : Statement) (frame : Nat) (inside : List Notice) : List Notice :=
  .beforeStatement statement frame :: (inside ++ [.afterStatement statement frame])

mutual

-- What is told while an invocation runs lines: its number, the number that comes next before them, what is
-- told, and the number that comes next after them.
inductive Body : Nat → Nat → List Notice → Nat → Prop
  | start (frame next : Nat) : Body frame next [] next
  | statement {frame first middle last : Nat} {earlier inside : List Notice} {statement : Statement}
      (before : Body frame first earlier middle) (within : Inside statement frame middle inside last) :
      Body frame first (earlier ++ pair statement frame inside) last

inductive Inside : Statement → Nat → Nat → List Notice → Nat → Prop
  | atOnce {statement : Statement} (frame next : Nat) (plain : statement.command.spawns = false) :
      Inside statement frame next [] next
  | skipped (location : Location) (predicate : Text) (frame next : Nat) :
      Inside ⟨location, .branch predicate⟩ frame next [] next
  | branch {location : Location} {predicate : Text} {frame next last : Nat} {told : List Notice}
      (body : Body next (next + 1) told last) :
      Inside ⟨location, .branch predicate⟩ frame next told last
  | loop {location : Location} {predicate : Text} {frame first last : Nat} {told : List Notice}
      (rounds : Rounds first told last) : Inside ⟨location, .loop predicate⟩ frame first told last
  | call {location : Location} {name : Text} {arguments : List Text} {frame next last : Nat}
      {told : List Notice} (body : Body next (next + 1) told last) :
      Inside ⟨location, .call name arguments⟩ frame next
        (.beforeCall name arguments frame location ::
          (told ++ [.afterCall name arguments frame location])) last

inductive Rounds : Nat → List Notice → Nat → Prop
  | start (next : Nat) : Rounds next [] next
  | round {first middle last : Nat} {earlier told : List Notice} (before : Rounds first earlier middle)
      (body : Body middle (middle + 1) told last) : Rounds first (earlier ++ told) last

end

theorem inside_some (statement : Statement) (frame next : Nat) :
    ∃ inside last, Inside statement frame next inside last := by
  rcases statement with ⟨location, command⟩
  cases command with
  | loop predicate => exact ⟨_, _, .loop (.start next)⟩
  | branch predicate => exact ⟨_, _, .skipped location predicate frame next⟩
  | call name arguments => exact ⟨_, _, .call (.start next (next + 1))⟩
  | _ => exact ⟨_, _, .atOnce frame next rfl⟩

inductive Underway (frame : Nat) : Resume → Nat → List Notice → Nat → Prop
  | branch (location : Location) (predicate : Text) (terminator : Line) (next : Nat) :
      Underway frame (.branch ⟨location, .branch predicate⟩ terminator) next [] next
  | loop {first last : Nat} {told : List Notice} (location : Location) (predicate : Text)
      (block : Block) (rounds : Rounds first told last) :
      Underway frame (.loop ⟨location, .loop predicate⟩ predicate block) first told last
  | call (location : Location) (name : Text) (arguments : List Text) (next : Nat) :
      Underway frame (.call ⟨location, .call name arguments⟩ name arguments) next
        [.beforeCall name arguments frame location] next

def closing (frame : Nat) : Resume → List Notice
  | .loop statement _ _ => [.afterStatement statement frame]
  | .branch statement _ => [.afterStatement statement frame]
  | .call statement name arguments =>
      [.afterCall name arguments frame statement.location, .afterStatement statement frame]

theorem statements_closing (frame : Nat) (pending : Resume) : statements (closing frame pending) = 0 := by
  cases pending <;> rfl

-- What has been told while invocations are alive, each of which but the outermost has been spawned by the
-- one below it. The innermost comes first.
inductive Story : List (Nat × Option Resume) → List Notice → Nat → Prop
  | program {told : List Notice} {next : Nat} (body : Body 0 1 told next) : Story [(0, none)] told next
  | body {frame first id next : Nat} {resumed : Option Resume} {below : List (Nat × Option Resume)}
      {pending : Resume} {told begun inside : List Notice}
      (around : Story ((frame, resumed) :: below) told first)
      (underway : Underway frame pending first begun id) (inner : Body id (id + 1) inside next) :
      Story ((id, some pending) :: (frame, resumed) :: below)
        (told ++ .beforeStatement pending.statement frame :: (begun ++ inside)) next

section

variable {frame first id next : Nat} {resumed : Option Resume} {below : List (Nat × Option Resume)}
  {pending : Resume} {told begun inside : List Notice}

theorem story_statement {statement : Statement} (story : Story ((frame, resumed) :: below) told first)
    (within : Inside statement frame first inside next) :
    Story ((frame, resumed) :: below) (told ++ pair statement frame inside) next := by
  cases story with
  | program body => exact .program (.statement body within)
  | body around underway inner =>
      rw [List.append_assoc, List.cons_append, List.append_assoc]
      exact .body around underway (.statement inner within)

theorem story_spawn (story : Story ((frame, resumed) :: below) told first)
    (underway : Underway frame pending first begun id) :
    Story ((id, some pending) :: (frame, resumed) :: below)
      (told ++ .beforeStatement pending.statement frame :: begun) (id + 1) := by
  have spawned := Story.body story underway (.start id (id + 1))
  rwa [List.append_nil] at spawned

theorem underway_inside (underway : Underway frame pending first begun id)
    (inner : Body id (id + 1) inside next) :
    ∃ within, Inside pending.statement frame first within next ∧
      .beforeStatement pending.statement frame :: (begun ++ inside ++ closing frame pending) =
        pair pending.statement frame within := by
  cases underway with
  | branch location predicate terminator => exact ⟨_, .branch inner, rfl⟩
  | loop location predicate block rounds => exact ⟨_, .loop (.round rounds inner), rfl⟩
  | call location name arguments =>
      refine ⟨_, .call inner, ?_⟩
      simp [pair, closing, Resume.statement]

theorem story_return (story : Story ((id, some pending) :: (frame, resumed) :: below) told next) :
    Story ((frame, resumed) :: below) (told ++ closing frame pending) next := by
  cases story with
  | body around underway inner =>
      obtain ⟨within, whole, same⟩ := underway_inside underway inner
      rw [List.append_assoc, List.cons_append, same]
      exact story_statement around whole

theorem story_again {statement : Statement} {predicate : Text} {block : Block}
    (story : Story ((id, some (.loop statement predicate block)) :: below) told next) :
    Story ((next, some (.loop statement predicate block)) :: below) told (next + 1) := by
  cases story with
  | body around underway inner =>
      cases underway with
      | loop location _ _ rounds => exact story_spawn around (.loop location _ _ (.round rounds inner))

theorem story_whole {stack : List (Nat × Option Resume)} (story : Story stack told next) :
    ∃ rest last, Body 0 1 (told ++ rest) last := by
  induction stack generalizing told with
  | nil => cases story
  | cons top below ih =>
      cases below with
      | nil =>
          cases story with
          | program body => exact ⟨[], next, by rwa [List.append_nil]⟩
      | cons caller below =>
          obtain ⟨id, waiting⟩ := top
          cases waiting with
          | none => cases story
          | some pending =>
              obtain ⟨rest, last, body⟩ := ih (story_return story)
              rw [List.append_assoc] at body
              exact ⟨closing caller.1 pending ++ rest, last, body⟩

theorem story_begun {prefixed : List Notice} {statement : Statement}
    (story : Story ((frame, resumed) :: below) told first)
    (within : Inside statement frame first inside next)
    (begins : prefixed <+: pair statement frame inside) :
    ∃ rest last, Body 0 1 (told ++ prefixed ++ rest) last := by
  obtain ⟨more, same⟩ := begins
  obtain ⟨rest, last, body⟩ := story_whole (story_statement story within)
  rw [← same, ← List.append_assoc, List.append_assoc] at body
  exact ⟨more ++ rest, last, body⟩

end

theorem body_inner {frame first last : Nat} {told : List Notice} (body : Body frame first told last) :
    told.all Notice.inner = true := by
  refine @Body.rec (fun _ _ told _ _ => told.all Notice.inner = true)
    (fun _ _ _ told _ _ => told.all Notice.inner = true) (fun _ told _ _ => told.all Notice.inner = true)
    ?start ?statement ?atOnce ?skipped ?branch ?loop ?call ?unstarted ?round frame first told last body
  case start => exact fun _ _ => rfl
  case statement =>
    intro frame first middle last earlier inside statement _ _ before within
    simp [pair, Notice.inner, before, within]
  case atOnce => exact fun _ _ _ => rfl
  case skipped => exact fun _ _ _ _ => rfl
  case branch => exact fun _ body => body
  case loop => exact fun _ rounds => rounds
  case call =>
    intro location name arguments frame next last told _ body
    simp [Notice.inner, body]
  case unstarted => exact fun _ => rfl
  case round =>
    intro first middle last earlier told _ _ before body
    simp [before, body]

end Telling
end BareBones
