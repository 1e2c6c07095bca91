import BareBones.Machine.Run

set_option autoImplicit false

namespace BareBones

structure World where
  store : Store
  journal : Journal Nat
  created : Nat
  written : List Text
deriving DecidableEq, Repr

def World.faultOf (world : World) (failure : Failure) : Fault :=
  let fault := match failure with
    | .fault fault => fault
    | other => ⟨.internal other.message, world.journal.last?.bind (·.location), none⟩
  match world.journal.last? with
  | some entry => { fault with step := some entry.step }
  | none => fault

structure Activation where
  id : Nat
  path : Path
  arguments : List Text
  depth : Nat
deriving DecidableEq, Repr

def Activation.env (here : Activation) (world : World) : Env :=
  ⟨world.store, here.path, here.arguments⟩

def Activation.inner (here : Activation) (id : Nat) (label : Text) (arguments : List Text) :
    Activation :=
  ⟨id, here.path ++ [label], arguments, here.depth + 1⟩

def Frame.activation (depth : Nat) (frame : Frame) : Activation :=
  ⟨frame.id, frame.path, frame.arguments, depth⟩

namespace Env

def value (env : Env) (name : Text) : Except Failure Value :=
  (env.store.read env.path name).mapError .fault

end Env

section

variable {S α β : Type}

theorem effect_bind (effect : ExceptT Failure (StateM S) α) (next : α → ExceptT Failure (StateM S) β)
    (state : S) :
    (effect >>= next) state =
      match effect state with
      | (.ok a, after) => next a after
      | (.error failure, after) => (.error failure, after) := by
  change ExceptT.bindCont next (effect state).1 (effect state).2 = _
  rcases effect state with ⟨result | result, after⟩ <;> rfl

theorem effect_map (effect : ExceptT Failure (StateM S) α) (change : α → β) (state : S) :
    (change <$> effect) state =
      match effect state with
      | (.ok a, after) => (.ok (change a), after)
      | (.error failure, after) => (.error failure, after) := by
  rw [← bind_pure_comp, effect_bind]
  rfl

theorem effect_get (state : S) : (get : ExceptT Failure (StateM S) S) state = (.ok state, state) := rfl

theorem effect_modify (change : S → S) (state : S) :
    (modify change : ExceptT Failure (StateM S) PUnit) state = (.ok ⟨⟩, change state) := rfl

end

abbrev Deed (α : Type) := ExceptT Failure (StateM World) α

namespace Deed

variable {σ α : Type}

def settled (result : Except Failure α) : Deed α :=
  fun world => (result, world)

def placed (location : Location) (result : Except Failure α) : Except Failure α :=
  result.mapError (Failure.located location)

def read (line : Line) : Deed Statement :=
  settled (placed line.location (Statement.read line))

def record (settings : Settings σ) (here : Activation) (statement : Statement) : Deed Unit := do
  let snapshot ← if settings.verbose then
      some <$> settled (Env.orBreakdown ((← get).store.snapshot here.path))
    else pure none
  modify fun world => { world with
    journal := world.journal.record (some here.id) (some statement.location)
      statement.command.label snapshot }

def evaluate (here : Activation) (location : Location) (expression : Env → Except Failure α) :
    Deed α := do
  settled (placed location (expression (here.env (← get))))

def holds (here : Activation) (predicate : Text) (location : Location) : Deed Bool :=
  evaluate here location (·.test predicate)

def assign (here : Activation) (name : Text) (value : Value) : Deed Unit :=
  modify fun world => { world with store := world.store.write here.path name value }

def define (here : Activation) (name : Text) (block : Block) : Deed Unit :=
  modify fun world => { world with store := world.store.define here.path name block }

def enter (here : Activation) (label : Text) : Deed Unit :=
  modify fun world => { world with store := world.store.enter (here.path ++ [label]) }

def emit (settings : Settings σ) (location : Location) (text : Text) : Deed Unit :=
  modify fun world =>
    let line :=
      if settings.verbose then "log: ".toList ++ location.describe ++ ": ".toList ++ text else text
    { world with written := line :: world.written }

def readVariable (here : Activation) (location : Location) (name : Text) : Deed Value :=
  evaluate here location (·.value name)

def written (value : Value) : Deed Text :=
  settled (Env.orBreakdown value.written)

def count (here : Activation) (location : Location) (direction : Direction) (name : Text) :
    Deed Unit := do
  let previous ← readVariable here location name
  match ← settled (Env.orBreakdown previous.integer?) with
  | some n => assign here name (.int (n + direction.delta))
  | none => do
      let text ← written previous
      settled (.error (.fault (.at location
        (.notCountable direction.keyword direction.verb name text))))

def atOnce (settings : Settings σ) (here : Activation) (statement : Statement) : Deed Unit :=
  let location := statement.location
  match statement.command with
  | .clear name => assign here name (.int 0)
  | .count direction name => count here location direction name
  | .debug name => do
      let value ← readVariable here location name
      let text ← written value
      emit settings location (name ++ "=".toList ++ text)
  | .print format => do
      let text ← evaluate here location (·.expand format)
      emit settings location text
  | .assign name format => do
      let text ← evaluate here location (·.expand format)
      assign here name (.text text)
  | _ => settled (.error (.fault (.at location .unsupported)))

def carve (kind : BlockKind) (header : Location) (cursor : Cursor) : Deed (Block × Cursor) :=
  settled ((Block.read kind.keyword header false cursor).mapError .fault)

def find (here : Activation) (location : Location) (name : Text) : Deed Block := do
  match (← get).store.function? here.path name with
  | some block => return block
  | none => settled (.error (.fault (.at location (.unknownCall location.statement))))

def admits (here : Activation) (location : Location) : Option Text → Deed Bool
  | some predicate => holds here predicate location
  | none => return true

set_option linter.unusedVariables false in
def choose (here : Activation) (predicate : Option Text) (location : Location) (cursor : Cursor) :
    Deed (Option (Block × Location) × Cursor) :=
  match reading : Block.read BlockKind.branch.keyword location true cursor with
  | .error fault => settled (.error (.fault fault))
  | .ok (block, rest) => do
      let taken ← admits here location predicate
      if taken then return (some (block, location), rest)
      else if !block.endsAtElse then return (none, rest)
      else
        match taking : Cursor.next? rest with
        | none => settled (.error (.signal .noLines))
        | some (line, after) =>
            match Boundary.readElse line with
            | .error fault => settled (.error (.fault fault))
            | .ok next => choose here next line.location after
termination_by cursor.length
decreasing_by
  have kept := Block.read_rest_length reading
  have taken := Cursor.next_shorter _ _ _ taking
  omega

theorem choose_unread (here : Activation) (predicate : Option Text) (location : Location)
    (cursor : Cursor) (fault : Fault)
    (reading : Block.read BlockKind.branch.keyword location true cursor = .error fault) :
    choose here predicate location cursor = settled (.error (.fault fault)) := by
  unfold choose
  split <;> simp_all

theorem choose_read (here : Activation) (predicate : Option Text) (location : Location)
    (cursor rest : Cursor) (block : Block)
    (reading : Block.read BlockKind.branch.keyword location true cursor = .ok (block, rest)) :
    choose here predicate location cursor = (do
      let taken ← admits here location predicate
      if taken then return (some (block, location), rest)
      else if !block.endsAtElse then return (none, rest)
      else
        match Cursor.next? rest with
        | none => settled (.error (.signal .noLines))
        | some (line, after) =>
            match Boundary.readElse line with
            | .error fault => settled (.error (.fault fault))
            | .ok next => choose here next line.location after) := by
  rw [choose.eq_def]
  split
  · simp_all
  · rename_i again
    rw [reading] at again
    cases again
    congr 1
    funext taken
    split
    · rfl
    · split
      · rfl
      · cases Cursor.next? rest <;> rfl

def skip (terminator : Line) (cursor : Cursor) : Deed Cursor :=
  if Boundary.isElse terminator.text then
    match Cursor.next? cursor with
    | none => settled (.error (.signal .noLines))
    | some (_, rest) => do
        let (_, after) ← carve .branch terminator.location rest
        return after
  else return cursor

def spawn (settings : Settings σ) (here : Activation) (location : Location) : Deed Nat := do
  settled (settings.maxDepth.allow here.depth location)
  let id := (← get).created
  modify fun world => { world with created := id + 1 }
  return id

def leave (id : Nat) : Deed Unit :=
  modify fun world => { world with journal := world.journal.forget id }

end Deed
end BareBones
