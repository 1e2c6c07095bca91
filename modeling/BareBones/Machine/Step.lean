import BareBones.Machine.State

set_option autoImplicit false

namespace BareBones.Machine

variable {σ : Type} {α : Type}

def settle (result : Except Failure α) : Act σ α :=
  fun machine => (result, machine)

def locating (location : Location) (action : Act σ α) : Act σ α := fun machine =>
  match action machine with
  | (.error failure, after) => (.error (failure.located location), after)
  | done => done

-- Tells the observers. A breakdown of an observer becomes a fault, placed at the newest entry of the journal.
def announce (settings : Settings σ) (notice : Notice) : Act σ Unit := fun machine =>
  match settings.handlers.notify notice.event (fun handler => handler notice) machine with
  | (.error (.breakdown breakdown), after) =>
      let cause : Cause := .handlerFailed notice.event.name breakdown.message
      (.error (.fault ⟨cause, after.lastLocation?, none⟩), after)
  | told => told

def writeLine (settings : Settings σ) (text : Text) (location : Location) : Act σ Unit :=
  modify fun machine =>
    let line :=
      if settings.verbose then "log: ".toList ++ location.describe ++ ": ".toList ++ text else text
    { machine with written := line :: machine.written }

def note (settings : Settings σ) (location : Option Location) (message : Text) : Act σ Unit :=
  modify fun machine =>
    if settings.verbose then
      let place := match location with
        | some location => location.describe ++ ": ".toList
        | none => []
      { machine with traced := ("debug: ".toList ++ place ++ message) :: machine.traced }
    else machine

def recordStep (settings : Settings σ) (statement : Statement) : Act σ Unit := do
  let machine ← get
  let frame := machine.stack.head?
  -- A snapshot that cannot be written leaves the journal as it was.
  let snapshot ← match settings.verbose, frame with
    | true, some frame => some <$> settle (Env.orBreakdown (machine.store.snapshot frame.path))
    | _, _ => pure none
  modify fun machine => { machine with
    journal := machine.journal.record (frame.map (·.id)) (some statement.location)
      statement.command.label snapshot }

def env (machine : Machine σ) (frame : Frame) : Env :=
  ⟨machine.store, frame.path, frame.arguments⟩

def assign (frame : Frame) (name : Text) (value : Value) : Act σ Unit :=
  modify fun machine => { machine with store := machine.store.write frame.path name value }

def readVariable (frame : Frame) (name : Text) : Act σ Value := do
  match (← get).store.read frame.path name with
  | .ok value => return value
  | .error fault => throw (.fault fault)

def test (settings : Settings σ) (frame : Frame) (predicate : Text) (location : Location) :
    Act σ Bool := do
  let holds ← locating location (settle (((← get).env frame).test predicate))
  note settings (some location) ("Testing predicate ".toList ++ predicate.cited ++ " -> ".toList ++
    if holds then "true".toList else "false".toList)
  return holds

def readBlock (kind : BlockKind) (header : Location) (cursor : Cursor) : Act σ Block := do
  let (taken, rest) := Block.take kind.keyword header false cursor
  modify (setCursor rest)
  match taken with
  | .ok block => return block
  | .error fault => throw (.fault fault)

def enterChild (frame : Frame) (label : Text) : Act σ Path := do
  let path := frame.path ++ [label]
  modify fun machine => { machine with store := machine.store.enter path }
  return path

def spawn (settings : Settings σ) (body : List Line) (name : Text) (path : Path)
    (arguments : List Text) (calledFrom : Location) (resume : Resume) : Act σ Unit := do
  settle (settings.maxDepth.allow (← get).stack.length calledFrom)
  note settings (some calledFrom) ("Spawning invocation ".toList ++ path.describe.cited ++
    " with arguments ".toList ++ Text.quotedList arguments)
  modify (push name path arguments (some calledFrom) body (some resume))

def blockLabel (kind : BlockKind) (location : Location) : Text :=
  kind.keyword ++ "_".toList ++ Text.ofInt location.line

def loopRound (settings : Settings σ) (frame : Frame) (statement : Statement) (predicate : Text)
    (block : Block) : Act σ Unit := do
  if ← test settings frame predicate statement.location then
    let label := blockLabel .loop statement.location
    spawn settings block.body label (frame.path ++ [label]) frame.arguments statement.location
      (.loop statement predicate block)
  else announce settings (.afterStatement statement frame.id)

set_option linter.unusedVariables false in
-- Looks for the branch to take, from the clause with `predicate` at `location` on, whose body begins at
-- `cursor`. A clause without a predicate is taken. Later predicates are not tested.
def chooseBranch (settings : Settings σ) (frame : Frame) (predicate : Option Text)
    (location : Location) (cursor : Cursor) : Act σ (Option (Block × Location)) :=
  match reading : Block.take BlockKind.branch.keyword location true cursor with
  | (.error fault, rest) => do
      modify (setCursor rest)
      throw (.fault fault)
  | (.ok block, rest) => do
      modify (setCursor rest)
      let taken ← match predicate with
        | some text => test settings frame text location
        | none => pure true
      if taken then return some (block, location)
      else if !block.endsAtElse then return none
      else
        -- The clause is still on the cursor: it ended the block, and was not taken with it.
        match taking : Cursor.next? rest with
        | none => throw (.signal .noLines)
        | some (line, after) => do
            modify (setCursor after)
            match Boundary.readElse line with
            | .error fault => throw (.fault fault)
            | .ok next => chooseBranch settings frame next line.location after
termination_by cursor.length
decreasing_by
  have kept := @Block.take_length BlockKind.branch.keyword location true cursor
  rw [reading] at kept
  have taken := Cursor.next_shorter _ _ _ taking
  exact Nat.lt_of_lt_of_le taken kept

-- Calls a function. Its scope lies in the scope of the caller, whatever scope it was defined in.
def call (settings : Settings σ) (frame : Frame) (statement : Statement) (name : Text)
    (arguments : List Text) : Act σ Unit := do
  match (← get).store.function? frame.path name with
  | none =>
      throw (.fault (.at statement.location (.unknownCall statement.location.statement)))
  | some block => do
      announce settings (.beforeCall name arguments frame.id statement.location)
      let path ← enterChild frame name
      spawn settings block.body name path arguments statement.location
        (.call statement name arguments)

def count (frame : Frame) (location : Location) (direction : Direction) (name : Text) :
    Act σ Unit := do
  let previous ← readVariable frame name
  match ← settle (Env.orBreakdown previous.integer?) with
  | some n => assign frame name (.int (n + direction.delta))
  | none => do
      let written ← settle (Env.orBreakdown previous.written)
      throw (.fault (.at location (.notCountable direction.keyword direction.verb name written)))

-- Runs a statement in `frame`, the innermost one. True means that the statement is finished by a frame that
-- it spawned, or has told the observers of its end itself.
def execute (settings : Settings σ) (frame : Frame) (statement : Statement) : Act σ Bool := do
  recordStep settings statement
  let location := statement.location
  match statement.command with
  | .clear name => do
      assign frame name (.int 0)
      return false
  | .count direction name => do
      count frame location direction name
      return false
  | .debug name => do
      let value ← readVariable frame name
      let written ← settle (Env.orBreakdown value.written)
      writeLine settings (name ++ "=".toList ++ written) location
      return false
  | .print format => do
      let text ← settle (((← get).env frame).expand format)
      writeLine settings text location
      return false
  | .assign name format => do
      let text ← settle (((← get).env frame).expand format)
      note settings (some location) ("Setting ".toList ++ name.cited ++ " to ".toList ++ text.cited)
      assign frame name (.text text)
      return false
  | .define name => do
      let block ← readBlock .function location frame.cursor
      modify fun machine => { machine with store := machine.store.define frame.path name block }
      note settings (some location) ("Defined function ".toList ++ name.cited ++
        " in scope ".toList ++ frame.path.describe.cited)
      return false
  | .loop predicate => do
      let block ← readBlock .loop location frame.cursor
      -- The scope of the body exists even if no round is run.
      let _ ← enterChild frame (blockLabel .loop location)
      loopRound settings frame statement predicate block
      return true
  | .branch predicate => do
      match ← chooseBranch settings frame (some predicate) location frame.cursor with
      | none => return false
      | some (block, clause) => do
          let label := blockLabel .branch clause
          let path ← enterChild frame label
          spawn settings block.body label path frame.arguments clause
            (.branch statement block.terminator)
          return true
  | .call name arguments => do
      call settings frame statement name arguments
      return true
  | .unsupported => throw (.fault (.at location .unsupported))

def dispatch (settings : Settings σ) (frame : Frame) (line : Line) : Act σ Unit := do
  note settings (some line.location) ("Parsing line ".toList ++ line.text.trim.cited)
  let (statement, deferred) ← locating line.location do
    let statement ← settle (Statement.read line)
    announce settings (.beforeStatement statement frame.id)
    let deferred ← execute settings frame statement
    return (statement, deferred)
  -- A fault of an observer that is told of the end is not placed at the line.
  if !deferred then announce settings (.afterStatement statement frame.id)

def resume (settings : Settings σ) (caller : Frame) : Resume → Act σ Unit
  | .loop statement predicate block => loopRound settings caller statement predicate block
  | .branch statement terminator => do
      -- The clauses behind the branch that was taken are read as one block and skipped.
      if Boundary.isElse terminator.text then
        match Cursor.advance caller.cursor with
        | .error signal => throw (.signal signal)
        | .ok (_, rest) => do
            let _ ← readBlock .branch terminator.location rest
      announce settings (.afterStatement statement caller.id)
  | .call statement name arguments => do
      announce settings (.afterCall name arguments caller.id statement.location)
      announce settings (.afterStatement statement caller.id)

def returnFrom (settings : Settings σ) (frame caller : Frame) : Act σ Unit := do
  modify fun machine =>
    { machine.pop with journal := machine.journal.forget frame.id }
  match frame.resume with
  | some pending => resume settings caller pending
  | none => pure ()

def step (settings : Settings σ) : Act σ Bool := do
  match (← get).stack with
  | [] => return false
  | frame :: below =>
      match Cursor.next? frame.cursor, below with
      | some (line, rest), _ => do
          modify (setCursor rest)
          dispatch settings { frame with cursor := rest } line
          return true
      | none, caller :: _ => do
          returnFrom settings frame caller
          return true
      | none, [] => return false

end BareBones.Machine
