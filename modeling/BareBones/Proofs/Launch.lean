import BareBones.Proofs.Deed

set_option autoImplicit false

namespace BareBones

def Frame.moved (cursor : Cursor) (frame : Frame) : Frame :=
  { frame with cursor }

def Activation.frame (body : Activation) (name : Text) (calledFrom : Location) (cursor : Cursor)
    (resume : Resume) : Frame :=
  ⟨name, body.path, body.arguments, body.id, some calledFrom, cursor, some resume⟩

def World.recorded (here : Activation) (location : Location) (command : Command) (world : World) : World :=
  { world with journal := world.journal.record (some here.id) (some location) command.label none }

namespace Deed

variable {σ : Type}

def round (settings : Settings σ) (here : Activation) (statement : Statement) (predicate : Text)
    (block : Block) : Deed (Option Frame) := do
  let location := statement.location
  if ← holds here predicate location then
    let label := Machine.blockLabel .loop location
    let id ← spawn settings here location
    return some ((here.inner id label here.arguments).frame label location block.body
      (.loop statement predicate block))
  else return none

def perform (settings : Settings σ) (here : Activation) (statement : Statement) (rest : Cursor) :
    Deed (Cursor × Option Frame) := do
  let location := statement.location
  match statement.command with
  | .define name => do
      let (block, rest) ← carve .function location rest
      define here name block
      return (rest, none)
  | .loop predicate => do
      let (block, rest) ← carve .loop location rest
      enter here (Machine.blockLabel .loop location)
      let next ← round settings here statement predicate block
      return (rest, next)
  | .branch predicate => do
      match ← choose here (some predicate) location rest with
      | (none, rest) => return (rest, none)
      | (some (block, clause), rest) => do
          let label := Machine.blockLabel .branch clause
          enter here label
          let id ← spawn settings here clause
          return (rest, some ((here.inner id label here.arguments).frame label clause block.body
            (.branch statement block.terminator)))
  | .call name arguments => do
      let block ← find here location name
      enter here name
      let id ← spawn settings here location
      return (rest, some ((here.inner id name arguments).frame name location block.body
        (.call statement name arguments)))
  | _ => do
      atOnce settings here statement
      return (rest, none)

def start (settings : Settings σ) (here : Activation) (statement : Statement) (rest : Cursor) :
    Deed (Cursor × Option Frame) := do
  record settings here statement
  perform settings here statement rest

def launch (settings : Settings σ) (here : Activation) (line : Line) (rest : Cursor) :
    Deed (Cursor × Option Frame) := do
  let statement ← read line
  start settings here statement rest

def complete (settings : Settings σ) (here : Activation) (cursor : Cursor) :
    Option Resume → Deed (Cursor × Option Frame)
  | some (.loop statement predicate block) => do
      let next ← round settings here statement predicate block
      return (cursor, next)
  | some (.branch _ terminator) => do
      let rest ← skip terminator cursor
      return (rest, none)
  | some (.call _ _ _) | none => return (cursor, none)

theorem launch_read (settings : Settings σ) (here : Activation) (line : Line) (rest : Cursor)
    (command : Command) (world : World) (terse : settings.verbose = false)
    (reading : Statement.read line = .ok ⟨line.location, command⟩) :
    launch settings here line rest world =
      perform settings here ⟨line.location, command⟩ rest
        (world.recorded here line.location command) := by
  unfold launch read start record
  rw [reading, terse]
  rfl

theorem evaluate_answered {α : Type} (here : Activation) (location : Location)
    (expression : Env → Except Failure α) (world : World) (a : α)
    (evaluates : expression (here.env world) = .ok a) :
    evaluate here location expression world = (.ok a, world) := by
  change (placed location (expression (here.env world)), world) = _
  rw [evaluates]
  rfl

theorem launch_print (settings : Settings σ) (here : Activation) (line : Line) (rest : Cursor)
    (format text : Text) (world : World) (terse : settings.verbose = false)
    (reading : Statement.read line = .ok ⟨line.location, .print format⟩)
    (expands : (here.env world).expand format = .ok text) :
    launch settings here line rest world = (.ok (rest, none),
      { world.recorded here line.location (.print format) with written := text :: world.written }) := by
  have evaluated := evaluate_answered here line.location (·.expand format)
    (world.recorded here line.location (.print format)) text expands
  rw [launch_read settings here line rest _ world terse reading]
  simp only [perform, atOnce, effect_bind, evaluated, emit, terse]
  rfl

theorem launch_assign (settings : Settings σ) (here : Activation) (line : Line) (rest : Cursor)
    (name format text : Text) (world : World) (terse : settings.verbose = false)
    (reading : Statement.read line = .ok ⟨line.location, .assign name format⟩)
    (expands : (here.env world).expand format = .ok text) :
    launch settings here line rest world = (.ok (rest, none),
      { world.recorded here line.location (.assign name format) with
        store := world.store.write here.path name (.text text) }) := by
  have evaluated := evaluate_answered here line.location (·.expand format)
    (world.recorded here line.location (.assign name format)) text expands
  rw [launch_read settings here line rest _ world terse reading]
  simp only [perform, atOnce, effect_bind, evaluated]
  rfl

theorem launch_clear (settings : Settings σ) (here : Activation) (line : Line) (rest : Cursor)
    (name : Text) (world : World) (terse : settings.verbose = false)
    (reading : Statement.read line = .ok ⟨line.location, .clear name⟩) :
    launch settings here line rest world = (.ok (rest, none),
      { world.recorded here line.location (.clear name) with
        store := world.store.write here.path name (.int 0) }) := by
  rw [launch_read settings here line rest _ world terse reading]
  rfl

theorem variable_answered (here : Activation) (location : Location) (name : Text) (value : Value)
    (world : World) (reads : world.store.read? here.path name = some value) :
    readVariable here location name world = (.ok value, world) := by
  apply evaluate_answered
  change (world.store.read here.path name).mapError Failure.fault = .ok value
  rw [Store.read, reads]
  rfl

theorem launch_count (settings : Settings σ) (here : Activation) (line : Line) (rest : Cursor)
    (direction : Direction) (name : Text) (value : Value) (n : Int) (world : World)
    (terse : settings.verbose = false)
    (reading : Statement.read line = .ok ⟨line.location, .count direction name⟩)
    (reads : world.store.read? here.path name = some value) (counts : value.integer? = .ok (some n)) :
    launch settings here line rest world = (.ok (rest, none),
      { world.recorded here line.location (.count direction name) with
        store := world.store.write here.path name (.int (n + direction.delta)) }) := by
  have previous := variable_answered here line.location name value
    (world.recorded here line.location (.count direction name)) reads
  rw [launch_read settings here line rest _ world terse reading]
  simp only [perform, atOnce, count, effect_bind, previous, settled, counts, Env.orBreakdown]
  rfl

theorem launch_debug (settings : Settings σ) (here : Activation) (line : Line) (rest : Cursor)
    (name text : Text) (value : Value) (world : World) (terse : settings.verbose = false)
    (reading : Statement.read line = .ok ⟨line.location, .debug name⟩)
    (reads : world.store.read? here.path name = some value) (writes : value.written = .ok text) :
    launch settings here line rest world = (.ok (rest, none),
      { world.recorded here line.location (.debug name) with
        written := (name ++ "=".toList ++ text) :: world.written }) := by
  have shown := variable_answered here line.location name value
    (world.recorded here line.location (.debug name)) reads
  rw [launch_read settings here line rest _ world terse reading]
  simp only [perform, atOnce, effect_bind, shown, written, settled, writes, Env.orBreakdown, emit, terse]
  rfl

end Deed

end BareBones
