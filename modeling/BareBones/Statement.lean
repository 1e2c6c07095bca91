import BareBones.Source.Boundary

set_option autoImplicit false

namespace BareBones

inductive Direction where
  | up
  | down
deriving DecidableEq, Repr

namespace Direction

def keyword : Direction → Text
  | .up => "incr".toList
  | .down => "decr".toList

def verb : Direction → Text
  | .up => "increment".toList
  | .down => "decrement".toList

def delta : Direction → Int
  | .up => 1
  | .down => -1

end Direction

-- What a statement asks for. No line is read as `unsupported`: it stands for a statement that no machine can run.
inductive Command where
  | clear (name : Text)
  | count (direction : Direction) (name : Text)
  | debug (name : Text)
  | print (format : Text)
  | assign (name format : Text)
  | loop (predicate : Text)
  | branch (predicate : Text)
  | define (name : Text)
  | call (name : Text) (arguments : List Text)
  | unsupported
deriving DecidableEq, Repr

def Command.label : Command → Text
  | .clear _ => "ClearStatement".toList
  | .count _ _ => "IncrementStatement".toList
  | .debug _ => "DebugStatement".toList
  | .print _ => "PrintStatement".toList
  | .assign _ _ => "SetStatement".toList
  | .loop _ => "WhileStatement".toList
  | .branch _ => "IfStatement".toList
  | .define _ => "FuncDef".toList
  | .call _ _ => "CallStatement".toList
  | .unsupported => "Statement".toList

structure Statement where
  location : Location
  command : Command
deriving DecidableEq, Repr

namespace Statement

def operand? (keyword text : Text) : Option Text :=
  (keyword ++ [' ']).isPrefixOf? text

def readName (line : Line) (keyword rest : Text) : Except Failure Text :=
  match rest.trimStart.firstWord with
  | [] => .error (.fault (.at line.location (.blankName keyword line.text.trim)))
  | name => .ok name

def readHeader (line : Line) (kind : BlockKind) : Except Failure Text :=
  match Boundary.headerOf? kind line.text with
  | some subject => .ok subject
  | none => .error (.fault (.at line.location (.badHeader kind.keyword line.text.trim)))

def assignment? (rest : Text) : Option (Text × Text) :=
  let text := rest.trimStart
  if text.isEmpty then none
  else
    match text.afterFirstWord with
    | [] => some (text.firstWord, [])
    | _ :: format =>
        let (first, others) := Text.cutAt '\n' format
        if others.isEmpty || others == ['\n'] then some (text.firstWord, first) else none

def readCall (line : Line) : Except Failure Command :=
  if Boundary.isEnd line.text || Boundary.isElse line.text then
    .error (.fault (.at line.location (.strayBoundary line.text.trim)))
  else
    match line.text.words with
    | [] => .error (.breakdown .noWord)
    | name :: arguments => .ok (.call name arguments)

def readCommand (line : Line) : Except Failure Command :=
  if let some rest := operand? "clear".toList line.text then
    (readName line "clear".toList rest).map .clear
  else if let some rest := operand? "incr".toList line.text then
    (readName line "incr".toList rest).map (.count .up)
  else if let some rest := operand? "decr".toList line.text then
    (readName line "decr".toList rest).map (.count .down)
  else if let some rest := operand? "debug".toList line.text then
    match rest.trim with
    | [] => .error (.fault (.at line.location (.blankName "debug".toList "debug".toList)))
    | name => .ok (.debug name)
  else if let some rest := operand? "print".toList line.text then .ok (.print rest)
  else if (operand? "while".toList line.text).isSome then (readHeader line .loop).map .loop
  else if (operand? "if".toList line.text).isSome then (readHeader line .branch).map .branch
  else if (operand? "function".toList line.text).isSome then do
    let name ← readHeader line .function
    if name.words.length == 1 then .ok (.define name)
    else .error (.fault (.at line.location (.badFunctionName name)))
  else if let some rest := operand? "set".toList line.text then
    match assignment? rest with
    | some (name, format) => .ok (.assign name format)
    | none => .error (.fault (.at line.location (.blankName "set".toList "set".toList)))
  else readCall line

def read (line : Line) : Except Failure Statement :=
  (readCommand line).map (⟨line.location, ·⟩)

end Statement
end BareBones
