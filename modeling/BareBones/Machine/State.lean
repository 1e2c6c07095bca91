import BareBones.DepthLimit
import BareBones.Event
import BareBones.Format
import BareBones.Journal
import BareBones.Statement

set_option autoImplicit false

namespace BareBones

inductive Resume where
  | loop (statement : Statement) (predicate : Text) (block : Block)
  | branch (statement : Statement) (terminator : Line)
  | call (statement : Statement) (name : Text) (arguments : List Text)
deriving DecidableEq, Repr

structure Frame where
  name : Text
  path : Path
  arguments : List Text
  id : Nat
  calledFrom : Option Location
  cursor : Cursor
  resume : Option Resume
deriving DecidableEq, Repr

def Frame.describeId (id : Nat) : Text :=
  "f_".toList ++ Text.padded 4 id

inductive Notice where
  | programStart (path : Path)
  | beforeStatement (statement : Statement) (frame : Nat)
  | afterStatement (statement : Statement) (frame : Nat)
  | beforeCall (name : Text) (arguments : List Text) (frame : Nat) (location : Location)
  | afterCall (name : Text) (arguments : List Text) (frame : Nat) (location : Location)
  | onError (fault : Fault)
  | programEnd (status : Int)
deriving DecidableEq, Repr

def Notice.event : Notice → Event
  | .programStart _ => .programStart
  | .beforeStatement _ _ => .beforeStatement
  | .afterStatement _ _ => .afterStatement
  | .beforeCall _ _ _ _ => .beforeCall
  | .afterCall _ _ _ _ => .afterCall
  | .onError _ => .onError
  | .programEnd _ => .programEnd

-- The innermost frame comes first on the stack, and the newest line first in what was written. The host is
-- whatever observers keep for themselves.
structure Machine (σ : Type) where
  store : Store
  stack : List Frame
  journal : Journal Nat
  created : Nat
  written : List Text
  traced : List Text
  host : σ

namespace Machine

variable {σ : Type}

def fresh (journal : Journal Nat) (host : σ) : Machine σ :=
  ⟨.empty, [], journal, 0, [], [], host⟩

def output (machine : Machine σ) : List Text :=
  machine.written.reverse

def trace (machine : Machine σ) : List Text :=
  machine.traced.reverse

def setCursor (cursor : Cursor) (machine : Machine σ) : Machine σ :=
  match machine.stack with
  | [] => machine
  | frame :: below => { machine with stack := { frame with cursor } :: below }

def push (name : Text) (path : Path) (arguments : List Text) (calledFrom : Option Location)
    (cursor : Cursor) (resume : Option Resume) (machine : Machine σ) : Machine σ :=
  let frame : Frame := ⟨name, path, arguments, machine.created, calledFrom, cursor, resume⟩
  { machine with stack := frame :: machine.stack, created := machine.created + 1 }

def pop (machine : Machine σ) : Machine σ :=
  { machine with stack := machine.stack.tail }

def unwind (machine : Machine σ) : Machine σ :=
  { machine with stack := machine.stack.getLast?.toList }

def lastLocation? (machine : Machine σ) : Option Location :=
  machine.journal.last?.bind (·.location)

end Machine

abbrev Handler (σ : Type) := Notice → Machine σ → Except Failure Unit × Machine σ

structure Settings (σ : Type) where
  filename : Text
  program : Text
  verbose : Bool
  arguments : List Text
  maxDepth : DepthLimit
  handlers : Registry (Handler σ)

abbrev Act (σ : Type) := ExceptT Failure (StateM (Machine σ))

end BareBones
