import BareBones.Machine.Run
import BareBones.Report.Traceback

set_option autoImplicit false

namespace BareBones

inductive Printed where
  | output (text : Text)
  | error (text : Text)
deriving DecidableEq, Repr

namespace Printed

def outputLine (text : Text) : Printed := .output (text ++ ['\n'])
def errorLine (text : Text) : Printed := .error (text ++ ['\n'])

def outputOf (printed : List Printed) : Text :=
  printed.flatMap fun
    | .output text => text
    | .error _ => []

def errorOf (printed : List Printed) : Text :=
  printed.flatMap fun
    | .output _ => []
    | .error text => text

end Printed

def Machine.printed {σ : Type} (machine : Machine σ) : List Printed :=
  machine.output.map Printed.outputLine ++ machine.trace.map Printed.errorLine

def Traceback.report {σ : Type} (machine : Machine σ) (verbose withJson : Bool) (fault : Fault) :
    List Printed × Except Breakdown Unit :=
  let wanted (wish : Bool) (render : Except Breakdown Text) : List Printed × Except Breakdown Unit :=
    if !wish then ([], .ok ())
    else
      match render with
      | .ok text => ([.errorLine text], .ok ())
      | .error breakdown => ([], .error breakdown)
  let (traced, first) := wanted verbose (Traceback.text machine true fault)
  match first with
  | .error breakdown => (traced, .error breakdown)
  | .ok () =>
      let (json, second) := wanted withJson (Traceback.json machine fault)
      (traced ++ [.errorLine (Traceback.short fault)] ++ json, second)

namespace Console

def coloured (text : Text) : Text :=
  "\x1b[38;2;153;221;255m".toList ++ text ++ "\x1b[0m".toList

def banner : Text :=
  coloured "Bare Bones".toList ++
    " REPL. Enter statements, blank line to run a block.".toList

def prompt (gathered : List Text) : Text :=
  coloured (if gathered.isEmpty then ">>>".toList else "..>".toList) ++ [' ']

def openers : List Text := ["while ".toList, "if ".toList, "function ".toList]

inductive Reaction where
  | quit
  | gather (lines : List Text)
  | enter (source : Text)
deriving DecidableEq, Repr

def react (gathered : List Text) (line : Text) : Reaction :=
  let statement := line.trim
  if gathered.isEmpty then
    if statement == "exit".toList then .quit
    else if statement.isEmpty then .gather []
    else if openers.any (·.isPrefixOf statement) then .gather [line]
    else .enter line
  else if statement.isEmpty then .enter (Text.join ['\n'] gathered)
  else .gather (gathered ++ [line])

inductive Standing where
  | open (gathered : List Text) (machine : Machine Unit)
  | closed
  | broken (failure : Failure)

-- Answers a typed line. A fault is reported and the session goes on with the frame of the
-- program; any other failure ends it.
def respond (settings : Settings Unit) (fuel : Nat) (gathered : List Text) (machine : Machine Unit)
    (line : Text) : Option (List Printed × Standing) :=
  match react gathered line with
  | .quit => some ([], .closed)
  | .gather lines => some ([], .open lines machine)
  | .enter source =>
      (Machine.runSource settings fuel source { machine with written := [], traced := [] }).map fun
        | (.ok (), after) => (after.printed, .open [] after)
        | (.error (.fault fault), after) =>
            let (reported, result) := Traceback.report after settings.verbose false fault
            match result with
            | .ok () => (after.printed ++ reported, .open [] after.unwind)
            | .error breakdown => (after.printed ++ reported, .broken (.breakdown breakdown))
        | (.error failure, after) => (after.printed, .broken failure)

def converse (settings : Settings Unit) (fuel : Nat) (gathered : List Text)
    (machine : Machine Unit) : List Text → Option (List Printed × Except Failure Unit)
  | [] => some ([.output (prompt gathered), .output ['\n']], .ok ())
  | line :: rest =>
      match respond settings fuel gathered machine line with
      | none => none
      | some (printed, .closed) => some (.output (prompt gathered) :: printed, .ok ())
      | some (printed, .broken failure) => some (.output (prompt gathered) :: printed, .error failure)
      | some (printed, .open gatheredAfter after) =>
          (converse settings fuel gatheredAfter after rest).map fun (later, result) =>
            (.output (prompt gathered) :: printed ++ later, result)

def session (settings : Settings Unit) (fuel : Nat) (machine : Machine Unit) (lines : List Text) :
    Option (List Printed × Except Failure Unit) :=
  (converse settings fuel [] (machine.enterProgram settings) lines).map fun (printed, result) =>
    (.outputLine banner :: printed, result)

end Console
end BareBones
