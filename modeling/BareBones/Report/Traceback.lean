import BareBones.Machine.State
import BareBones.Report.Json

set_option autoImplicit false

namespace BareBones

-- A living frame as a report shows it: where it stands, since which step, and its variables. A frame that
-- has run nothing stands where it was called from.
structure TraceFrame where
  name : Text
  path : Path
  location : Option Location
  step : Option Nat
  snapshot : Snapshot
deriving DecidableEq, Repr

namespace Traceback

variable {σ : Type}

def frame (machine : Machine σ) (live : Frame) : Except Breakdown TraceFrame :=
  let entry := machine.journal.latestOf? live.id
  (machine.store.snapshot live.path).map fun snapshot =>
    { name := live.name
      path := live.path
      location := match entry with
        | some entry => entry.location
        | none => live.calledFrom
      step := entry.map (·.step)
      snapshot }

def frames (machine : Machine σ) : Except Breakdown (List TraceFrame) :=
  machine.stack.reverse.mapM (frame machine)

def short (fault : Fault) : Text :=
  match fault.location with
  | none => "error: ".toList ++ fault.message
  | some location => "error: ".toList ++ location.describe ++ ": ".toList ++ fault.message

def placeLines (shown : TraceFrame) : List Text :=
  match shown.location with
  | none => ["  <unknown location>, in ".toList ++ shown.path.describe]
  | some location => [
      "  ".toList ++ location.describe ++ ", in ".toList ++ shown.path.describe,
      "    ".toList ++ location.statement]

def localsLines (verbose : Bool) (shown : TraceFrame) : List Text :=
  if verbose && !shown.snapshot.isEmpty then
    let listed := shown.snapshot.map fun (name, value) => name ++ "=".toList ++ value
    ["    locals: ".toList ++ Text.join ", ".toList listed]
  else []

def ruleName (fault : Fault) : Text :=
  match fault.rule with
  | some (c :: rest) => c :: rest
  | _ => "runtime".toList

def text (machine : Machine σ) (verbose : Bool) (fault : Fault) : Except Breakdown Text :=
  (frames machine).map fun shown =>
    let lines := shown.flatMap fun one => placeLines one ++ localsLines verbose one
    let last := fault.kind.name ++ ": ".toList ++ fault.message ++ " (rule: ".toList ++
      ruleName fault ++ ")".toList
    Text.join ['\n'] (["Traceback (most recent call last):".toList] ++ lines ++ [last])

def frameJson (shown : TraceFrame) : Text :=
  let place := match shown.location with
    | none => []
    | some location => [
        ("line".toList, Json.int location.line),
        ("statement".toList, Json.string location.statement)]
  let members := [
    ("name".toList, Json.string shown.name), ("scope".toList, Json.string shown.path.describe),
    ("step".toList, Json.optional Json.nat shown.step)]
  let values := shown.snapshot.map fun (name, value) => (name, Json.string value)
  Json.object 2 (members ++ place ++ [("locals".toList, Json.object 3 values)])

def json (machine : Machine σ) (fault : Fault) : Except Breakdown Text :=
  (frames machine).map fun shown => Json.object 0 [
    ("kind".toList, Json.string fault.kind.name),
    ("message".toList, Json.string fault.message),
    ("rule".toList, Json.optional Json.string fault.rule),
    ("step".toList, Json.optional Json.nat fault.step),
    ("file".toList, Json.optional Json.string (fault.location.map (·.file))),
    ("line".toList, Json.optional Json.int (fault.location.map (·.line))),
    ("frames".toList, Json.array 1 (shown.map frameJson))]

end Traceback
end BareBones
