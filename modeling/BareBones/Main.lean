import BareBones.CommandLine

set_option autoImplicit false

namespace BareBones.Main

def fuel : Nat := 1000000000000000000

def print : List Printed → IO Unit
  | [] => return ()
  | .output text :: rest => do
      IO.print (String.ofList text)
      print rest
  | .error text :: rest => do
      IO.eprint (String.ofList text)
      print rest

def readFile (name : Text) : IO (Except CommandLine.FileError (List UInt8)) := do
  if name.contains '\x00' then return .error .nullInName
  try
    let bytes ← IO.FS.readBinFile (String.ofList name)
    return .ok bytes.toList
  catch
    | .inappropriateType .. => return .error .isDirectory
    | .noFileOrDirectory .. => return .error .notFound
    | .permissionDenied .. =>
        return .error (.system ("[Errno 13] Permission denied: ".toList ++ name.quoted))
    | other => return .error (.system other.toString.toList)

partial def readAll (stream : IO.FS.Stream) (read : String) : IO String := do
  let line ← stream.getLine
  if line.isEmpty then return read else readAll stream (read ++ line)

partial def converse (settings : Settings Unit) (gathered : List Text) (machine : Machine Unit)
    (input : IO.FS.Stream) : IO UInt32 := do
  print [.output (Console.prompt gathered)]
  (← IO.getStdout).flush
  let typed ← input.getLine
  if typed.isEmpty then
    print [.output ['\n']]
    return 0
  let line := typed.toList.takeWhile (· != '\n')
  match Console.respond settings fuel gathered machine line with
  | none => return 1
  | some (printed, standing) => do
      print printed
      match standing with
      | .open gathered machine => converse settings gathered machine input
      | .closed => return 0
      | .broken failure => do
          IO.eprintln (String.ofList failure.message)
          return 1

def seconds : IO Rat := do
  let exact := mkRat (← IO.monoNanosNow) 1000000000
  return (Binary64.nearest? exact).getD exact

def perform (surroundings : CommandLine.Surroundings) : CommandLine.Plan → IO UInt32
  | .done printed status => do
      print printed
      return status.toUInt32
  | .broken failure => do
      IO.eprintln (String.ofList failure.message)
      return 1
  | .console options => do
      let settings := CommandLine.settings surroundings options CommandLine.consoleName
      print [.outputLine Console.banner]
      converse settings [] (CommandLine.machine.enterProgram settings) (← IO.getStdin)
  | .program options filename source => do
      let settings := CommandLine.settings surroundings options filename
      let started ← seconds
      let (_, entered) := Machine.start settings CommandLine.machine
      match Machine.runSource settings fuel source entered with
      | none => return 1
      | some ending => do
          let observed :=
            { settings with handlers := CommandLine.handlers options [started, ← seconds] }
          let (printed, status) := CommandLine.conclude options (Machine.finish observed ending)
          print printed
          match status with
          | .ok status => return status.toUInt32
          | .error failure => do
              IO.eprintln (String.ofList failure.message)
              return 1

end BareBones.Main

open BareBones in
def main (arguments : List String) : IO UInt32 := do
  let words := arguments.map String.toList
  let stdin ← IO.getStdin
  let isTerminal ← stdin.isTty
  let program := match Options.read words with
    | .start options => if options.literal then none else some options.program
    | _ => none
  let input ← match program with
    | some none => if isTerminal then pure "" else BareBones.Main.readAll stdin ""
    | some (some ['-']) => BareBones.Main.readAll stdin ""
    | _ => pure ""
  let file ← match program with
    | some (some name) => BareBones.Main.readFile name
    | _ => pure (.error .notFound)
  let directory := (← IO.currentDir).toString.toList
  let surroundings : CommandLine.Surroundings :=
    { fileContent := fun _ => file, input := input.toList, isTerminal, directory }
  BareBones.Main.perform surroundings (CommandLine.plan surroundings words)
