import BareBones.Console
import BareBones.Options
import BareBones.Pathname
import BareBones.Timer

set_option autoImplicit false

namespace BareBones.CommandLine

def usage : Text :=
  ("usage: bare [-h] [-source] [-d] [-t] [-v] [--traceback-json] [--max-depth N]\n" ++
   "            [program] ...\n").toList

def helpText : Text :=
  usage ++
  ("\nInterpreter for the Bare Bones programming language\n" ++
   "\npositional arguments:\n" ++
   "  program            Source file path, '-' for stdin, or literal source with\n" ++
   "                     -source\n" ++
   "  args               Program arguments, available as #1, #2, ...\n" ++
   "\noptions:\n" ++
   "  -h, --help         show this help message and exit\n" ++
   "  -source, --source  Treat program argument as literal source text\n" ++
   "  -d, --debug        Trace execution and show which line produced every output\n" ++
   "  -t, --time         Measure how long the program took to run\n" ++
   "  -v, --version      show program's version number and exit\n" ++
   "  --traceback-json   Also emit JSON traceback\n" ++
   "  --max-depth N      Maximum nesting of loop, branch and function invocations\n" ++
   "\nProvide a file to run, '-' to read the program from stdin, or pipe a program\n" ++
   "through stdin.\n").toList

def version : Text := "0.0.1".toList

-- Why a file cannot be read. What the system says of any other failure is taken from it, and a name that
-- holds the null character names no file at all.
inductive FileError where
  | notFound
  | isDirectory
  | system (text : Text)
  | nullInName
deriving DecidableEq, Repr

def FileError.report (name : Text) : FileError → Except Failure Text
  | .notFound => .ok ("[Errno 2] No such file or directory: ".toList ++ name.quoted)
  | .isDirectory => .ok ("[Errno 21] Is a directory: ".toList ++ name.quoted)
  | .system text => .ok text
  | .nullInName => .error (.breakdown .nullInName)

structure Surroundings where
  fileContent : Text → Except FileError (List UInt8)
  input : Text
  isTerminal : Bool
  directory : Text

inductive Plan where
  | done (printed : List Printed) (status : Nat)
  | broken (failure : Failure)
  | console (options : Options)
  | program (options : Options) (filename source : Text)

def decodeSource (bytes : List UInt8) : Except Failure Text :=
  match Text.Utf8.decode bytes with
  | .ok text => .ok text.unifyBreaks
  | .error flaw => .error (.breakdown (.undecodable flaw))

def planProgram (surroundings : Surroundings) (options : Options) : Plan :=
  let piped := surroundings.input.unifyBreaks
  match options.program with
  | none =>
      if options.literal then
        .done [.errorLine "-source requires a program string".toList] 1
      else if surroundings.isTerminal then .console options
      else .program options "<stdin>".toList piped
  | some program =>
      if options.literal then .program options "<string>".toList program
      else if program == "-".toList then .program options "<stdin>".toList piped
      else
        match surroundings.fileContent program with
        | .ok bytes =>
            match decodeSource bytes with
            | .ok source => .program options program source
            | .error failure => .broken failure
        | .error reason =>
            match reason.report program with
            | .ok text =>
                .done [.errorLine ("error: Invalid input: couldn't read source file ".toList ++
                  program.cited ++ ": ".toList ++ text)] 1
            | .error failure => .broken failure

def plan (surroundings : Surroundings) (words : List Text) : Plan :=
  match Options.read words with
  | .help => .done [.output helpText] 0
  | .version => .done [.outputLine version] 0
  | .misuse misuse =>
      .done [.error usage, .errorLine ("bare: error: ".toList ++ misuse.message)] 2
  | .start options => planProgram surroundings options

def handlers (options : Options) : List Rat → Registry (Handler Unit)
  | started :: finished :: _ =>
      if options.timed then Timer.registry started finished else .empty
  | _ => .empty

def settings (surroundings : Surroundings) (options : Options) (filename : Text) : Settings Unit :=
  { filename := Pathname.display surroundings.directory filename
    program := Pathname.program filename
    verbose := options.verbose
    arguments := options.arguments
    maxDepth := options.maxDepth
    handlers := .empty }

def journalCapacity : Nat := 1000

def machine : Machine Unit :=
  .fresh (.empty journalCapacity) ()

def consoleName : Text := "<repl>".toList

def conclude (options : Options) : Machine.Ending Unit → List Printed × Except Failure Nat
  | (.ok (), after) =>
      let done := if options.verbose then [.errorLine "debug: Done".toList] else []
      (after.printed ++ done, .ok 0)
  | (.error (.fault fault), after) =>
      let (reported, result) :=
        Traceback.report after options.verbose options.tracebackJson fault
      (after.printed ++ reported, (result.map fun _ => 1).mapError .breakdown)
  | (.error failure, after) => (after.printed, .error failure)

def inputLines (input : Text) : List Text :=
  let rec lines (current : Text) : Text → List Text
    | [] => if current.isEmpty then [] else [current.reverse]
    | c :: rest => if c == '\n' then current.reverse :: lines [] rest else lines (c :: current) rest
  lines [] input.unifyBreaks

-- Runs a command. `clock` holds the readings of the clock in the order in which they are taken: one when a
-- timed program starts, and one when it has ended.
def run (surroundings : Surroundings) (clock : List Rat) (fuel : Nat) (words : List Text) :
    Option (List Printed × Except Failure Nat) :=
  match plan surroundings words with
  | .done printed status => some (printed, .ok status)
  | .broken failure => some ([], .error failure)
  | .console options =>
      let typed := inputLines surroundings.input
      (Console.session (settings surroundings options consoleName) fuel machine typed).map
        fun (printed, result) => (printed, result.map fun _ => 0)
  | .program options filename source =>
      let observed :=
        { settings surroundings options filename with handlers := handlers options clock }
      (Machine.run observed fuel source machine).map (conclude options)

end BareBones.CommandLine
