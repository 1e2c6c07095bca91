import BareBones.DepthLimit
import BareBones.Numeral

set_option autoImplicit false

namespace BareBones

inductive Flag where
  | help
  | literal
  | verbose
  | timed
  | version
  | tracebackJson
  | maxDepth
deriving DecidableEq, Repr

namespace Flag

def spellings : List (Text × Flag) := [
  ("-h".toList, .help), ("--help".toList, .help), ("-source".toList, .literal),
  ("--source".toList, .literal), ("-d".toList, .verbose), ("--debug".toList, .verbose),
  ("-t".toList, .timed), ("--time".toList, .timed), ("-v".toList, .version),
  ("--version".toList, .version), ("--traceback-json".toList, .tracebackJson),
  ("--max-depth".toList, .maxDepth)]

def ofSpelling? (spelling : Text) : Option Flag :=
  (spellings.find? (·.1 == spelling)).map (·.2)

def title (flag : Flag) : Text :=
  Text.join "/".toList ((spellings.filter (·.2 == flag)).map (·.1))

def takesValue : Flag → Bool
  | .maxDepth => true
  | _ => false

end Flag

inductive Misuse where
  | ambiguous (word : Text) (spellings : List Text)
  | needlessValue (flag : Flag) (value : Text)
  | missingValue (flag : Flag)
  | badInteger (flag : Flag) (value : Text)
  | unrecognized (words : List Text)
deriving DecidableEq, Repr

def Misuse.message : Misuse → Text
  | .ambiguous word spellings =>
      "ambiguous option: ".toList ++ word ++ " could match ".toList ++
        Text.join ", ".toList spellings
  | .needlessValue flag value =>
      "argument ".toList ++ flag.title ++ ": ignored explicit argument ".toList ++ value.quoted
  | .missingValue flag => "argument ".toList ++ flag.title ++ ": expected one argument".toList
  | .badInteger flag value =>
      "argument ".toList ++ flag.title ++ ": invalid int value: ".toList ++ value.quoted
  | .unrecognized words => "unrecognized arguments: ".toList ++ Text.join " ".toList words

structure Options where
  literal : Bool
  verbose : Bool
  timed : Bool
  tracebackJson : Bool
  maxDepth : DepthLimit
  program : Option Text
  arguments : List Text
deriving DecidableEq, Repr

def defaultMaxDepth : DepthLimit := .atMost 10000

def Options.initial : Options :=
  { literal := false, verbose := false, timed := false, tracebackJson := false
    maxDepth := defaultMaxDepth, program := none, arguments := [] }

inductive Invocation where
  | start (options : Options)
  | help
  | version
  | misuse (misuse : Misuse)
deriving DecidableEq, Repr

namespace Options

inductive Word where
  | mark
  | plain
  | option (flag : Flag) (spelling : Text) (value : Option Text)
  | unknown
deriving DecidableEq, Repr

def isNegativeNumber (word : Text) : Bool :=
  match word with
  | '-' :: body =>
      let body := if body.getLast? == some '\n' then body.dropLast else body
      let (whole, fraction) := Text.cutAt '.' body
      match fraction with
      | [] => !whole.isEmpty && whole.all Text.isDecimal
      | _ :: digits => whole.all Text.isDecimal && !digits.isEmpty && digits.all Text.isDecimal
  | _ => false

def candidates (word : Text) : List (Text × Word) :=
  match word with
  | '-' :: '-' :: _ =>
      let (spelled, joined) := Text.cutAt '=' word
      let value := if joined.isEmpty then none else some (joined.drop 1)
      Flag.spellings.filterMap fun (spelling, flag) =>
        if spelled.isPrefixOf spelling then
          some (spelling, .option flag spelling value)
        else none
  | _ =>
      Flag.spellings.filterMap fun (spelling, flag) =>
        if spelling == word.take 2 then
          some (spelling, .option flag spelling (some (word.drop 2)))
        else if word.isPrefixOf spelling then
          some (spelling, .option flag spelling none)
        else none

def classify (word : Text) : Except Misuse Word :=
  if word.head? != some '-' then .ok .plain
  else
    match Flag.ofSpelling? word with
    | some flag => .ok (.option flag word none)
    | none =>
        if word.length == 1 then .ok .plain
        else
          let (spelled, joined) := Text.cutAt '=' word
          match joined, Flag.ofSpelling? spelled with
          | _ :: value, some flag => .ok (.option flag spelled (some value))
          | _, _ =>
              match candidates word with
              | [] =>
                  if isNegativeNumber word || word.contains ' ' then .ok .plain else .ok .unknown
              | [(_, option)] => .ok option
              | several => .error (.ambiguous word (several.map (·.1)))

def classifyAll : List Text → Except Misuse (List (Text × Word))
  | [] => .ok []
  | word :: rest =>
      if word == "--".toList then .ok ((word, .mark) :: rest.map fun later => (later, .plain))
      else do
        let kind ← classify word
        return (word, kind) :: (← classifyAll rest)

-- Flags that share a dash: `flag`, and those whose letters are the text that is joined to it. A letter of
-- no flag makes the text from there on a value that the flag before it does not take.
def unbundle (flag : Flag) : Text → Except Misuse (List Flag)
  | [] => .error (.needlessValue flag [])
  | letter :: rest =>
      match Flag.ofSpelling? ['-', letter] with
      | none => .error (.needlessValue flag (letter :: rest))
      | some next =>
          if rest.isEmpty then .ok [flag, next] else (unbundle next rest).map (flag :: ·)

def applyFlags (options : Options) : List Flag → Except Invocation Options
  | [] => .ok options
  | .help :: _ => .error .help
  | .version :: _ => .error .version
  | .literal :: rest => applyFlags { options with literal := true } rest
  | .verbose :: rest => applyFlags { options with verbose := true } rest
  | .timed :: rest => applyFlags { options with timed := true } rest
  | .tracebackJson :: rest => applyFlags { options with tracebackJson := true } rest
  | .maxDepth :: rest => applyFlags options rest

-- Two dashes are taken out of a value before it is read, which leaves nothing of one that is just those.
def setDepth (options : Options) (value : Text) : Except Invocation Options :=
  if value == "--".toList then .ok { options with maxDepth := .blank }
  else
    match Numeral.readOption? value with
    | some depth => .ok { options with maxDepth := .atMost depth }
    | none => .error (.misuse (.badInteger .maxDepth value))

-- The program and its arguments: the program is the first word, and a mark before it or right after it is left out.
def positionals (options : Options) (words : List (Text × Word)) : Options :=
  let dropMark : List (Text × Word) → List (Text × Word)
    | (_, .mark) :: rest => rest
    | rest => rest
  match dropMark words with
  | [] => options
  | (program, _) :: rest =>
      { options with program := some program, arguments := (dropMark rest).map (·.1) }

def collect (options : Options) (extras : List Text) :
    List (Text × Word) → Except Invocation (Options × List Text)
  | [] => .ok (options, extras)
  | (word, .unknown) :: rest => collect options (extras ++ [word]) rest
  | (_, .option flag spelling (some value)) :: rest =>
      if flag.takesValue then do collect (← setDepth options value) extras rest
      else if spelling.take 2 == "--".toList then .error (.misuse (.needlessValue flag value))
      else
        -- All flags behind one dash are read before the first of them is applied.
        match unbundle flag value with
        | .error misuse => .error (.misuse misuse)
        | .ok flags => do collect (← applyFlags options flags) extras rest
  | (_, .option flag _ none) :: rest =>
      if flag.takesValue then
        match rest with
        | (value, .plain) :: others => do collect (← setDepth options value) extras others
        | _ => .error (.misuse (.missingValue flag))
      else do collect (← applyFlags options [flag]) extras rest
  -- The first word that is no option: from here on every word belongs to the program.
  | words => .ok (options.positionals words, extras)

def read (words : List Text) : Invocation :=
  match classifyAll words with
  | .error misuse => .misuse misuse
  | .ok classified =>
      match collect .initial [] classified with
      | .error invocation => invocation
      | .ok (options, []) => .start options
      | .ok (_, extras) => .misuse (.unrecognized extras)

end Options
end BareBones
