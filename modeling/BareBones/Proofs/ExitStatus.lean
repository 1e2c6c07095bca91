import BareBones.Proofs.Bookmarks
import BareBones.Proofs.Interruption
import BareBones.Proofs.Spellings

set_option autoImplicit false

namespace BareBones

section

variable {ε α β : Type}

theorem each_breaks {change : α → Except ε β} {broken : ε} {fits : α → Prop} (items : List α)
    (answers : ∀ item ∈ items, fits item → ∃ result, change item = .ok result)
    (breaks : ∀ item ∈ items, ¬ fits item → change item = .error broken)
    (unfit : ¬ ∀ item ∈ items, fits item) : items.mapM change = .error broken := by
  induction items with
  | nil => exact absurd (fun _ member => absurd member List.not_mem_nil) unfit
  | cons item rest ih =>
      rw [List.mapM_cons]
      by_cases first : fits item
      · obtain ⟨result, answered⟩ := answers item List.mem_cons_self first
        have later : ¬ ∀ other ∈ rest, fits other := by
          intro all
          exact unfit (List.forall_mem_cons.mpr ⟨first, all⟩)
        rw [answered, ih (fun other member => answers other (List.mem_cons_of_mem _ member))
          (fun other member => breaks other (List.mem_cons_of_mem _ member)) later]
        rfl
      · rw [breaks item List.mem_cons_self first]
        rfl

end

theorem Value.summary_breaks (value : Value) (long : ¬ value.isWritable = true) :
    value.summary = .error .longInteger := by
  cases value with
  | int n =>
      have short : ¬ Numeral.isWritable n = true := long
      rw [summary, written, Numeral.write, if_neg short]
      rfl
  | text _ => exact absurd rfl long

theorem Scope.snapshot_breaks (scope : Scope)
    (long : ¬ ∀ binding ∈ scope.values, binding.2.isWritable = true) :
    scope.snapshot = .error .longInteger := by
  unfold snapshot
  refine each_breaks scope.values ?_ ?_ long
  · intro binding _ writable
    obtain ⟨text, answered⟩ := binding.2.summary_answers writable
    exact ⟨(binding.1, text), congrArg (Except.map (binding.1, ·)) answered⟩
  · intro binding _ unwritable
    exact congrArg (Except.map (binding.1, ·)) (binding.2.summary_breaks unwritable)

namespace Traceback

variable {σ : Type}

theorem frames_break {machine : Machine σ} (long : ¬ machine.Writable) :
    frames machine = .error .longInteger := by
  have reversed : ¬ ∀ live ∈ machine.stack.reverse, ∀ scope ∈ machine.store.scopeAt? live.path,
      ∀ binding ∈ scope.values, binding.2.isWritable = true :=
    fun all => long fun live member => all live (List.mem_reverse.mpr member)
  refine each_breaks machine.stack.reverse (fun live _ => frame_answers machine live) ?_ reversed
  intro live _ unwritable
  have broken : machine.store.snapshot live.path = .error .longInteger := by
    cases present : machine.store.scopeAt? live.path with
    | none =>
        rw [present] at unwritable
        exact absurd (fun _ absent => nomatch absent) unwritable
    | some scope =>
        rw [Store.snapshot, present]
        refine scope.snapshot_breaks fun all => unwritable ?_
        rw [present]
        rintro _ ⟨⟩
        exact all
  rw [frame, broken]
  rfl

theorem report_names (machine : Machine σ) (verbose withJson : Bool) (fault : Fault)
    (writable : verbose = true ∨ withJson = true → machine.Writable) :
    ∃ reported, report machine verbose withJson fault = (reported, .ok ()) ∧
      .errorLine (short fault) ∈ reported := by
  have rendered : verbose = true ∨ withJson = true → ∃ shown, frames machine = .ok shown :=
    fun shows => (Machine.frames_pictures (writable shows)).imp fun _ framed => framed.1
  cases verbose with
  | true =>
      obtain ⟨shown, framed⟩ := rendered (.inl rfl)
      cases withJson <;> simp [report, text, json, framed, Except.map]
  | false =>
      cases withJson with
      | true =>
          obtain ⟨shown, framed⟩ := rendered (.inr rfl)
          simp [report, json, framed, Except.map]
      | false => simp [report]

theorem report_breaks (machine : Machine σ) (verbose withJson : Bool) (fault : Fault)
    (shows : verbose = true ∨ withJson = true) (long : ¬ machine.Writable) :
    ∃ reported, report machine verbose withJson fault = (reported, .error .longInteger) := by
  have framed := frames_break long
  cases verbose with
  | true => exact ⟨[], by simp [report, text, framed, Except.map]⟩
  | false =>
      cases withJson with
      | true => exact ⟨_, by simp [report, json, framed, Except.map]; rfl⟩
      | false => simp at shows

end Traceback

namespace CommandLine

theorem handlers_cases (options : Options) (clock : List Rat) :
    handlers options clock = .empty ∨
      ∃ started finished, handlers options clock = Timer.registry started finished := by
  unfold handlers
  split
  · split
    · exact .inr ⟨_, _, rfl⟩
    · exact .inl rfl
  · exact .inl rfl

theorem handlers_unheard (options : Options) (clock : List Rat) {event : Event}
    (other : event ≠ .programEnd) : (handlers options clock).of event = [] := by
  rcases handlers_cases options clock with none | ⟨started, finished, timed⟩
  · rw [none]
    rfl
  · rw [timed]
    cases event with
    | programEnd => exact absurd rfl other
    | _ => rfl

def attended (surroundings : Surroundings) (clock : List Rat) (options : Options) (file : Text) :
    Settings Unit :=
  { settings surroundings options file with handlers := handlers options clock }

theorem announce_ended (surroundings : Surroundings) (clock : List Rat) (options : Options) (file : Text)
    (machine : Machine Unit) :
    (∃ after, Machine.announce (attended surroundings clock options file) (.programEnd 0) machine =
        (.ok (), after)) ∨
      ∃ fault after, Machine.announce (attended surroundings clock options file) (.programEnd 0) machine =
        (.error (.fault fault), after) := by
  rcases handlers_cases options clock with none | ⟨started, finished, timed⟩
  · refine .inl ⟨machine, Machine.announce_unheard _ (.programEnd 0) machine ?_⟩
    rw [show (attended surroundings clock options file).handlers = .empty from none]
    rfl
  · unfold Machine.announce Registry.notify
    rw [show (attended surroundings clock options file).handlers = Timer.registry started finished from timed,
      show (Timer.registry started finished).of (Notice.programEnd 0).event =
        [⟨0, Timer.handler started finished⟩] from rfl]
    unfold Registry.callAll Timer.handler
    cases Timer.milliseconds? started finished with
    | some _ => exact .inl ⟨_, rfl⟩
    | none => exact .inr ⟨_, _, rfl⟩

theorem run_outcome {surroundings : Surroundings} {clock : List Rat} {options : Options} {file : Text}
    {fuel : Nat} {source : Text} {before after : Machine Unit} {result : Except Failure Unit}
    (ran : Machine.run (attended surroundings clock options file) fuel source before =
      some (result, after)) : result = .ok () ∨ ∃ fault, result = .error (.fault fault) := by
  have unheard : ∀ notice : Notice, notice.event ≠ .programEnd →
      (attended surroundings clock options file).handlers.of notice.event = [] :=
    fun notice other => handlers_unheard options clock other
  unfold Machine.run Machine.start at ran
  rw [Machine.announce_unheard _ _ _ (unheard (.programStart _) nofun)] at ran
  obtain ⟨⟨outcome, last⟩, _, finished⟩ := Option.map_eq_some_iff.mp ran
  cases outcome with
  | error failure =>
      unfold Machine.finish Machine.fail at finished
      dsimp only at finished
      rw [Machine.announce_unheard _ _ _ (unheard (.onError _) nofun)] at finished
      cases finished
      exact .inr ⟨_, rfl⟩
  | ok _ =>
      unfold Machine.finish Machine.succeed at finished
      dsimp only at finished
      rcases announce_ended surroundings clock options file last with ⟨told, same⟩ | ⟨fault, told, same⟩
      · rw [same] at finished
        cases finished
        exact .inl rfl
      · rw [same] at finished
        cases finished
        exact .inr ⟨fault, rfl⟩

structure Comes (surroundings : Surroundings) (file : Text) (arguments : List Text) (source : Text) :
    Prop where
  told : Options.untold? arguments = none
  decoded : ∃ bytes, surroundings.fileContent file = .ok bytes ∧ decodeSource bytes = .ok source

def runFile (surroundings : Surroundings) (clock : List Rat) (fuel : Nat) (flags : List Text)
    (file : Text) (arguments : List Text) (source : Text) : Option (Machine.Ending Unit) :=
  let options := Options.filed flags file arguments
  Machine.run (attended surroundings clock options file) fuel source machine

def Shows (flags : List Text) : Prop :=
  "-d".toList ∈ flags ∨ "--traceback-json".toList ∈ flags

-- How a command ends that runs a file: with what is printed, and with an exit status or a failure that
-- escapes it. The last four are the ways by which it ends with neither 0 nor 1.
inductive Exits (surroundings : Surroundings) (clock : List Rat) (fuel : Nat) (flags : List Text)
    (file : Text) (arguments : List Text) : Option (List Printed × Except Failure Nat) → Prop
  | endless {source : Text} (comes : Comes surroundings file arguments source)
      (starved : runFile surroundings clock fuel flags file arguments source = none) :
      Exits surroundings clock fuel flags file arguments none
  | succeeded {source : Text} {after : Machine Unit} (comes : Comes surroundings file arguments source)
      (ran : runFile surroundings clock fuel flags file arguments source = some (.ok (), after)) :
      Exits surroundings clock fuel flags file arguments (some (after.printed ++
        (if "-d".toList ∈ flags then [.errorLine "debug: Done".toList] else []), .ok 0))
  | failed {source : Text} {fault : Fault} {after : Machine Unit} {reported : List Printed}
      (comes : Comes surroundings file arguments source)
      (ran : runFile surroundings clock fuel flags file arguments source =
        some (.error (.fault fault), after))
      (writable : Shows flags → after.Writable)
      (named : .errorLine (Traceback.short fault) ∈ reported) :
      Exits surroundings clock fuel flags file arguments (some (after.printed ++ reported, .ok 1))
  | unread {reason : FileError} {text : Text} (told : Options.untold? arguments = none)
      (missing : surroundings.fileContent file = .error reason) (reports : reason.report file = .ok text) :
      Exits surroundings clock fuel flags file arguments (some ([.errorLine
        ("error: Invalid input: couldn't read source file ".toList ++ file.cited ++ ": ".toList ++ text)], .ok 1))
  | unnamable (told : Options.untold? arguments = none)
      (missing : surroundings.fileContent file = .error .nullInName) :
      Exits surroundings clock fuel flags file arguments (some ([], .error (.breakdown .nullInName)))
  | undecodable {bytes : List UInt8} {flaw : Text.Utf8.Flaw} (told : Options.untold? arguments = none)
      (content : surroundings.fileContent file = .ok bytes)
      (flawed : Text.Utf8.decode bytes = .error flaw) :
      Exits surroundings clock fuel flags file arguments
        (some ([], .error (.breakdown (.undecodable flaw))))
  | unreportable {source : Text} {fault : Fault} {after : Machine Unit} {printed : List Printed}
      (comes : Comes surroundings file arguments source)
      (ran : runFile surroundings clock fuel flags file arguments source =
        some (.error (.fault fault), after))
      (shows : Shows flags) (long : ¬ after.Writable) :
      Exits surroundings clock fuel flags file arguments
        (some (printed, .error (.breakdown .longInteger)))
  | ambiguous {word : Text} (untold : Options.untold? arguments = some word) :
      Exits surroundings clock fuel flags file arguments (some ([.error usage, .errorLine
        ("bare: error: ".toList ++ (Misuse.ambiguous word (Options.rivals word)).message)], .ok 2))

section

variable {surroundings : Surroundings} {clock : List Rat} {fuel : Nat} {flags : List Text}
  {file source : Text} {arguments : List Text}

theorem filed_verbose (flags : List Text) (file : Text) (arguments : List Text) :
    (Options.filed flags file arguments).verbose = true ↔ "-d".toList ∈ flags := by
  simp [Options.filed, Options.heeding, Options.initial]

theorem filed_shows : (Options.filed flags file arguments).verbose = true ∨
    (Options.filed flags file arguments).tracebackJson = true ↔ Shows flags := by
  simp [Options.filed, Options.heeding, Options.initial, Shows]

theorem conclude_exits {ending : Machine.Ending Unit} (comes : Comes surroundings file arguments source)
    (ran : runFile surroundings clock fuel flags file arguments source = some ending) :
    Exits surroundings clock fuel flags file arguments
      (some (conclude (Options.filed flags file arguments) ending)) := by
  obtain ⟨result, after⟩ := ending
  rcases run_outcome ran with rfl | ⟨fault, rfl⟩
  · have ended := Exits.succeeded comes ran
    simp only [← filed_verbose flags file arguments] at ended
    exact ended
  · by_cases writable : Shows flags → after.Writable
    · obtain ⟨reported, made, named⟩ := Traceback.report_names after _ _ fault
        (fun shows => writable (filed_shows.mp shows))
      rw [conclude, made]
      exact .failed comes ran writable named
    · obtain ⟨shows, long⟩ := Classical.not_imp.mp writable
      obtain ⟨reported, made⟩ := Traceback.report_breaks after _ _ fault (filed_shows.mpr shows) long
      rw [conclude, made]
      exact .unreportable comes ran shows long

end

theorem plan_filed (surroundings : Surroundings) (flags : List Text) (file : Text)
    (arguments : List Text) (named : file.head? ≠ some '-') :
    planProgram surroundings (Options.filed flags file arguments) =
      match surroundings.fileContent file with
      | .ok bytes =>
          match decodeSource bytes with
          | .ok source => .program (Options.filed flags file arguments) file source
          | .error failure => .broken failure
      | .error reason =>
          match reason.report file with
          | .ok text =>
              .done [.errorLine ("error: Invalid input: couldn't read source file ".toList ++
                file.cited ++ ": ".toList ++ text)] 1
          | .error failure => .broken failure := by
  have other : (file == "-".toList) = false := by
    refine beq_eq_false_iff_ne.mpr ?_
    rintro rfl
    exact named rfl
  unfold planProgram
  dsimp only [Options.filed, Options.heeding, Options.initial]
  rw [other]
  rfl

-- A command with a file on it ends with 0 if the program succeeds, and with 1 and a report if the file
-- cannot be read or the program fails. What else can happen is one of four ways.
theorem exit_status (surroundings : Surroundings) (clock : List Rat) (fuel : Nat) (flags : List Text)
    (file : Text) (arguments : List Text) (watched : ∀ flag ∈ flags, flag ∈ Options.watching)
    (named : file.head? ≠ some '-') :
    Exits surroundings clock fuel flags file arguments
      (run surroundings clock fuel (flags ++ file :: arguments)) := by
  unfold run plan
  rw [Options.read_filed flags file arguments watched named]
  cases told : Options.untold? arguments with
  | some word => exact .ambiguous told
  | none =>
      dsimp only
      rw [plan_filed surroundings flags file arguments named]
      cases content : surroundings.fileContent file with
      | error reason =>
          dsimp only
          cases reason with
          | nullInName => exact .unnamable told content
          | _ => exact .unread told content rfl
      | ok bytes =>
          dsimp only
          cases decoded : Text.Utf8.decode bytes with
          | error flaw =>
              rw [decodeSource, decoded]
              exact .undecodable told content decoded
          | ok text =>
              have source : decodeSource bytes = .ok text.unifyBreaks := by rw [decodeSource, decoded]
              have comes : Comes surroundings file arguments text.unifyBreaks :=
                ⟨told, bytes, content, source⟩
              rw [source]
              change Exits surroundings clock fuel flags file arguments
                ((runFile surroundings clock fuel flags file arguments text.unifyBreaks).map (conclude _))
              cases ran : runFile surroundings clock fuel flags file arguments text.unifyBreaks with
              | none => exact .endless comes ran
              | some ending => exact conclude_exits comes ran

def around (bytes : List UInt8) : Surroundings :=
  ⟨fun _ => .ok bytes, [], false, "/".toList⟩

def counting : List UInt8 :=
  [0x69, 0x6e, 0x63, 0x72, 0x20, 0x58]

def loudly : List Text :=
  ["-d".toList, "--traceback-json".toList]

theorem exit_status_failing : (∀ flag ∈ loudly, flag ∈ Options.watching) ∧
    "f.bb".toList.head? ≠ some '-' ∧ ∃ printed fault,
      run (around counting) [] 9 (loudly ++ "f.bb".toList :: ["-h".toList]) = some (printed, .ok 1) ∧
        .errorLine (Traceback.short fault) ∈ printed := by
  have watched : ∀ flag ∈ loudly, flag ∈ Options.watching := by decide
  have outline : (run (around counting) [] 9 (loudly ++ "f.bb".toList :: ["-h".toList])).map (·.2) =
      some (.ok 1) := by
    decide +kernel
  obtain ⟨⟨printed, result⟩, held, rfl⟩ := Option.map_eq_some_iff.mp outline
  refine ⟨watched, by decide, printed, ?_⟩
  have exits := exit_status (around counting) [] 9 loudly "f.bb".toList ["-h".toList] watched (by decide)
  rw [held] at exits
  cases exits with
  | @failed _ fault after reported _ _ _ named =>
      exact ⟨fault, held, List.mem_append_right after.printed named⟩
  | unread _ missing _ => cases missing

def latin : List UInt8 :=
  [0x70, 0x72, 0x69, 0x6e, 0x74, 0x20, 0xe9]

-- A file that is no UTF-8 is not reported: the failure escapes the command.
theorem undecodable_escapes : run (around latin) [] 9 ["latin.bb".toList] =
    some ([], .error (.breakdown (.undecodable ⟨.unexpectedEnd, 0xe9, 6, 1⟩))) := by
  decide +kernel

end CommandLine
end BareBones
