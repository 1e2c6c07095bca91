import BareBones.Console
import BareBones.Proofs.Refinement
import BareBones.Proofs.Refusal

set_option autoImplicit false

namespace BareBones

section

variable {α β : Type} {compute : Nat → Option α} {next : α → Nat → Option β} {a : α} {b : β}

theorem yields_same (a : α) : Yields (fun _ => some a) a :=
  ⟨⟨0, fun _ _ => rfl⟩, fun _ _ same => (Option.some.inj same).symm⟩

theorem yields_bind (first : Yields compute a) (second : Yields (next a) b) :
    Yields (fun fuel => (compute fuel).bind fun found => next found fuel) b := by
  obtain ⟨⟨early, computes⟩, only⟩ := first
  obtain ⟨⟨late, goes⟩, unique⟩ := second
  constructor
  · refine ⟨max early late, fun fuel bound => ?_⟩
    simp only [computes fuel (by omega), Option.bind_some, goes fuel (by omega)]
  · intro fuel other found
    obtain ⟨middle, answered, rest⟩ := Option.bind_eq_some_iff.mp found
    rw [only fuel middle answered] at rest
    exact unique fuel other rest

theorem yields_map (change : α → β) (yields : Yields compute a) :
    Yields (fun fuel => (compute fuel).map change) (change a) := by
  obtain ⟨⟨enough, computes⟩, only⟩ := yields
  constructor
  · refine ⟨enough, fun fuel bound => ?_⟩
    dsimp only
    rw [computes fuel bound]
    rfl
  · intro fuel other found
    obtain ⟨middle, answered, rfl⟩ := Option.map_eq_some_iff.mp found
    rw [only fuel middle answered]

theorem diverges_bind (first : Yields compute a) (second : Diverges (next a)) :
    Diverges (fun fuel => (compute fuel).bind fun found => next found fuel) := by
  intro fuel
  dsimp only
  cases answered : compute fuel with
  | none => rfl
  | some middle =>
      rw [first.2 fuel middle answered]
      exact second fuel

end

namespace Traceback

variable {σ : Type}

theorem frames_numeric (machine : Machine σ) : Numeric (frames machine) :=
  numeric_each (frame machine)
    (fun live => numeric_map _ (Deed.snapshot_numeric machine.store live.path)) machine.stack.reverse

theorem report_cases (machine : Machine σ) (verbose : Bool) (fault : Fault) :
    (∃ reported, report machine verbose false fault = (reported, .ok ()) ∧
        .errorLine (short fault) ∈ reported) ∨
      ∃ reported broken, report machine verbose false fault = (reported, .error broken) ∧
        verbose = true ∧ broken.Numeric := by
  cases verbose with
  | false => exact .inl ⟨_, rfl, by simp⟩
  | true =>
      have numeric : Numeric (text machine true fault) := numeric_map _ (frames_numeric machine)
      cases rendered : text machine true fault with
      | ok shown =>
          refine .inl ⟨[.errorLine shown, .errorLine (short fault)], ?_, by simp⟩
          simp [report, rendered]
      | error broken =>
          refine .inr ⟨[], broken, ?_, rfl, numeric broken rendered⟩
          simp [report, rendered]

end Traceback

namespace Machine

variable {σ : Type} {settings : Settings σ}

theorem attended_alone {stack : List Frame} (alone : stack.length ≤ 1) : Attended stack := by
  cases stack with
  | nil => exact .nil
  | cons frame below =>
      cases below with
      | nil => exact .singleton frame
      | cons caller lower => simp at alone

theorem load_alone (settings : Settings σ) (source : Text) (machine : Machine σ)
    (alone : machine.stack.length ≤ 1) : (machine.load settings source).stack.length ≤ 1 := by
  unfold load setCursor
  split
  · exact alone
  · rename_i stands
    rw [stands] at alone
    exact alone

theorem source_ends {machine after : Machine σ} {source : Text} {fuel : Nat} {count : Int}
    {result : Except Failure Unit} (unobserved : settings.Unobserved)
    (limit : settings.maxDepth = .atMost count) (alone : machine.stack.length ≤ 1)
    (ran : runSource settings fuel source machine = some (result, after)) :
    (result = .ok () ∧ after.stack.length ≤ 1) ∨ (∃ fault, result = .error (.fault fault)) ∨
      ∃ broken, result = .error (.breakdown broken) ∧ (broken = .longLimit ∨ broken.Numeric) := by
  obtain ⟨last, path, ended⟩ := drive_ends settings fuel _ after result ran
  cases result with
  | ok _ =>
      obtain ⟨rfl, alone⟩ := step_ended unobserved ended
      exact .inl ⟨rfl, alone⟩
  | error failure =>
      have attended := reaches_attended unobserved path
        (attended_alone (load_alone settings source machine alone))
      obtain ⟨here, _, blame⟩ := fails_blame unobserved ended attended
      rcases Deed.blame_cases blame with ⟨place, cause, _, rfl⟩ | ⟨broken, rfl, blank | numeric⟩
      · exact .inr (.inl ⟨_, rfl⟩)
      · rw [limit] at blank
        cases blank
      · exact .inr (.inr ⟨broken, rfl, numeric⟩)

theorem unwind_alone (machine : Machine σ) : machine.unwind.stack.length ≤ 1 := by
  unfold unwind
  cases machine.stack.getLast? <;> simp

end Machine

namespace Console

open Machine

def entries (gathered : List Text) : List Text → List Text
  | [] => []
  | line :: rest =>
      match react gathered line with
      | .quit => []
      | .gather lines => entries lines rest
      | .enter source => source :: entries [] rest

def transcript (gathered : List Text) : List Text → List (List Printed) → List Printed
  | [], _ => [.output (prompt gathered), .output ['\n']]
  | line :: rest, answers =>
      .output (prompt gathered) ::
        match react gathered line, answers with
        | .gather lines, answers => transcript lines rest answers
        | .enter _, answer :: later => answer ++ transcript [] rest later
        | .enter _, [] | .quit, _ => []

def entry (settings : Settings Unit) (machine : Machine Unit) (source : Text) (fuel : Nat) :
    Option (Ending Unit) :=
  runSource settings fuel source { machine with written := [], traced := [] }

-- Entries are answered one after the other: what is printed for each, and the machine that is left.
inductive Served (settings : Settings Unit) :
    Machine Unit → List Text → List (List Printed) → Machine Unit → Prop
  | none (machine : Machine Unit) : Served settings machine [] [] machine
  | ran {machine after last : Machine Unit} {source : Text} {rest : List Text}
      {answers : List (List Printed)} (runs : Yields (entry settings machine source) (.ok (), after))
      (later : Served settings after rest answers last) :
      Served settings machine (source :: rest) (after.printed :: answers) last
  | reported {machine after last : Machine Unit} {source : Text} {fault : Fault} {rest : List Text}
      {answers : List (List Printed)} {report : List Printed}
      (fails : Yields (entry settings machine source) (.error (.fault fault), after))
      (reports : Traceback.report after settings.verbose false fault = (report, .ok ()))
      (names : .errorLine (Traceback.short fault) ∈ report)
      (later : Served settings after.unwind rest answers last) :
      Served settings machine (source :: rest) ((after.printed ++ report) :: answers) last

inductive Breaks (settings : Settings Unit) (machine : Machine Unit) (source : Text)
    (broken : Breakdown) : Prop
  | run {after : Machine Unit}
      (fails : Yields (entry settings machine source) (.error (.breakdown broken), after))
  | report {after : Machine Unit} {fault : Fault} {report : List Printed}
      (fails : Yields (entry settings machine source) (.error (.fault fault), after))
      (verbose : settings.verbose = true)
      (reports : Traceback.report after true false fault = (report, .error broken))

inductive Conducted (settings : Settings Unit) (machine : Machine Unit) (sources : List Text)
    (shown : List (List Printed) → List Printed)
    (held : Nat → Option (List Printed × Except Failure Unit)) : Prop
  | served {answers : List (List Printed)} {last : Machine Unit}
      (served : Served settings machine sources answers last)
      (yields : Yields held (shown answers, .ok ()))
  | endless {done rest : List Text} {source : Text} {answers : List (List Printed)}
      {stopped : Machine Unit} (split : sources = done ++ source :: rest)
      (served : Served settings machine done answers stopped)
      (diverges : Diverges (entry settings stopped source)) (starved : Diverges held)
  | broken {done rest : List Text} {source : Text} {answers : List (List Printed)}
      {stopped : Machine Unit} {broken : Breakdown} {printed : List Printed}
      (split : sources = done ++ source :: rest)
      (served : Served settings machine done answers stopped)
      (breaks : Breaks settings stopped source broken) (numeric : broken = .longLimit ∨ broken.Numeric)
      (yields : Yields held (printed, .error (.breakdown broken)))

variable {settings : Settings Unit} {machine : Machine Unit} {sources : List Text}
  {shown : List (List Printed) → List Printed}
  {held : Nat → Option (List Printed × Except Failure Unit)}

theorem conducted_after (front : List Printed)
    (conducted : Conducted settings machine sources shown held) :
    Conducted settings machine sources (fun answers => front ++ shown answers)
      (fun fuel => (held fuel).map fun (later, result) => (front ++ later, result)) := by
  cases conducted with
  | served served yields => exact .served served (yields_map _ yields)
  | endless split served diverges starved =>
      refine .endless split served diverges fun fuel => ?_
      rw [starved fuel]
      rfl
  | broken split served breaks numeric yields =>
      exact .broken split served breaks numeric (yields_map _ yields)

theorem conducted_bind {α : Type} {compute : Nat → Option α} {a : α}
    {next : α → Nat → Option (List Printed × Except Failure Unit)} (first : Yields compute a)
    (conducted : Conducted settings machine sources shown (next a)) :
    Conducted settings machine sources shown
      (fun fuel => (compute fuel).bind fun found => next found fuel) := by
  cases conducted with
  | served served yields => exact .served served (yields_bind first yields)
  | endless split served diverges starved =>
      exact .endless split served diverges (diverges_bind first starved)
  | broken split served breaks numeric yields =>
      exact .broken split served breaks numeric (yields_bind first yields)

theorem conducted_entry {before : Machine Unit} {source : Text} {answer : List Printed}
    {whole : List (List Printed) → List Printed}
    (serve : ∀ rest answers last, Served settings machine rest answers last →
      Served settings before (source :: rest) (answer :: answers) last)
    (shows : ∀ answers, whole (answer :: answers) = shown answers)
    (conducted : Conducted settings machine sources shown held) :
    Conducted settings before (source :: sources) whole held := by
  cases conducted with
  | served served yields =>
      rw [← shows] at yields
      exact .served (serve _ _ _ served) yields
  | @endless done rest later _ _ split served diverges starved =>
      exact .endless (congrArg (source :: ·) split) (serve _ _ _ served) diverges starved
  | broken split served breaks numeric yields =>
      exact .broken (congrArg (source :: ·) split) (serve _ _ _ served) breaks numeric yields

def answered (settings : Settings Unit) : Ending Unit → List Printed × Standing
  | (.ok (), after) => (after.printed, .open [] after)
  | (.error (.fault fault), after) =>
      let (reported, result) := Traceback.report after settings.verbose false fault
      match result with
      | .ok () => (after.printed ++ reported, .open [] after.unwind)
      | .error breakdown => (after.printed ++ reported, .broken (.breakdown breakdown))
  | (.error failure, after) => (after.printed, .broken failure)

theorem respond_enter (fuel : Nat) (gathered : List Text) (line source : Text)
    (entering : react gathered line = .enter source) :
    respond settings fuel gathered machine line =
      (entry settings machine source fuel).map (answered settings) := by
  unfold respond
  rw [entering]
  rfl

def onward (settings : Settings Unit) (gathered rest : List Text) :
    List Printed × Standing → Nat → Option (List Printed × Except Failure Unit)
  | (printed, .closed), _ => some (.output (prompt gathered) :: printed, .ok ())
  | (printed, .broken failure), _ => some (.output (prompt gathered) :: printed, .error failure)
  | (printed, .open lines after), fuel =>
      (converse settings fuel lines after rest).map fun (later, result) =>
        (.output (prompt gathered) :: printed ++ later, result)

theorem converse_line (fuel : Nat) (gathered rest : List Text) (line : Text) :
    converse settings fuel gathered machine (line :: rest) =
      (respond settings fuel gathered machine line).bind fun done =>
        onward settings gathered rest done fuel := by
  rw [converse]
  cases respond settings fuel gathered machine line with
  | none => rfl
  | some done =>
      obtain ⟨printed, standing⟩ := done
      cases standing <;> rfl

theorem entry_yields {ending : Ending Unit} {source : Text} {fuel : Nat}
    (runs : entry settings machine source fuel = some ending) :
    Yields (entry settings machine source) ending :=
  yields_of_more _ fuel ending (fun less more _ => drive_more settings less more _ _) runs

theorem enter_conducted {count : Int} (unobserved : settings.Unobserved)
    (limit : settings.maxDepth = .atMost count) {gathered rest : List Text} {line source : Text}
    (reaction : react gathered line = .enter source) (alone : machine.stack.length ≤ 1)
    (later : ∀ after : Machine Unit, after.stack.length ≤ 1 →
      Conducted settings after (entries [] rest) (transcript [] rest)
        (fun fuel => converse settings fuel [] after rest)) :
    Conducted settings machine (source :: entries [] rest) (transcript gathered (line :: rest))
      (fun fuel => converse settings fuel gathered machine (line :: rest)) := by
  simp only [converse_line, respond_enter _ _ _ _ reaction]
  by_cases ends : ∃ fuel ending, entry settings machine source fuel = some ending
  · obtain ⟨fuel, ⟨result, after⟩, runs⟩ := ends
    have yields := entry_yields runs
    have cleared : ({ machine with written := [], traced := [] } : Machine Unit).stack.length ≤ 1 := alone
    have shows : ∀ answer answers, transcript gathered (line :: rest) (answer :: answers) =
        .output (prompt gathered) :: answer ++ transcript [] rest answers := by
      intro answer answers
      simp [transcript, reaction]
    rcases source_ends unobserved limit cleared runs with
      ⟨rfl, left⟩ | ⟨fault, rfl⟩ | ⟨broken, rfl, numeric⟩
    · refine conducted_bind (yields_map (answered settings) yields) ?_
      exact conducted_entry (fun _ _ _ served => .ran yields served) (shows after.printed)
        (conducted_after _ (later after left))
    · have answers := yields_map (answered settings) yields
      simp only [answered] at answers
      rcases Traceback.report_cases after settings.verbose fault with
        ⟨report, reports, names⟩ | ⟨report, broken, reports, verbose, numeric⟩
      · rw [reports] at answers
        refine conducted_bind answers ?_
        exact conducted_entry (fun _ _ _ served => .reported yields reports names served)
          (shows (after.printed ++ report)) (conducted_after _ (later after.unwind (unwind_alone after)))
      · rw [reports] at answers
        rw [verbose] at reports
        refine conducted_bind answers ?_
        exact .broken rfl (.none machine) (.report yields verbose reports) (.inr numeric) (yields_same _)
    · refine conducted_bind (yields_map (answered settings) yields) ?_
      exact .broken rfl (.none machine) (.run yields) numeric (yields_same _)
  · have starved : Diverges (entry settings machine source) := by
      intro fuel
      rw [Option.eq_none_iff_forall_ne_some]
      exact fun ending runs => ends ⟨fuel, ending, runs⟩
    refine .endless rfl (.none machine) starved fun fuel => ?_
    rw [starved fuel]
    rfl

theorem converse_conducted {count : Int} (unobserved : settings.Unobserved)
    (limit : settings.maxDepth = .atMost count) (lines : List Text) :
    ∀ (gathered : List Text) (machine : Machine Unit), machine.stack.length ≤ 1 →
      Conducted settings machine (entries gathered lines) (transcript gathered lines)
        (fun fuel => converse settings fuel gathered machine lines) := by
  induction lines with
  | nil => exact fun gathered machine _ => .served (.none machine) (yields_same _)
  | cons line rest ih =>
      intro gathered machine alone
      cases reaction : react gathered line with
      | quit =>
          have responds : Yields (fun fuel => respond settings fuel gathered machine line)
              ([], .closed) := by
            simp only [respond, reaction]
            exact yields_same _
          simp only [converse_line]
          refine conducted_bind responds ?_
          simp only [entries, reaction]
          refine .served (.none machine) ?_
          simp only [transcript, reaction]
          exact yields_same _
      | gather later =>
          have responds : Yields (fun fuel => respond settings fuel gathered machine line)
              ([], .open later machine) := by
            simp only [respond, reaction]
            exact yields_same _
          simp only [converse_line]
          refine conducted_bind responds ?_
          have shows : transcript gathered (line :: rest) =
              fun answers => [.output (prompt gathered)] ++ transcript later rest answers := by
            funext answers
            simp [transcript, reaction]
          have makes : entries gathered (line :: rest) = entries later rest := by
            simp only [entries, reaction]
          rw [shows, makes]
          exact conducted_after _ (ih later machine alone)
      | enter source =>
          have makes : entries gathered (line :: rest) = source :: entries [] rest := by
            simp only [entries, reaction]
          rw [makes]
          exact enter_conducted unobserved limit reaction alone (ih [])

-- A session ends with the first `exit` outside of an entry or with the lines, whatever the entries are,
-- unless one of them runs for ever or meets an integer that cannot be read or written. Every entry that
-- fails is reported, and the ones after it are run.
theorem session_conducted (settings : Settings Unit) (count : Int) (capacity : Nat) (lines : List Text)
    (unobserved : settings.Unobserved) (limit : settings.maxDepth = .atMost count) :
    Conducted settings ((fresh (.empty capacity) ()).enterProgram settings) (entries [] lines)
      (fun answers => .outputLine banner :: transcript [] lines answers)
      (fun fuel => session settings fuel (fresh (.empty capacity) ()) lines) :=
  conducted_after [.outputLine banner]
    (converse_conducted unobserved limit lines [] _ (Nat.le_refl 1))

def typed : List Text :=
  ["print \x7bY\x7d".toList, "print ok".toList, "exit".toList, "print no".toList]

theorem session_conducted_typed : quiet.Unobserved ∧ quiet.maxDepth = .atMost 2 ∧
    ∃ answers last, Served quiet ((fresh (.empty 5) ()).enterProgram quiet)
        ["print \x7bY\x7d".toList, "print ok".toList] answers last ∧
      Yields (fun fuel => session quiet fuel (fresh (.empty 5) ()) typed)
        (.outputLine banner :: transcript [] typed answers, .ok ()) := by
  have outline : (session quiet 3 (fresh (.empty 5) ()) typed).map (·.2.toOption) = some (some ()) := by
    decide +kernel
  have made : entries [] typed = ["print \x7bY\x7d".toList, "print ok".toList] := by decide +kernel
  obtain ⟨⟨printed, result⟩, held, ended⟩ := Option.map_eq_some_iff.mp outline
  refine ⟨quiet_unobserved, rfl, ?_⟩
  cases session_conducted quiet 2 5 typed quiet_unobserved rfl with
  | @served answers last served yields =>
      rw [made] at served
      exact ⟨answers, last, served, yields⟩
  | endless _ _ _ starved => cases (starved 3).symm.trans held
  | broken _ _ _ _ yields =>
      cases yields.2 3 _ held
      cases ended

theorem superscript_breaks : ∃ printed,
    session quiet 3 (fresh (.empty 5) ()) ["print \x7b#²\x7d".toList, "print ok".toList] =
      some (printed, .error (.breakdown (.badLiteral "²".toList))) := by
  have outline : (session quiet 3 (fresh (.empty 5) ())
      ["print \x7b#²\x7d".toList, "print ok".toList]).map (·.2) =
        some (.error (.breakdown (.badLiteral "²".toList))) := by
    decide +kernel
  obtain ⟨⟨printed, result⟩, held, rfl⟩ := Option.map_eq_some_iff.mp outline
  exact ⟨printed, held⟩

end Console
end BareBones
