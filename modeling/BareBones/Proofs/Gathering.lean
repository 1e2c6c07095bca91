import BareBones.Proofs.Sessions

set_option autoImplicit false

namespace BareBones.Console

open Machine

def Blank (line : Text) : Prop := line.trim = []

def Opens (line : Text) : Prop := ∃ opener ∈ openers, opener <+: line.trim

def Exits (line : Text) : Prop := line.trim = "exit".toList

theorem opens_filled {line : Text} (opens : Opens line) : ¬Blank line := by
  obtain ⟨opener, member, starts⟩ := opens
  intro blank
  rw [blank, List.prefix_nil] at starts
  subst starts
  exact absurd member (by decide)

theorem exits_filled {line : Text} (exits : Exits line) : ¬Blank line := by
  intro blank
  cases blank.symm.trans exits

inductive Part where
  | idle (line : Text) (blank : Blank line)
  | single (line : Text) (filled : ¬Blank line) (plain : ¬Opens line) (stays : ¬Exits line)
  | block (first : Text) (inner : List Text) (closing : Text) (opens : Opens first)
      (filled : ∀ line ∈ inner, ¬Blank line) (closes : Blank closing)

namespace Part

def lines : Part → List Text
  | .idle line _ => [line]
  | .single line _ _ _ => [line]
  | .block first inner closing _ _ _ => (first :: inner) ++ [closing]

def entry? : Part → Option (List Text)
  | .idle _ _ => none
  | .single line _ _ _ => some [line]
  | .block first inner _ _ _ _ => some (first :: inner)

end Part

def entriesOf (parts : List Part) : List (List Text) := parts.filterMap Part.entry?

inductive Pending : List Text → Prop
  | nothing : Pending []
  | block {first : Text} {inner : List Text} (opens : Opens first) (filled : ∀ line ∈ inner, ¬Blank line) :
      Pending (first :: inner)

theorem pending_filled {gathered : List Text} (pending : Pending gathered) (line : Text)
    (member : line ∈ gathered) : ¬Blank line := by
  cases pending with
  | nothing => cases member
  | block opens filled =>
      rcases List.mem_cons.mp member with rfl | inside
      · exact opens_filled opens
      · exact filled line inside

theorem react_outside (line : Text) :
    (Exits line ∧ react [] line = .quit) ∨ (Blank line ∧ react [] line = .gather []) ∨
      (Opens line ∧ react [] line = .gather [line]) ∨
      (¬Blank line ∧ ¬Opens line ∧ ¬Exits line ∧ react [] line = .enter line) := by
  have opening : openers.any (·.isPrefixOf line.trim) = true ↔ Opens line := by
    simp [Opens, List.any_eq_true, List.isPrefixOf_iff_prefix]
  by_cases exits : Exits line
  · exact .inl ⟨exits, by simp [react, show line.trim = "exit".toList from exits]⟩
  · have stays : (line.trim == "exit".toList) = false := beq_eq_false_iff_ne.mpr exits
    by_cases blank : Blank line
    · exact .inr (.inl ⟨blank, by simp [react, show line.trim = [] from blank]⟩)
    · have filled : line.trim.isEmpty = false := by simpa [Blank] using blank
      by_cases opens : Opens line
      · refine .inr (.inr (.inl ⟨opens, ?_⟩))
        simp only [react, stays, filled, opening.mpr opens]
        rfl
      · refine .inr (.inr (.inr ⟨blank, opens, exits, ?_⟩))
        have plain : openers.any (·.isPrefixOf line.trim) = false := by
          simpa using mt opening.mp opens
        simp only [react, stays, filled, plain]
        rfl

theorem react_inside (first : Text) (inner : List Text) (line : Text) :
    (Blank line ∧ react (first :: inner) line = .enter (Text.join ['\n'] (first :: inner))) ∨
      (¬Blank line ∧ react (first :: inner) line = .gather (first :: inner ++ [line])) := by
  by_cases blank : Blank line
  · exact .inl ⟨blank, by simp [react, show line.trim = [] from blank]⟩
  · have filled : line.trim.isEmpty = false := by simpa [Blank] using blank
    exact .inr ⟨blank, by simp [react, filled]⟩

theorem react_quit (gathered : List Text) (line : Text) :
    react gathered line = .quit ↔ Exits line ∧ gathered = [] := by
  cases gathered with
  | nil =>
      rcases react_outside line with ⟨exits, reacts⟩ | ⟨blank, reacts⟩ | ⟨opens, reacts⟩ | ⟨_, _, stays, reacts⟩
      · simp [reacts, exits]
      · have stays : ¬Exits line := fun exits => exits_filled exits blank
        simp [reacts, stays]
      · have stays : ¬Exits line := by
          rintro exits
          obtain ⟨opener, member, starts⟩ := opens
          rw [show line.trim = "exit".toList from exits] at starts
          have apart : ∀ opener ∈ openers, ¬opener <+: "exit".toList := by decide
          exact apart opener member starts
        simp [reacts, stays]
      · simp [reacts, stays]
  | cons first inner =>
      rcases react_inside first inner line with ⟨_, reacts⟩ | ⟨_, reacts⟩ <;> simp [reacts]

section

variable {gathered later : List Text} {line source : Text}

theorem entered_part (pending : Pending gathered) (reacts : react gathered line = .enter source) :
    ∃ (part : Part) (typed : List Text), part.lines = gathered ++ [line] ∧ part.entry? = some typed ∧
      source = Text.join ['\n'] typed := by
  cases pending with
  | nothing =>
      rcases react_outside line with ⟨_, other⟩ | ⟨_, other⟩ | ⟨_, other⟩ | ⟨filled, plain, stays, same⟩
      · cases reacts.symm.trans other
      · cases reacts.symm.trans other
      · cases reacts.symm.trans other
      · cases reacts.symm.trans same
        exact ⟨.single line filled plain stays, [line], rfl, rfl, by simp [Text.join]⟩
  | @block first inner opens filled =>
      rcases react_inside first inner line with ⟨closes, same⟩ | ⟨_, other⟩
      · cases reacts.symm.trans same
        exact ⟨.block first inner line opens filled closes, first :: inner, rfl, rfl, rfl⟩
      · cases reacts.symm.trans other

theorem gathered_part (pending : Pending gathered) (reacts : react gathered line = .gather later) :
    (∃ part : Part, part.lines = gathered ++ [line] ∧ part.entry? = none ∧ later = []) ∨
      (later = gathered ++ [line] ∧ Pending later) := by
  cases pending with
  | nothing =>
      rcases react_outside line with ⟨_, other⟩ | ⟨blank, same⟩ | ⟨opens, same⟩ | ⟨_, _, _, other⟩
      · cases reacts.symm.trans other
      · cases reacts.symm.trans same
        exact .inl ⟨.idle line blank, rfl, rfl, rfl⟩
      · cases reacts.symm.trans same
        exact .inr ⟨rfl, .block opens nofun⟩
      · cases reacts.symm.trans other
  | @block first inner opens filled =>
      rcases react_inside first inner line with ⟨_, other⟩ | ⟨more, same⟩
      · cases reacts.symm.trans other
      · cases reacts.symm.trans same
        refine .inr ⟨rfl, .block opens fun found member => ?_⟩
        rcases List.mem_append.mp member with inside | last
        · exact filled found inside
        · exact List.mem_singleton.mp last ▸ more

end

structure Parted (parts : List Part) (read passed gathered : List Text) : Prop where
  lines : read = parts.flatMap Part.lines ++ gathered
  sources : passed = (entriesOf parts).map (Text.join ['\n'])
  pending : Pending gathered

section

variable {parts : List Part} {read passed gathered later : List Text} {line source : Text}

theorem parted_entered (parted : Parted parts read passed gathered) (reacts : react gathered line = .enter source) :
    ∃ more, Parted more (read ++ [line]) (passed ++ [source]) [] := by
  obtain ⟨part, typed, lines, makes, rfl⟩ := entered_part parted.pending reacts
  refine ⟨parts ++ [part], ?_, ?_, .nothing⟩
  · simp [parted.lines, lines]
  · simp [parted.sources, entriesOf, makes]

theorem parted_gathered (parted : Parted parts read passed gathered) (reacts : react gathered line = .gather later) :
    ∃ more, Parted more (read ++ [line]) passed later := by
  rcases gathered_part parted.pending reacts with ⟨part, lines, makes, rfl⟩ | ⟨rfl, pending⟩
  · refine ⟨parts ++ [part], ?_, ?_, .nothing⟩
    · simp [parted.lines, lines]
    · simp [parted.sources, entriesOf, makes]
  · exact ⟨parts, by simp [parted.lines], parted.sources, pending⟩

theorem all_filled {lines : List Text} (filled : ∀ line ∈ lines, ¬Blank line) :
    lines.filter (fun line => line.trim ≠ []) = lines :=
  List.filter_eq_self.mpr fun line member => decide_eq_true (filled line member)

theorem part_filled (part : Part) :
    part.lines.filter (fun line => line.trim ≠ []) = part.entry?.getD [] := by
  cases part with
  | idle line blank => simp [Part.lines, Part.entry?, show line.trim = [] from blank]
  | single line filled => simp [Part.lines, Part.entry?, show line.trim ≠ [] from filled]
  | block first inner closing opens filled closes =>
      have whole : (first :: inner).filter (fun line => line.trim ≠ []) = first :: inner :=
        all_filled (pending_filled (.block opens filled))
      rw [Part.lines, List.filter_append, whole]
      simp [Part.entry?, show closing.trim = [] from closes]

theorem parts_filled (parts : List Part) :
    (parts.flatMap Part.lines).filter (fun line => line.trim ≠ []) = (entriesOf parts).flatten := by
  induction parts with
  | nil => rfl
  | cons part rest ih =>
      rw [List.flatMap_cons, List.filter_append, part_filled, ih, entriesOf, entriesOf, List.filterMap_cons]
      cases part.entry? <;> rfl

theorem parted_once (parted : Parted parts read passed gathered) :
    (entriesOf parts).flatten ++ gathered = read.filter fun line => line.trim ≠ [] := by
  rw [parted.lines, List.filter_append, parts_filled, all_filled (pending_filled parted.pending)]

theorem part_block (part : Part) {typed : List Text} (makes : part.entry? = some typed)
    (several : 1 < typed.length ∨ ∃ line, typed = [line] ∧ Opens line) :
    ∃ first inner closing, typed = first :: inner ∧ Opens first ∧ part.lines = typed ++ [closing] ∧
      Blank closing := by
  cases part with
  | idle line blank => cases makes
  | single line filled plain stays =>
      cases makes
      rcases several with longer | ⟨other, same, opens⟩
      · exact absurd longer (by simp)
      · cases same
        exact absurd opens plain
  | block first inner closing opens filled closes =>
      cases makes
      exact ⟨first, inner, closing, rfl, opens, rfl, closes⟩

end

-- A session has read `read`, has run the entries `passed` one after the other, each in the machine that the
-- one before it has left, and has gathered `gathered`. Now the machine is `machine`.
inductive Reads (settings : Settings Unit) (start : Machine Unit) :
    List Text → List Text → List Text → Machine Unit → Prop
  | nothing : Reads settings start [] [] [] start
  | gathers {read passed gathered later : List Text} {machine : Machine Unit} {line : Text}
      (before : Reads settings start read passed gathered machine) (reacts : react gathered line = .gather later)
      (answers : Yields (fun fuel => respond settings fuel gathered machine line) ([], .open later machine)) :
      Reads settings start (read ++ [line]) passed later machine
  | enters {read passed gathered : List Text} {machine after : Machine Unit} {line source : Text}
      {ending : Ending Unit} {printed : List Printed} (before : Reads settings start read passed gathered machine)
      (reacts : react gathered line = .enter source) (runs : Yields (entry settings machine source) ending)
      (stands : answered settings ending = (printed, .open [] after))
      (answers : Yields (fun fuel => respond settings fuel gathered machine line) (printed, .open [] after)) :
      Reads settings start (read ++ [line]) (passed ++ [source]) [] after

inductive Ends (settings : Settings Unit) (start : Machine Unit) (lines : List Text)
    (held : Nat → Option (List Printed × Except Failure Unit)) : List Text → List Text → List Text → Prop
  | exhausted {passed gathered : List Text} {machine : Machine Unit} {printed : List Printed}
      (reads : Reads settings start lines passed gathered machine) (yields : Yields held (printed, .ok ())) :
      Ends settings start lines held lines passed gathered
  | quit {read passed gathered unread : List Text} {line : Text} {machine : Machine Unit} {printed : List Printed}
      (split : lines = read ++ line :: unread) (reads : Reads settings start read passed gathered machine)
      (closes : Yields (fun fuel => respond settings fuel gathered machine line) ([], .closed))
      (exits : Exits line) (nothing : gathered = []) (yields : Yields held (printed, .ok ())) :
      Ends settings start lines held read passed gathered
  | broken {read passed gathered unread : List Text} {line source : Text} {machine : Machine Unit}
      {ending : Ending Unit} {answer printed : List Printed} {failure : Failure}
      (split : lines = read ++ line :: unread) (reads : Reads settings start read passed gathered machine)
      (enters : react gathered line = .enter source) (runs : Yields (entry settings machine source) ending)
      (stands : answered settings ending = (answer, .broken failure))
      (breaks : Yields (fun fuel => respond settings fuel gathered machine line) (answer, .broken failure))
      (foreign : ∀ fault, failure ≠ .fault fault) (yields : Yields held (printed, .error failure)) :
      Ends settings start lines held (read ++ [line]) (passed ++ [source]) []
  | endless {read passed gathered unread : List Text} {line source : Text} {machine : Machine Unit}
      (split : lines = read ++ line :: unread) (reads : Reads settings start read passed gathered machine)
      (enters : react gathered line = .enter source) (diverges : Diverges (entry settings machine source))
      (starved : Diverges held) : Ends settings start lines held (read ++ [line]) (passed ++ [source]) []

section

variable {settings : Settings Unit} {start machine : Machine Unit}

theorem breakdown_foreign (broken : Breakdown) (fault : Fault) : Failure.breakdown broken ≠ .fault fault := by
  intro same
  cases same

theorem signal_foreign (signal : Signal) (fault : Fault) : Failure.signal signal ≠ .fault fault := by
  intro same
  cases same

theorem answered_standing (settings : Settings Unit) (ending : Ending Unit) :
    (∃ printed after, answered settings ending = (printed, .open [] after)) ∨
      ∃ printed failure, answered settings ending = (printed, .broken failure) ∧ ∀ fault, failure ≠ .fault fault := by
  obtain ⟨result, after⟩ := ending
  cases result with
  | ok done => exact .inl ⟨_, _, rfl⟩
  | error failure =>
      cases failure with
      | fault fault =>
          cases reports : Traceback.report after settings.verbose false fault with
          | mk reported result =>
              cases result with
              | ok shown => exact .inl ⟨after.printed ++ reported, after.unwind, by simp only [answered, reports]⟩
              | error broken =>
                  refine .inr ⟨after.printed ++ reported, .breakdown broken, ?_, breakdown_foreign broken⟩
                  simp only [answered, reports]
      | signal signal => exact .inr ⟨_, _, rfl, signal_foreign signal⟩
      | breakdown broken => exact .inr ⟨_, _, rfl, breakdown_foreign broken⟩

theorem respond_closed (settings : Settings Unit) (gathered : List Text) (machine : Machine Unit) (line : Text) :
    Yields (fun fuel => respond settings fuel gathered machine line) ([], .closed) ↔ Exits line ∧ gathered = [] := by
  rw [← react_quit]
  constructor
  · intro closes
    obtain ⟨enough, computed⟩ := closes.1
    have found := computed enough (Nat.le_refl enough)
    dsimp only at found
    cases reacts : react gathered line with
    | quit => rfl
    | gather lines =>
        rw [respond, reacts] at found
        cases found
    | enter source =>
        rw [respond_enter _ _ _ _ reacts] at found
        obtain ⟨ending, _, same⟩ := Option.map_eq_some_iff.mp found
        rcases answered_standing settings ending with ⟨_, _, stands⟩ | ⟨_, _, stands, _⟩
        all_goals cases same.symm.trans stands
  · intro reacts
    simp only [respond, reacts]
    exact yields_same _

theorem respond_gather {gathered later : List Text} {line : Text} (reacts : react gathered line = .gather later) :
    Yields (fun fuel => respond settings fuel gathered machine line) ([], .open later machine) := by
  simp only [respond, reacts]
  exact yields_same _

inductive Outcome (settings : Settings Unit) (gathered : List Text) (machine : Machine Unit) (line : Text) : Prop
  | gathers {later : List Text} (reacts : react gathered line = .gather later)
  | enters {source : Text} {ending : Ending Unit} {printed : List Printed} {after : Machine Unit}
      (reacts : react gathered line = .enter source) (runs : Yields (entry settings machine source) ending)
      (stands : answered settings ending = (printed, .open [] after))
      (answers : Yields (fun fuel => respond settings fuel gathered machine line) (printed, .open [] after))
  | closes (exits : Exits line) (nothing : gathered = [])
      (closes : Yields (fun fuel => respond settings fuel gathered machine line) ([], .closed))
  | breaks {source : Text} {ending : Ending Unit} {printed : List Printed} {failure : Failure}
      (enters : react gathered line = .enter source) (runs : Yields (entry settings machine source) ending)
      (stands : answered settings ending = (printed, .broken failure))
      (breaks : Yields (fun fuel => respond settings fuel gathered machine line) (printed, .broken failure))
      (foreign : ∀ fault, failure ≠ .fault fault)
  | starves {source : Text} (enters : react gathered line = .enter source)
      (diverges : Diverges (entry settings machine source))

theorem line_outcome (settings : Settings Unit) (gathered : List Text) (machine : Machine Unit) (line : Text) :
    Outcome settings gathered machine line := by
  cases reacts : react gathered line with
  | quit =>
      have left := (react_quit gathered line).mp reacts
      exact .closes left.1 left.2 ((respond_closed settings gathered machine line).mpr left)
  | gather later => exact .gathers reacts
  | enter source =>
      by_cases ends : ∃ fuel ending, entry settings machine source fuel = some ending
      · obtain ⟨fuel, ending, runs⟩ := ends
        have yields := entry_yields runs
        have responds : Yields (fun fuel => respond settings fuel gathered machine line)
            (answered settings ending) := by
          simp only [respond_enter _ _ _ _ reacts]
          exact yields_map _ yields
        rcases answered_standing settings ending with ⟨printed, after, stands⟩ | ⟨printed, failure, stands, foreign⟩
        · exact .enters reacts yields stands (stands ▸ responds)
        · exact .breaks reacts yields stands (stands ▸ responds) foreign
      · exact .starves reacts fun fuel =>
          Option.eq_none_iff_forall_ne_some.mpr fun ending runs => ends ⟨fuel, ending, runs⟩

theorem reads_parted {read passed gathered : List Text}
    (reads : Reads settings start read passed gathered machine) : ∃ parts, Parted parts read passed gathered := by
  induction reads with
  | nothing => exact ⟨[], rfl, rfl, .nothing⟩
  | gathers _ reacts _ ih =>
      obtain ⟨parts, parted⟩ := ih
      exact parted_gathered parted reacts
  | enters _ reacts _ _ _ ih =>
      obtain ⟨parts, parted⟩ := ih
      exact parted_entered parted reacts

theorem ends_parted {lines read passed gathered : List Text} {held : Nat → Option (List Printed × Except Failure Unit)}
    (ends : Ends settings start lines held read passed gathered) : ∃ parts, Parted parts read passed gathered := by
  cases ends with
  | exhausted reads => exact reads_parted reads
  | quit _ reads => exact reads_parted reads
  | broken _ reads enters =>
      obtain ⟨parts, parted⟩ := reads_parted reads
      exact parted_entered parted enters
  | endless _ reads enters =>
      obtain ⟨parts, parted⟩ := reads_parted reads
      exact parted_entered parted enters

theorem converse_answered {gathered rest : List Text} {line : Text} {done : List Printed × Standing}
    {held : List Printed × Except Failure Unit}
    (answers : Yields (fun fuel => respond settings fuel gathered machine line) done)
    (later : Yields (onward settings gathered rest done) held) :
    Yields (fun fuel => converse settings fuel gathered machine (line :: rest)) held := by
  simp only [converse_line]
  exact yields_bind answers later

theorem converse_starved {gathered rest : List Text} {line : Text} {done : List Printed × Standing}
    (answers : Yields (fun fuel => respond settings fuel gathered machine line) done)
    (starved : Diverges (onward settings gathered rest done)) :
    Diverges fun fuel => converse settings fuel gathered machine (line :: rest) := by
  simp only [converse_line]
  exact diverges_bind answers starved

theorem converse_endless {gathered rest : List Text} {line source : Text}
    (enters : react gathered line = .enter source) (diverges : Diverges (entry settings machine source)) :
    Diverges fun fuel => converse settings fuel gathered machine (line :: rest) := by
  intro fuel
  have dry : respond settings fuel gathered machine line = none := by
    rw [respond_enter _ _ _ _ enters, diverges fuel, Option.map_none]
  exact (converse_line fuel gathered rest line).trans (congrArg (Option.bind · _) dry)

def Continues (settings : Settings Unit) (start : Machine Unit) (read gathered : List Text) (machine : Machine Unit)
    (front : List Printed) : Prop :=
  ∀ rest,
    (∀ printed result, Yields (fun fuel => converse settings fuel gathered machine rest) (printed, result) →
      Yields (fun fuel => converse settings fuel [] start (read ++ rest)) (front ++ printed, result)) ∧
    (Diverges (fun fuel => converse settings fuel gathered machine rest) →
      Diverges fun fuel => converse settings fuel [] start (read ++ rest))

theorem continues_line {read gathered later : List Text} {line : Text} {after : Machine Unit}
    {front answer : List Printed} (goes : Continues settings start read gathered machine front)
    (answers : Yields (fun fuel => respond settings fuel gathered machine line) (answer, .open later after)) :
    Continues settings start (read ++ [line]) later after (front ++ (.output (prompt gathered) :: answer)) := by
  intro rest
  obtain ⟨yields, starves⟩ := goes (line :: rest)
  rw [List.append_assoc, List.singleton_append]
  constructor
  · intro printed result last
    rw [List.append_assoc]
    exact yields _ result (converse_answered answers (yields_map _ last))
  · intro starved
    refine starves (converse_starved answers fun fuel => ?_)
    have dry : converse settings fuel later after rest = none := starved fuel
    rw [onward, dry, Option.map_none]

theorem reads_converse {read passed gathered : List Text}
    (reads : Reads settings start read passed gathered machine) :
    ∃ front, Continues settings start read gathered machine front := by
  induction reads with
  | nothing => exact ⟨[], fun rest => ⟨fun _ _ yields => yields, fun starved => starved⟩⟩
  | gathers _ _ answers ih | enters _ _ _ _ answers ih =>
      obtain ⟨front, goes⟩ := ih
      exact ⟨_, continues_line goes answers⟩

theorem reads_end (settings : Settings Unit) (start : Machine Unit) (rest : List Text) :
    ∀ {read passed gathered : List Text} {machine : Machine Unit},
      Reads settings start read passed gathered machine →
      ∃ whole entered left, Ends settings start (read ++ rest)
        (fun fuel => converse settings fuel [] start (read ++ rest)) whole entered left := by
  induction rest with
  | nil =>
      intro read passed gathered machine reads
      obtain ⟨front, goes⟩ := reads_converse reads
      have yields := (goes []).1 [.output (prompt gathered), .output ['\n']] (.ok ()) (yields_same _)
      rw [List.append_nil] at yields ⊢
      exact ⟨read, passed, gathered, .exhausted reads yields⟩
  | cons line rest ih =>
      intro read passed gathered machine reads
      obtain ⟨front, goes⟩ := reads_converse reads
      obtain ⟨yields, starves⟩ := goes (line :: rest)
      cases line_outcome settings gathered machine line with
      | gathers reacts =>
          have next := ih (.gathers reads reacts (respond_gather reacts))
          rwa [List.append_assoc, List.singleton_append] at next
      | enters reacts runs stands answers =>
          have next := ih (.enters reads reacts runs stands answers)
          rwa [List.append_assoc, List.singleton_append] at next
      | closes exits nothing closes =>
          have ended := yields _ _ (converse_answered closes (yields_same _))
          exact ⟨read, passed, gathered, .quit rfl reads closes exits nothing ended⟩
      | @breaks source _ _ _ enters runs stands breaks foreign =>
          have ended := yields _ _ (converse_answered breaks (yields_same _))
          exact ⟨read ++ [line], passed ++ [source], [],
            .broken rfl reads enters runs stands breaks foreign ended⟩
      | @starves source enters diverges =>
          have starved := starves (converse_endless enters diverges)
          exact ⟨read ++ [line], passed ++ [source], [], .endless rfl reads enters diverges starved⟩

structure AtExit (settings : Settings Unit) (start : Machine Unit) (lines : List Text)
    (held : Nat → Option (List Printed × Except Failure Unit)) (read passed gathered : List Text)
    (machine : Machine Unit) (line : Text) : Prop where
  closes : Yields (fun fuel => respond settings fuel gathered machine line) ([], .closed) ↔ gathered = []
  ends : gathered = [] → Ends settings start lines held read passed gathered
  goes : gathered ≠ [] → Reads settings start (read ++ [line]) passed (gathered ++ [line]) machine

theorem exit_goes {read passed gathered : List Text} {line : Text} (exits : Exits line) (block : gathered ≠ [])
    (reads : Reads settings start read passed gathered machine) :
    Reads settings start (read ++ [line]) passed (gathered ++ [line]) machine := by
  obtain ⟨first, inner, rfl⟩ := List.exists_cons_of_ne_nil block
  rcases react_inside first inner line with ⟨blank, _⟩ | ⟨_, reacts⟩
  · exact absurd blank (exits_filled exits)
  · exact .gathers reads reacts (respond_gather reacts)

theorem exit_reached {read passed gathered : List Text} {line : Text} (exits : Exits line)
    (reads : Reads settings start read passed gathered machine) (rest : List Text) :
    AtExit settings start (read ++ line :: rest) (fun fuel => converse settings fuel [] start (read ++ line :: rest))
      read passed gathered machine line := by
  have closes := respond_closed settings gathered machine line
  refine ⟨closes.trans (and_iff_right exits), fun nothing => ?_, fun block => exit_goes exits block reads⟩
  obtain ⟨front, goes⟩ := reads_converse reads
  have closed := closes.mpr ⟨exits, nothing⟩
  have ended := (goes (line :: rest)).1 _ _ (converse_answered closed (yields_same _))
  exact .quit rfl reads closed exits nothing ended

theorem ends_after {lines read passed gathered : List Text} {held : Nat → Option (List Printed × Except Failure Unit)}
    (front : List Printed) (ends : Ends settings start lines held read passed gathered) :
    Ends settings start lines (fun fuel => (held fuel).map fun (printed, result) => (front ++ printed, result))
      read passed gathered := by
  cases ends with
  | exhausted reads yields => exact .exhausted reads (yields_map _ yields)
  | quit split reads closes exits nothing yields =>
      exact .quit split reads closes exits nothing (yields_map _ yields)
  | broken split reads enters runs stands breaks foreign yields =>
      exact .broken split reads enters runs stands breaks foreign (yields_map _ yields)
  | endless split reads enters diverges starved =>
      refine .endless split reads enters diverges fun fuel => ?_
      rw [starved fuel]
      rfl

end

structure Entered (parts : List Part) (read passed gathered : List Text) : Prop
    extends Parted parts read passed gathered where
  once : (entriesOf parts).flatten ++ gathered = read.filter fun line => line.trim ≠ []
  blocks : ∀ part ∈ parts, ∀ typed, part.entry? = some typed →
    (1 < typed.length ∨ ∃ line, typed = [line] ∧ Opens line) →
    ∃ first inner closing, typed = first :: inner ∧ Opens first ∧ part.lines = typed ++ [closing] ∧ Blank closing

-- Whatever its entries do, a session passes on each line that is not blank once and in order, but for those
-- still gathered at the end of the lines; only a block that a blank line closes makes more of a line than
-- an entry of its own. A line that trims to `exit` closes the session where nothing is gathered.
theorem lines_entered (settings : Settings Unit) (start : Machine Unit) (lines : List Text) :
    (∃ parts read passed gathered,
      Ends settings (start.enterProgram settings) lines (fun fuel => session settings fuel start lines)
        read passed gathered ∧
      Entered parts read passed gathered) ∧
    ∀ read line rest passed gathered machine, lines = read ++ line :: rest → Exits line →
      Reads settings (start.enterProgram settings) read passed gathered machine →
      AtExit settings (start.enterProgram settings) lines (fun fuel => session settings fuel start lines)
        read passed gathered machine line := by
  constructor
  · obtain ⟨read, passed, gathered, ends⟩ := reads_end settings (start.enterProgram settings) lines .nothing
    obtain ⟨parts, parted⟩ := ends_parted ends
    refine ⟨parts, read, passed, gathered, ends_after [.outputLine banner] ends, parted, parted_once parted, ?_⟩
    exact fun part _ typed makes several => part_block part makes several
  · rintro read line rest passed gathered machine rfl exits reads
    have reached := exit_reached exits reads rest
    exact ⟨reached.closes, fun nothing => ends_after [.outputLine banner] (reached.ends nothing), reached.goes⟩

end BareBones.Console
