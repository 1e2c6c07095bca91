import BareBones.Proofs.Course
import BareBones.Proofs.Rendering
import BareBones.Proofs.Scoping

set_option autoImplicit false

namespace BareBones

namespace Text

def isActive (c : Char) : Bool :=
  c == '\\' || c == ';' || c == Env.openBrace

def escaped (text : Text) : Text :=
  text.flatMap fun c => if isActive c then ['\\', c] else [c]

def braced (name : Text) : Text :=
  Env.openBrace :: (name ++ [Env.closeBrace])

theorem escaped_active (c : Char) (rest : Text) (active : isActive c = true) :
    escaped (c :: rest) = '\\' :: c :: escaped rest := by
  simp [escaped, active]

theorem escaped_plain (c : Char) (rest : Text) (plain : isActive c = false) :
    escaped (c :: rest) = c :: escaped rest := by
  simp [escaped, plain]

theorem plain_char (c : Char) (plain : isActive c = false) : c ≠ '\\' ∧ c ≠ ';' ∧ c ≠ Env.openBrace := by
  simpa [isActive, and_assoc] using plain

theorem escaped_inert (text : Text) (plain : ∀ c ∈ text, isActive c = false) : text.escaped = text := by
  induction text with
  | nil => rfl
  | cons c rest ih =>
      obtain ⟨first, others⟩ := List.forall_mem_cons.mp plain
      rw [escaped_plain c rest first, ih others]

theorem escaped_unbroken (text : Text) (unbroken : text.Unbroken) : text.escaped.Unbroken := by
  induction text with
  | nil => exact unbroken
  | cons c rest ih =>
      obtain ⟨first, others⟩ := List.forall_mem_cons.mp unbroken
      cases active : isActive c with
      | true =>
          rw [escaped_active c rest active]
          exact List.forall_mem_cons.mpr ⟨rfl, List.forall_mem_cons.mpr ⟨first, ih others⟩⟩
      | false =>
          rw [escaped_plain c rest active]
          exact List.forall_mem_cons.mpr ⟨first, ih others⟩

theorem comment_escaped (text : Text) : Line.withoutComment text.escaped = text.escaped := by
  induction text with
  | nil => rfl
  | cons c rest ih =>
      cases active : isActive c with
      | true => rw [escaped_active c rest active, Line.withoutComment, ih]
      | false =>
          obtain ⟨ordinary, other, _⟩ := plain_char c active
          rw [escaped_plain c rest active]
          simp [Line.withoutComment, ordinary, other, ih]

end Text

namespace Env

theorem expand_escaped (env : Env) (text : Text) : env.expand text.escaped = .ok text := by
  unfold expand
  -- After every character, escaped or not, the reader stands in plain text again.
  induction text with
  | nil => rfl
  | cons c rest ih =>
      cases active : Text.isActive c with
      | true =>
          rw [Text.escaped_active c rest active, expandFrom, if_pos rfl, expandFrom, ih]
          rfl
      | false =>
          obtain ⟨ordinary, _, outside⟩ := Text.plain_char c active
          rw [Text.escaped_plain c rest active, expandFrom, if_neg ordinary, if_neg outside, ih]
          rfl

theorem expand_closed (env : Env) (characters token rest : Text) (closed : closeBrace ∉ token) :
    env.expandFrom (.operand characters) (token ++ closeBrace :: rest) = (do
      let written ← env.span (characters.reverse ++ token)
      return written ++ (← env.expandFrom .plain rest)) := by
  induction token generalizing characters with
  | nil => rw [List.nil_append, expandFrom, if_pos rfl, List.append_nil]
  | cons c others ih =>
      have other : c ≠ closeBrace := fun same => closed (by simp [same])
      rw [List.cons_append, expandFrom, if_neg other, ih _ fun member => closed (List.mem_cons_of_mem c member)]
      simp

theorem expand_operand (env : Env) (characters token : Text) (plain : closeBrace ∉ token) :
    env.expandFrom (.operand characters) (token ++ [closeBrace]) =
      env.span (characters.reverse ++ token) := by
  rw [expand_closed env characters token [] plain]
  cases env.span (characters.reverse ++ token) with
  | error failure => rfl
  | ok written => exact congrArg Except.ok (List.append_nil written)

theorem resolve_bound (env : Env) (strict : Bool) (token : Text) (value : Value)
    (other : token.head? ≠ some '#') (bound : env.store.read? env.path token = some value) :
    env.resolve strict token = .ok value := by
  rw [resolve.eq_def, if_neg other, bound]

theorem resolve_argument (env : Env) (strict : Bool) {token : Text} {index : Nat}
    (first : token.head? = some '#') (asks : Numeral.readIndex? token.tail = .ok (some (index + 1))) :
    env.resolve strict token = .ok (.text (env.arguments.getD index [])) := by
  rw [resolve.eq_def, if_pos first, argumentAt, asks]
  rfl

structure NameChar (c : Char) : Prop where
  solid : Text.isBlank c = false
  unbroken : Text.isBreak c = false
  plain : Text.isActive c = false
  inside : c ≠ closeBrace
  named : c ≠ '#'

theorem name_bounds (c : Char) (part : (c.isAlphanum || c == '_') = true) :
    48 ≤ c.toNat ∧ c.toNat ≤ 57 ∨ 65 ≤ c.toNat ∧ c.toNat ≤ 90 ∨ c.toNat = 95 ∨
      97 ≤ c.toNat ∧ c.toNat ≤ 122 := by
  delta Char.isAlphanum Char.isAlpha Char.isUpper Char.isLower Char.isDigit at part
  simp only [Bool.or_eq_true, Bool.and_eq_true, decide_eq_true_eq, ge_iff_le, UInt32.le_iff_toNat_le,
    beq_iff_eq] at part
  rcases part with ((upper | lower) | digit) | rfl
  · exact .inr (.inl upper)
  · exact .inr (.inr (.inr lower))
  · exact .inl digit
  · exact .inr (.inr (.inl rfl))

theorem name_char (c : Char) (part : (c.isAlphanum || c == '_') = true) : NameChar c := by
  have bounds := name_bounds c part
  have apart : ∀ d : Char, d.toNat ∈ [35, 59, 92, 123, 125] → c ≠ d := by
    rintro d sign rfl
    simp only [List.mem_cons, List.not_mem_nil, or_false] at sign
    omega
  refine ⟨?_, ?_, ?_, apart _ (by decide), apart _ (by decide)⟩
  · simp only [Text.isBlank, Bool.or_eq_false_iff, Bool.and_eq_false_iff, decide_eq_false_iff_not,
      beq_eq_false_iff_ne]
    omega
  · simp only [Text.isBreak, Bool.or_eq_false_iff, Bool.and_eq_false_iff, decide_eq_false_iff_not,
      beq_eq_false_iff_ne]
    omega
  · simp only [Text.isActive, Bool.or_eq_false_iff, beq_eq_false_iff_ne]
    exact ⟨⟨apart _ (by decide), apart _ (by decide)⟩, apart _ (by decide)⟩

theorem decimal_escaped (n : Nat) : (Text.ofNat n).escaped = Text.ofNat n := by
  refine Text.escaped_inert _ fun c member => (name_char c ?_).plain
  simp [Char.isAlphanum, Text.of_nat_digits n c member]

theorem identifier_chars (name : Text) (identifier : isIdentifier name = true) (single : '\n' ∉ name) :
    name ≠ [] ∧ ∀ c ∈ name, NameChar c := by
  have last : (name.getLast? == some '\n') = false := by
    simpa using fun ends => single (List.mem_of_getLast? ends)
  rw [isIdentifier, last] at identifier
  cases name with
  | nil => cases identifier
  | cons c rest =>
      simp only [Bool.false_eq_true, if_false, Bool.and_eq_true, List.all_eq_true] at identifier
      obtain ⟨first, others⟩ := identifier
      refine ⟨List.cons_ne_nil c rest, List.forall_mem_cons.mpr ⟨name_char c ?_, ?_⟩⟩
      · rcases Bool.or_eq_true_iff.mp first with letter | line
        · exact Bool.or_eq_true_iff.mpr (.inl (Bool.or_eq_true_iff.mpr (.inl letter)))
        · exact Bool.or_eq_true_iff.mpr (.inr line)
      · exact fun d member => name_char d (others d member)

theorem expand_argument (env : Env) (token : Text) (index : Nat) (inside : closeBrace ∉ token)
    (first : token.head? = some '#') (asks : Numeral.readIndex? token.tail = .ok (some (index + 1))) :
    env.expand token.braced = .ok (env.arguments.getD index []) := by
  have spanned : env.span token = .ok (env.arguments.getD index []) := by
    rw [span, resolve_argument env true first asks]
    rfl
  exact (expand_operand env [] token inside).trans spanned

theorem expand_variable (env : Env) (name text : Text) (chars : ∀ c ∈ name, NameChar c)
    (bound : env.store.read? env.path name = some (.text text)) : env.expand name.braced = .ok text := by
  have inside : closeBrace ∉ name := fun member => (chars _ member).inside rfl
  have named : name.head? ≠ some '#' := fun first => (chars _ (List.mem_of_head? first)).named rfl
  have spanned : env.span name = .ok text := by
    rw [span, resolve_bound env true name (.text text) named bound]
    rfl
  exact (expand_operand env [] name inside).trans spanned

end Env

theorem Text.assign_unbroken (text name : Text) (unbroken : text.Unbroken)
    (chars : ∀ c ∈ name, Env.NameChar c) : (Command.assign name text.escaped).render.Unbroken := by
  have whole : (name ++ ' ' :: text.escaped).Unbroken :=
    Text.unbroken_append name _ (fun c member => (chars c member).unbroken)
      (Text.unbroken_append [' '] _ (by decide) (Text.escaped_unbroken text unbroken))
  exact Text.unbroken_append "set ".toList _ (by decide) whole

theorem Line.assign_lines (file text name : Text) (unbroken : text.Unbroken)
    (chars : ∀ c ∈ name, Env.NameChar c) :
    Line.ofSource file
        ((Command.assign name text.escaped).render ++ '\n' :: (Command.print name.braced).render) =
      [verbatim file 1 (Command.assign name text.escaped).render,
        verbatim file 2 (Command.print name.braced).render] := by
  have unescaped : '\\' ∉ name := fun member => (Text.plain_char _ (chars _ member).plain).1 rfl
  have unmarked : ';' ∉ name := fun member => (Text.plain_char _ (chars _ member).plain).2.1 rfl
  have first : withoutComment (Command.assign name text.escaped).render =
      (Command.assign name text.escaped).render := by
    have kept := comment_behind ("set ".toList ++ (name ++ [' '])) text.escaped (by simp [unescaped])
      (by simp [unmarked])
    rw [Text.comment_escaped, List.append_assoc, List.append_assoc] at kept
    exact kept
  have second : withoutComment (Command.print name.braced).render =
      (Command.print name.braced).render := by
    have kept := comment_behind ("print \x7b".toList ++ (name ++ [Env.closeBrace])) []
      (by simp [unescaped, Env.closeBrace]) (by simp [unmarked, Env.closeBrace])
    rw [withoutComment, List.append_nil] at kept
    exact kept
  have whole : (Command.print name.braced).render.Unbroken :=
    Text.unbroken_append "print \x7b".toList _ (by decide)
      (Text.unbroken_append name _ (fun c member => (chars c member).unbroken) (by decide))
  have proper : (Command.print name.braced).render ≠ [] := List.cons_ne_nil _ _
  rw [ofSource, Text.lines_feed _ _ (Text.assign_unbroken text name unbroken chars),
    Text.lines_unbroken _ proper whole, numbered, numbered, of_raw_kept file 1 _ rfl first,
    of_raw_kept file 2 _ rfl second]
  rfl

namespace Machine

variable {σ : Type} {settings : Settings σ}

theorem drive_print (fuel : Nat) (machine : Machine σ) (frame : Frame) (line : Line) (format text : Text)
    (unobserved : settings.Unobserved) (terse : settings.verbose = false)
    (stands : machine.stack = [frame]) (taking : Cursor.next? frame.cursor = some (line, []))
    (reading : Statement.read line = .ok ⟨line.location, .print format⟩)
    (expands : (machine.env frame).expand format = .ok text) :
    ∃ last, drive settings (fuel + 2) machine = some (.ok (), last) ∧
      last.written = text :: machine.written := by
  obtain ⟨last, goes, world, stack⟩ := goes_line machine frame [] line [] ([], none) _ unobserved stands
    taking (Deed.launch_print settings _ line [] format text machine.world terse reading expands)
  have ends := drive_over settings fuel last (frame.moved []) stack rfl
  exact ⟨last, (drive_goes settings (fuel + 1) machine last goes).trans ends,
    congrArg World.written world⟩

theorem trial_output (source : Text) (capacity fuel : Nat) (host : σ) (last : Machine σ)
    (unobserved : settings.Unobserved)
    (ends : drive settings fuel (opening settings source (fresh (.empty capacity) host)) =
      some (.ok (), last)) :
    ∃ ended, trial settings source capacity host fuel = some (.ok (), ended) ∧
      ended.output = last.output := by
  refine ⟨last.pop, ?_, rfl⟩
  rw [trial, run_unobserved settings fuel source _ unobserved, ends]
  rfl

theorem print_escaped (settings : Settings σ) (unobserved : settings.Unobserved)
    (terse : settings.verbose = false) (capacity fuel : Nat) (host : σ) (text : Text)
    (unbroken : text.Unbroken) :
    ∃ last, trial settings ("print ".toList ++ text.escaped) capacity host (fuel + 2) =
      some (.ok (), last) ∧ last.output = [text] := by
  let source : Text := "print ".toList ++ text.escaped
  let line := Line.verbatim settings.filename 1 source
  have whole := Text.unbroken_append "print ".toList _ (by decide) (Text.escaped_unbroken text unbroken)
  have kept : Line.withoutComment source = source := by
    rw [Line.comment_behind "print ".toList text.escaped (by decide) (by decide),
      Text.comment_escaped]
  have lines := Line.of_source_one settings.filename source (List.cons_ne_nil _ _) whole rfl kept
  have taking : Cursor.next? (Line.ofSource settings.filename source) = some (line, []) := by
    rw [lines]
    exact Cursor.next_solid line [] rfl
  obtain ⟨last, ends, written⟩ := drive_print fuel (opening settings source (fresh (.empty capacity) host))
    (outermost settings source) line text.escaped text unobserved terse rfl taking rfl
    (Env.expand_escaped _ text)
  obtain ⟨ended, ran, output⟩ := trial_output source capacity _ host last unobserved ends
  refine ⟨ended, ran, ?_⟩
  rw [output, Machine.output, written]
  rfl

theorem assign_escaped (settings : Settings σ) (unobserved : settings.Unobserved)
    (terse : settings.verbose = false) (capacity fuel : Nat) (host : σ) (text name : Text)
    (unbroken : text.Unbroken) (identifier : Env.isIdentifier name = true) (single : '\n' ∉ name) :
    ∃ last, trial settings ("set ".toList ++ name ++ " ".toList ++ text.escaped ++ "\n".toList ++
        "print ".toList ++ name.braced) capacity host (fuel + 3) = some (.ok (), last) ∧
      last.output = [text] := by
  obtain ⟨proper, chars⟩ := Env.identifier_chars name identifier single
  let sets := (Command.assign name text.escaped).render
  let prints := (Command.print name.braced).render
  have source : "set ".toList ++ name ++ " ".toList ++ text.escaped ++ "\n".toList ++
      "print ".toList ++ name.braced = sets ++ '\n' :: prints := by
    change _ = ("set".toList ++ ' ' :: (name ++ ' ' :: text.escaped)) ++
      '\n' :: ("print".toList ++ ' ' :: name.braced)
    simp
  let first := Line.verbatim settings.filename 1 sets
  let second := Line.verbatim settings.filename 2 prints
  have lines : Line.ofSource settings.filename (sets ++ '\n' :: prints) = [first, second] :=
    Line.assign_lines settings.filename text name unbroken chars
  let machine := opening settings (sets ++ '\n' :: prints) (fresh (.empty capacity) host)
  have taking : Cursor.next? (Line.ofSource settings.filename (sets ++ '\n' :: prints)) =
      some (first, [second]) := by
    rw [lines]
    exact Cursor.next_solid first [second] rfl
  have word : name.IsWord := ⟨proper, fun c member => (chars c member).solid⟩
  have reading : Statement.read first = .ok ⟨first.location, .assign name text.escaped⟩ :=
    Statement.render_read _ (.assign name text.escaped) word
      (Text.unbroken_feed _ (Text.assign_unbroken text name unbroken chars))
  obtain ⟨between, goes, world, stack⟩ := goes_line machine
    (outermost settings (sets ++ '\n' :: prints)) [] first [second] ([second], none) _ unobserved rfl
    taking (Deed.launch_assign settings _ first [second] name text.escaped text machine.world terse reading
      (Env.expand_escaped _ text))
  have expands : (between.env ((outermost settings (sets ++ '\n' :: prints)).moved [second])).expand
      name.braced = .ok text := by
    apply Env.expand_variable _ name text chars
    change between.world.store.read? [settings.program] name = _
    rw [world]
    exact Store.read_written _ _ name _ (List.cons_ne_nil _ _)
      (Store.scope_at_enter Store.empty [settings.program])
  obtain ⟨last, ends, written⟩ := drive_print fuel between _ second name.braced text unobserved terse stack
    (Cursor.next_solid second [] rfl) rfl expands
  have driven := (drive_goes settings (fuel + 2) machine between goes).trans ends
  obtain ⟨ended, ran, output⟩ := trial_output _ capacity _ host last unobserved driven
  rw [source]
  refine ⟨ended, ran, ?_⟩
  have silent : between.written = [] := congrArg World.written world
  rw [output, Machine.output, written, silent]
  rfl

theorem escaped_printed (settings : Settings σ) (unobserved : settings.Unobserved)
    (terse : settings.verbose = false) (capacity : Nat) (host : σ) (text : Text)
    (unbroken : text.Unbroken) :
    (∀ fuel, ∃ last, trial settings ("print ".toList ++ text.escaped) capacity host (fuel + 2) =
        some (.ok (), last) ∧ last.output = [text]) ∧
      ∀ name : Text, Env.isIdentifier name = true → '\n' ∉ name → ∀ fuel, ∃ last,
        trial settings ("set ".toList ++ name ++ " ".toList ++ text.escaped ++ "\n".toList ++
            "print ".toList ++ name.braced) capacity host (fuel + 3) =
          some (.ok (), last) ∧ last.output = [text] :=
  ⟨fun fuel => print_escaped settings unobserved terse capacity fuel host text unbroken,
    fun name identifier single fuel =>
      assign_escaped settings unobserved terse capacity fuel host text name unbroken identifier single⟩

theorem escaped_printed_marks :
    (∃ last, trial quiet "print  \\\\\\;\\\x7bX\x7d \\\\".toList 5 () 2 = some (.ok (), last) ∧
        last.output = [" \\;\x7bX\x7d \\".toList]) ∧
      ∃ last, trial quiet "set X  \\\\\\;\\\x7bX\x7d \\\\\nprint \x7bX\x7d".toList 5 () 3 =
          some (.ok (), last) ∧ last.output = [" \\;\x7bX\x7d \\".toList] :=
  have unbroken : Text.Unbroken " \\;\x7bX\x7d \\".toList := by decide
  ⟨(escaped_printed quiet quiet_unobserved rfl 5 () _ unbroken).1 0,
    (escaped_printed quiet quiet_unobserved rfl 5 () _ unbroken).2 "X".toList (by decide) (by decide) 0⟩

end Machine
end BareBones
