import BareBones.Operand
import Mathlib.Data.List.TakeWhile

set_option autoImplicit false

namespace BareBones

namespace Text

theorem decimal_system (c : Char) (decimal : isDecimal c = true) :
    ∃ first ∈ zeros, first ≤ c.toNat ∧ c.toNat < first + 10 := by
  rw [isDecimal, digitValue?, Option.isSome_map, List.find?_isSome] at decimal
  simpa only [Bool.and_eq_true, decide_eq_true_eq] using decimal

theorem decimal_solid (c : Char) (decimal : isDecimal c = true) : isBlank c = false := by
  obtain ⟨first, member, low, high⟩ := decimal_system c decimal
  have apart : ∀ first ∈ zeros, first = 0x30 ∨ 0x660 ≤ first ∧ first ≤ 0x1090 ∨
      0x17E0 ≤ first ∧ first ≤ 0x1C50 ∨ 0xA620 ≤ first := by decide
  have away := apart first member
  simp only [isBlank, Bool.or_eq_false_iff, Bool.and_eq_false_iff, decide_eq_false_iff_not,
    beq_eq_false_iff_ne]
  omega

theorem decimal_unsigned (c : Char) (decimal : isDecimal c = true) : c ≠ '+' ∧ c ≠ '-' := by
  constructor
  · rintro rfl
    exact absurd decimal (by decide)
  · rintro rfl
    exact absurd decimal (by decide)

theorem blanks_taken (blanks rest : Text) (blank : ∀ c ∈ blanks, isBlank c = true)
    (stops : rest.takeWhile isBlank = []) : (blanks ++ rest).takeWhile isBlank = blanks := by
  rw [List.takeWhile_append_of_pos blank, stops, List.append_nil]

theorem blanks_dropped (blanks rest : Text) (blank : ∀ c ∈ blanks, isBlank c = true)
    (stops : rest.dropWhile isBlank = rest) : (blanks ++ rest).dropWhile isBlank = rest := by
  rw [List.dropWhile_append_of_pos blank, stops]

theorem solid_stops (body rest : Text) (proper : body ≠ []) (solid : ∀ c ∈ body, isBlank c = false) :
    (body ++ rest).takeWhile isBlank = [] ∧ (body ++ rest).dropWhile isBlank = body ++ rest := by
  obtain ⟨c, others, rfl⟩ := List.exists_cons_of_ne_nil proper
  have first := solid c List.mem_cons_self
  constructor
  · exact List.takeWhile_cons_of_neg (by simp [first])
  · exact List.dropWhile_cons_of_neg (by simp [first])

theorem trim_between (text : Text) :
    ∃ before after, text = before ++ text.trim ++ after ∧ (∀ c ∈ before, isBlank c = true) ∧
      ∀ c ∈ after, isBlank c = true := by
  refine ⟨text.takeWhile isBlank, (text.trimStart.reverse.takeWhile isBlank).reverse, ?_, ?_, ?_⟩
  · have start : text.takeWhile isBlank ++ text.trimStart = text := List.takeWhile_append_dropWhile
    have behind : text.trim ++ (text.trimStart.reverse.takeWhile isBlank).reverse = text.trimStart := by
      rw [trim, trimEnd, ← List.reverse_append, List.takeWhile_append_dropWhile, List.reverse_reverse]
    rw [List.append_assoc, behind, start]
  · exact fun c member => List.mem_takeWhile_imp member
  · exact fun c member => List.mem_takeWhile_imp (List.mem_reverse.mp member)

end Text

namespace Numeral

structure Spelling where
  before : Text
  mark : Option Sign
  digits : Text
  after : Text
  blankBefore : ∀ c ∈ before, Text.isBlank c = true
  proper : digits ≠ []
  decimal : ∀ c ∈ digits, Text.isDecimal c = true
  blankAfter : ∀ c ∈ after, Text.isBlank c = true

namespace Spelling

def signText : Option Sign → Text
  | none => []
  | some .plus => ['+']
  | some .minus => ['-']

def body (spelling : Spelling) : Text := signText spelling.mark ++ spelling.digits

def source (spelling : Spelling) : Text := spelling.before ++ spelling.body ++ spelling.after

def value (spelling : Spelling) : Int := (spelling.mark.getD .plus).apply (valueOf spelling.digits)

-- An information separator stands beside the integer.
def Leans (spelling : Spelling) : Prop :=
  ∃ c ∈ spelling.before ++ spelling.after, Text.isInformationSeparator c = true

variable (spelling : Spelling)

theorem body_proper : spelling.body ≠ [] := fun nothing =>
  spelling.proper (List.append_eq_nil_iff.mp nothing).2

theorem body_solid (c : Char) (member : c ∈ spelling.body) : Text.isBlank c = false := by
  rcases List.mem_append.mp member with sign | digit
  · cases marked : spelling.mark with
    | none =>
        rw [marked] at sign
        cases sign
    | some mark =>
        rw [marked] at sign
        cases mark <;> cases List.mem_singleton.mp sign <;> rfl
  · exact Text.decimal_solid c (spelling.decimal c digit)

theorem before_taken : spelling.source.takeWhile Text.isBlank = spelling.before := by
  rw [source, List.append_assoc]
  exact Text.blanks_taken _ _ spelling.blankBefore
    (Text.solid_stops _ _ spelling.body_proper spelling.body_solid).1

theorem source_reverse :
    spelling.source.reverse = spelling.after.reverse ++ (spelling.body.reverse ++ spelling.before.reverse) := by
  simp [source]

theorem reverse_solid (rest : Text) :
    (spelling.body.reverse ++ rest).takeWhile Text.isBlank = [] ∧
      (spelling.body.reverse ++ rest).dropWhile Text.isBlank = spelling.body.reverse ++ rest :=
  Text.solid_stops _ rest (mt List.reverse_eq_nil_iff.mp spelling.body_proper) fun c member =>
    spelling.body_solid c (List.mem_reverse.mp member)

theorem after_taken : spelling.source.reverse.takeWhile Text.isBlank = spelling.after.reverse := by
  rw [source_reverse]
  exact Text.blanks_taken _ _ (fun c member => spelling.blankAfter c (List.mem_reverse.mp member))
    (spelling.reverse_solid _).1

theorem source_trimmed : spelling.source.trim = spelling.body := by
  have start : spelling.source.trimStart = spelling.body ++ spelling.after := by
    rw [Text.trimStart, source, List.append_assoc]
    exact Text.blanks_dropped _ _ spelling.blankBefore
      (Text.solid_stops _ _ spelling.body_proper spelling.body_solid).2
  have dropped : (spelling.after.reverse ++ spelling.body.reverse).dropWhile Text.isBlank =
      spelling.body.reverse := by
    refine Text.blanks_dropped _ _ (fun c member => spelling.blankAfter c (List.mem_reverse.mp member)) ?_
    simpa using (spelling.reverse_solid []).2
  rw [Text.trim, start, Text.trimEnd, List.reverse_append, dropped, List.reverse_reverse]

theorem sign_split : splitSign spelling.body = (spelling.mark.getD .plus, spelling.digits) := by
  rw [body]
  cases marked : spelling.mark with
  | none =>
      obtain ⟨c, rest, digits⟩ := List.exists_cons_of_ne_nil spelling.proper
      obtain ⟨plus, minus⟩ := Text.decimal_unsigned c (spelling.decimal c (by simp [digits]))
      simp [signText, digits, splitSign, plus, minus]
  | some mark => cases mark <;> rfl

theorem body_signed : signedDigits? spelling.body = some (spelling.mark.getD .plus, spelling.digits) := by
  have decimal : spelling.digits.all Text.isDecimal = true := List.all_eq_true.mpr spelling.decimal
  have proper : spelling.digits.isEmpty = false := by simpa using spelling.proper
  rw [signedDigits?, spelling.sign_split]
  simp only [proper, decimal, Bool.not_false, Bool.and_self, if_true]

theorem leans_iff : spelling.Leans ↔
    spelling.before.any Text.isInformationSeparator = true ∨
      spelling.after.reverse.any Text.isInformationSeparator = true := by
  simp only [Leans, List.mem_append, List.any_reverse, List.any_eq_true]
  grind

theorem read_firm (short : spelling.digits.length ≤ digitLimit) (firm : ¬spelling.Leans) :
    read? spelling.source = .ok (some spelling.value) := by
  obtain ⟨before, after⟩ := not_or.mp (mt spelling.leans_iff.mpr firm)
  rw [read?, spelling.source_trimmed, spelling.body_signed]
  dsimp only
  rw [spelling.before_taken, spelling.after_taken, if_neg before, if_neg (Nat.not_lt.mpr short), if_neg after]
  rfl

theorem read_leaning (short : spelling.digits.length ≤ digitLimit) (leans : spelling.Leans) :
    read? spelling.source = .error (.badLiteral spelling.source) := by
  rw [read?, spelling.source_trimmed, spelling.body_signed]
  dsimp only
  rw [spelling.before_taken, spelling.after_taken]
  by_cases before : spelling.before.any Text.isInformationSeparator = true
  · rw [if_pos before]
  · have after := (spelling.leans_iff.mp leans).resolve_left before
    rw [if_neg before, if_neg (Nat.not_lt.mpr short), if_pos after]

theorem digits_shorter : spelling.digits.length ≤ spelling.source.length := by
  simp only [source, body, List.length_append]
  omega

end Spelling

theorem sign_marked (text : Text) :
    ∃ mark : Option Sign, text = Spelling.signText mark ++ (splitSign text).2 := by
  unfold splitSign
  split
  · exact ⟨some .plus, rfl⟩
  · exact ⟨some .minus, rfl⟩
  · exact ⟨none, rfl⟩

theorem signed_spelled {text : Text} {sign : Sign} {digits : Text}
    (signed : signedDigits? text.trim = some (sign, digits)) : ∃ spelling : Spelling, spelling.source = text := by
  unfold signedDigits? at signed
  dsimp only at signed
  split at signed
  · rename_i guarded
    obtain ⟨proper, decimal⟩ := Bool.and_eq_true_iff.mp guarded
    obtain ⟨before, after, whole, blankBefore, blankAfter⟩ := text.trim_between
    obtain ⟨mark, marked⟩ := sign_marked text.trim
    refine ⟨⟨before, mark, (splitSign text.trim).2, after, blankBefore, by simpa using proper,
      List.all_eq_true.mp decimal, blankAfter⟩, ?_⟩
    rw [Spelling.source, Spelling.body, ← marked, ← whole]
  · cases signed

theorem read_unspelled {text : Text} (unspelled : ∀ spelling : Spelling, spelling.source ≠ text) :
    read? text = .ok none := by
  unfold read?
  cases signed : signedDigits? text.trim with
  | none => rfl
  | some found =>
      obtain ⟨spelling, same⟩ := signed_spelled signed
      exact absurd same (unspelled spelling)

structure Converts (text : Text) (outcome : Except Breakdown (Option Int)) : Prop where
  other : outcome = .ok none ↔ ∀ spelling : Spelling, spelling.source ≠ text
  integer : ∀ n, outcome = .ok (some n) ↔
    ∃ spelling : Spelling, spelling.source = text ∧ ¬spelling.Leans ∧ spelling.value = n
  fails : ∀ broken, outcome = .error broken ↔
    broken = .badLiteral text ∧ ∃ spelling : Spelling, spelling.source = text ∧ spelling.Leans

theorem spelled_cases {text : Text} (short : text.length ≤ digitLimit) (spelling : Spelling)
    (same : spelling.source = text) :
    ¬spelling.Leans ∧ read? text = .ok (some spelling.value) ∨
      spelling.Leans ∧ read? text = .error (.badLiteral text) := by
  subst same
  have few : spelling.digits.length ≤ digitLimit := Nat.le_trans spelling.digits_shorter short
  by_cases leans : spelling.Leans
  · exact .inr ⟨leans, spelling.read_leaning few leans⟩
  · exact .inl ⟨leans, spelling.read_firm few leans⟩

theorem read_converts {text : Text} (short : text.length ≤ digitLimit) : Converts text (read? text) := by
  have spelled (held : read? text ≠ .ok none) : ∃ spelling : Spelling, spelling.source = text := by
    by_contra none
    exact held (read_unspelled fun spelling same => none ⟨spelling, same⟩)
  refine ⟨⟨?_, read_unspelled⟩, fun n => ⟨?_, ?_⟩, fun broken => ⟨?_, ?_⟩⟩
  · intro read spelling same
    rcases spelled_cases short spelling same with ⟨_, reads⟩ | ⟨_, fails⟩
    · cases reads.symm.trans read
    · cases fails.symm.trans read
  · intro read
    obtain ⟨spelling, same⟩ := spelled (by simp [read])
    rcases spelled_cases short spelling same with ⟨firm, reads⟩ | ⟨_, fails⟩
    · cases reads.symm.trans read
      exact ⟨spelling, same, firm, rfl⟩
    · cases fails.symm.trans read
  · rintro ⟨spelling, same, firm, rfl⟩
    exact ((spelled_cases short spelling same).resolve_right fun leaning => firm leaning.1).2
  · intro read
    obtain ⟨spelling, same⟩ := spelled (by simp [read])
    rcases spelled_cases short spelling same with ⟨_, reads⟩ | ⟨leans, fails⟩
    · cases reads.symm.trans read
    · cases fails.symm.trans read
      exact ⟨rfl, spelling, same, leans⟩
  · rintro ⟨rfl, spelling, same, leans⟩
    exact ((spelled_cases short spelling same).resolve_left fun firm => firm.1 leans).2

example : read? "\x1f5".toList = .error (.badLiteral "\x1f5".toList) := by decide

def Figured (text : Text) : Prop := text ≠ [] ∧ ∀ c ∈ text, Text.isDigitLike c = true

theorem index_other {text : Text} (other : ¬Figured text) : readIndex? text = .ok none := by
  refine if_pos ?_
  by_contra guarded
  refine other ⟨?_, ?_⟩
  · rintro rfl
    exact guarded rfl
  · simpa using (not_or.mp (mt Bool.or_eq_true_iff.mpr guarded)).2

theorem index_figured {text : Text} (figured : Figured text) (short : text.length ≤ digitLimit) :
    readIndex? text = if (text.takeWhile Text.isDecimal).length < text.length then .error (.badLiteral text)
      else .ok (some (valueOf (text.takeWhile Text.isDecimal))) := by
  have guarded : ¬(text.isEmpty || !text.all Text.isDigitLike) = true := by
    simpa [figured.1] using figured.2
  have few : ¬digitLimit < (text.takeWhile Text.isDecimal).length :=
    Nat.not_lt.mpr (Nat.le_trans (List.takeWhile_sublist _).length_le short)
  rw [readIndex?, if_neg guarded]
  dsimp only
  rw [if_neg few]

theorem index_decimal {text : Text} (figured : Figured text) (short : text.length ≤ digitLimit)
    (decimal : ∀ c ∈ text, Text.isDecimal c = true) : readIndex? text = .ok (some (valueOf text)) := by
  rw [index_figured figured short, List.takeWhile_eq_self_iff.mpr decimal, if_neg (Nat.lt_irrefl _)]

theorem index_mixed {text : Text} (figured : Figured text) (short : text.length ≤ digitLimit) {c : Char}
    (member : c ∈ text) (sign : Text.isDecimal c = false) : readIndex? text = .error (.badLiteral text) := by
  have within := List.takeWhile_prefix (l := text) Text.isDecimal
  have shorter : (text.takeWhile Text.isDecimal).length < text.length := by
    refine Nat.lt_of_le_of_ne within.length_le fun same => ?_
    have decimal := List.takeWhile_eq_self_iff.mp (within.eq_of_length same) c member
    exact absurd (sign.symm.trans decimal) Bool.false_ne_true
  rw [index_figured figured short, if_pos shorter]

end Numeral

namespace Env

def positionals (env : Env) : List Text := env.path.describe :: env.arguments

theorem resolve_positional (env : Env) (strict : Bool) (text : Text) :
    env.resolve strict ('#' :: text) =
      match Numeral.readIndex? text with
      | .ok none => .ok (.text [])
      | .ok (some n) => .ok (.text (env.positionals.getD n []))
      | .error broken => .error (.breakdown broken) := by
  rw [resolve.eq_def, if_pos List.head?_cons, argumentAt, List.tail_cons]
  rcases Numeral.readIndex? text with broken | _ | _ | n <;> rfl

theorem positional_member (env : Env) (n : Nat) :
    env.positionals.getD n [] = [] ∨ env.positionals.getD n [] ∈ env.positionals := by
  rw [List.getD_eq_getElem?_getD]
  cases found : env.positionals[n]? with
  | none => exact .inl rfl
  | some argument => exact .inr (List.mem_of_getElem? found)

structure Answers (env : Env) (text : Text) (outcome : Except Failure Value) : Prop where
  other : ¬Numeral.Figured text → outcome = .ok (.text [])
  number : Numeral.Figured text → (∀ c ∈ text, Text.isDecimal c = true) →
    outcome = .ok (.text (env.positionals.getD (Numeral.valueOf text) []))
  fails : ∀ failure, outcome = .error failure ↔
    failure = .breakdown (.badLiteral text) ∧ Numeral.Figured text ∧ ∃ c ∈ text, Text.isDecimal c = false
  given : ∀ value, outcome = .ok value → ∃ answer, value = .text answer ∧ (answer = [] ∨ answer ∈ env.positionals)

theorem resolve_answers (env : Env) (strict : Bool) {text : Text} (short : text.length ≤ digitLimit) :
    env.Answers text (env.resolve strict ('#' :: text)) := by
  rw [resolve_positional]
  by_cases figured : Numeral.Figured text
  · by_cases decimal : ∀ c ∈ text, Text.isDecimal c = true
    · rw [Numeral.index_decimal figured short decimal]
      refine ⟨absurd figured, fun _ _ => rfl, fun failure => ⟨nofun, ?_⟩, ?_⟩
      · rintro ⟨_, _, c, member, sign⟩
        exact absurd (sign.symm.trans (decimal c member)) Bool.false_ne_true
      · rintro _ ⟨⟩
        exact ⟨_, rfl, env.positional_member _⟩
    · obtain ⟨c, member, sign⟩ : ∃ c ∈ text, Text.isDecimal c = false := by simpa using decimal
      rw [Numeral.index_mixed figured short member sign]
      refine ⟨absurd figured, fun _ whole => absurd whole decimal, fun failure => ⟨?_, ?_⟩, nofun⟩
      · rintro ⟨⟩
        exact ⟨rfl, figured, c, member, sign⟩
      · rintro ⟨rfl, _⟩
        rfl
  · rw [Numeral.index_other figured]
    refine ⟨fun _ => rfl, fun asked => absurd asked figured, fun failure => ⟨nofun, ?_⟩, ?_⟩
    · exact fun asked => absurd asked.2.1 figured
    · rintro _ ⟨⟩
      exact ⟨[], rfl, .inl rfl⟩

-- A short text is an integer or none unless it is an integer beside an information separator, and it asks
-- for an argument or for nothing unless it has a digit sign among its digits.
theorem conversions_guarded (env : Env) (strict : Bool) (text : Text) (short : text.length ≤ digitLimit) :
    Numeral.Converts text (Value.text text).integer? ∧ env.Answers text (env.resolve strict ('#' :: text)) :=
  ⟨Numeral.read_converts short, env.resolve_answers strict short⟩

def invoked : Env := ⟨.empty, ["main".toList], ["one".toList, "two".toList]⟩

theorem conversions_guarded_devanagari : "२".toList.length ≤ digitLimit ∧
    (Value.text "२".toList).integer? = .ok (some 2) ∧
    invoked.resolve true "#२".toList = .ok (.text "two".toList) := by
  have short : "२".toList.length ≤ digitLimit := by decide
  have decimal : ∀ c ∈ "२".toList, Text.isDecimal c = true := List.all_eq_true.mp (by decide)
  obtain ⟨converts, answers⟩ := conversions_guarded invoked true "२".toList short
  refine ⟨short, (converts.integer 2).mpr ?_, answers.number ⟨by decide, List.all_eq_true.mp (by decide)⟩ decimal⟩
  refine ⟨⟨[], none, "२".toList, [], nofun, by decide, decimal, nofun⟩, rfl, ?_, rfl⟩
  rintro ⟨c, member, _⟩
  cases member

theorem conversions_unguarded : ¬∀ (env : Env) (strict : Bool) (text : Text), text.length ≤ digitLimit →
    (∃ number, (Value.text text).integer? = .ok number) ∧
      ∃ answer, env.resolve strict ('#' :: text) = .ok (.text answer) ∧ (answer = [] ∨ answer ∈ env.positionals) := by
  intro claimed
  have short : "²".toList.length ≤ digitLimit := by decide
  obtain ⟨answer, given, _⟩ := (claimed invoked false "²".toList short).2
  have fails := (resolve_answers invoked false short).fails (.breakdown (.badLiteral "²".toList))
  cases (fails.mpr ⟨rfl, ⟨by decide, List.all_eq_true.mp (by decide)⟩, '²', by decide, by decide⟩).symm.trans given

end Env
end BareBones
