import BareBones.Proofs.Arithmetic
import BareBones.Proofs.Blame
import BareBones.Proofs.Headers

set_option autoImplicit false

namespace BareBones

def Faulty {α : Type} (kind : FaultKind) (outcome : Except Failure α) : Prop :=
  ∃ fault, outcome = .error (.fault fault) ∧ fault.kind = kind

def Failure.Defined : Failure → Prop
  | .fault found => found.kind ≠ .undefinedVariable
  | .signal _ | .breakdown _ => True

theorem defined_found {α : Type} {outcome : Except Failure α} (defined : Fails Failure.Defined outcome) :
    ¬Faulty .undefinedVariable outcome := by
  rintro ⟨fault, failed, kind⟩
  exact defined _ failed kind

theorem letter_undecimal (c : Char) (letter : (c.isAlpha || c == '_') = true) : Text.isDecimal c = false := by
  have bounds : 58 ≤ c.toNat ∧ c.toNat ≤ 122 := by
    delta Char.isAlpha Char.isUpper Char.isLower at letter
    simp only [Bool.or_eq_true, Bool.and_eq_true, decide_eq_true_eq, ge_iff_le, UInt32.le_iff_toNat_le,
      beq_iff_eq] at letter
    rcases letter with (⟨low, high⟩ | ⟨low, high⟩) | rfl
    · exact ⟨Nat.le_trans (by decide) low, Nat.le_trans high (by decide)⟩
    · exact ⟨Nat.le_trans (by decide) low, high⟩
    · decide
  have apart : ∀ first ∈ Text.zeros, first + 10 ≤ 58 ∨ 122 < first := by decide
  have missed : Text.zeros.find? (fun first => first ≤ c.toNat && c.toNat < first + 10) = none := by
    rw [List.find?_eq_none]
    intro first member
    have away := apart first member
    simp only [Bool.and_eq_true, decide_eq_true_eq]
    omega
  rw [Text.isDecimal, Text.digitValue?, missed]
  rfl

theorem letter_unsigned (c : Char) (rest : Text) (letter : (c.isAlpha || c == '_') = true) :
    Numeral.signedDigits? (c :: rest) = none := by
  have plus : c ≠ '+' := by
    rintro rfl
    exact absurd letter (by decide)
  have minus : c ≠ '-' := by
    rintro rfl
    exact absurd letter (by decide)
  have whole : Numeral.splitSign (c :: rest) = (.plus, c :: rest) := by
    unfold Numeral.splitSign
    split
    · rename_i same
      cases same
      exact absurd rfl plus
    · rename_i same
      cases same
      exact absurd rfl minus
    · rfl
  simp [Numeral.signedDigits?, whole, letter_undecimal c letter]

namespace Env

section

variable {name : Text}

theorem identifier_letter (identifier : isIdentifier name = true) :
    ∃ c rest, name = c :: rest ∧ (c.isAlpha || c == '_') = true := by
  unfold isIdentifier at identifier
  dsimp only at identifier
  split at identifier
  · cases identifier
  · rename_i c body whole
    have letter := (Bool.and_eq_true_iff.mp identifier).1
    split at whole
    · cases name with
      | nil => cases whole
      | cons d rest =>
          cases rest with
          | nil => cases whole
          | cons e others =>
              cases whole
              exact ⟨_, _, rfl, letter⟩
    · exact ⟨c, body, whole, letter⟩

theorem identifier_unread (identifier : isIdentifier name = true) : Numeral.read? name = .ok none := by
  obtain ⟨c, rest, rfl, letter⟩ := identifier_letter identifier
  have solid : Text.isBlank c = false := by
    apply (name_char c _).solid
    rcases Bool.or_eq_true_iff.mp letter with alpha | line
    · simp [Char.isAlphanum, alpha]
    · simp [line]
  have starts : Text.trimStart (c :: rest) = c :: rest := by simp [Text.trimStart, solid]
  have unsigned : Numeral.signedDigits? (Text.trim (c :: rest)) = none := by
    rw [Text.trim, starts]
    have within := Text.trim_end_prefix (c :: rest)
    cases trimmed : Text.trimEnd (c :: rest) with
    | nil => rfl
    | cons d others =>
        rw [trimmed] at within
        obtain ⟨rfl, _⟩ := List.cons_prefix_cons.mp within
        exact letter_unsigned d others letter
  rw [Numeral.read?, unsigned]

end

theorem literal_defined (token : Text) : Fails Failure.Defined (literal false token) := by
  unfold literal
  split
  · rename_i impossible
    cases impossible
  · split
    · exact fails_ok _
    · exact fails_ok _
    · exact fails_error _ trivial

theorem integer_defined (operator : Operator) (token : Text) (value : Value) :
    Fails Failure.Defined (integerOf operator token value) := by
  unfold integerOf
  split
  · exact fails_ok 0
  · split
    · exact fails_ok _
    · split
      · refine fails_error _ fun undefined => ?_
        cases undefined
      · exact fails_error _ trivial
    · exact fails_error _ trivial

theorem zero_divisor_defined (left right : Int) (cause : Text → Text → Cause)
    (divides : ∀ one other, (cause one other).kind = .divisionByZero) :
    Fails Failure.Defined (Operator.apply.zeroDivisor left right cause) := by
  unfold Operator.apply.zeroDivisor
  split
  · refine fails_error _ fun undefined => ?_
    cases (divides _ _).symm.trans undefined
  · exact fails_error _ trivial

theorem apply_defined (operator : Operator) (left right : Int) :
    Fails Failure.Defined (operator.apply left right) := by
  cases operator with
  | add | sub | mul => exact fails_ok _
  | div | mod =>
      rw [Operator.apply]
      split
      · exact zero_divisor_defined left right _ fun _ _ => rfl
      · exact fails_ok _

theorem resolve_defined (env : Env) (token : Text) : Fails Failure.Defined (env.resolve false token) := by
  rw [resolve]
  split
  · split
    · exact fails_ok _
    · exact fails_error _ trivial
  · split
    · exact fails_ok _
    · split
      · exact literal_defined token
      · rename_i operator left right found
        have shorter := operation_shorter token Operator.all operator left right found
        refine fails_choice (fails_ok _) (resolve_defined env left) fun leftValue => ?_
        refine fails_bind (integer_defined operator token leftValue) fun leftInteger => ?_
        refine fails_choice (fails_ok _) (resolve_defined env right) fun rightValue => ?_
        refine fails_bind (integer_defined operator token rightValue) fun rightInteger => ?_
        exact fails_bind (apply_defined operator leftInteger rightInteger) fun _ => fails_ok _
termination_by token.length

def Wants (env : Env) {α : Type} (outcome : Except Failure α) : Prop :=
  ∃ name, isIdentifier name = true ∧ env.store.read? env.path name = none ∧
    outcome = .error (.fault (.of (.undefined name)))

def Tightens (env : Env) {α : Type} (taken : Except Failure α → Prop) (strict lenient : Except Failure α) : Prop :=
  strict = lenient ∨ env.Wants strict ∧ taken lenient

-- A name was taken for a text: it is what was read, or an operation has refused it.
def Loose (token : Text) (outcome : Except Failure Value) : Prop :=
  isIdentifier token = true ∧ outcome = .ok (.text token) ∨ Faulty .unsupportedOperator outcome

section

variable {env : Env} {α β : Type}

theorem wants_bind {outcome : Except Failure α} (next : α → Except Failure β) (wants : env.Wants outcome) :
    env.Wants (outcome >>= next) := by
  obtain ⟨name, identifier, unbound, rfl⟩ := wants
  exact ⟨name, identifier, unbound, rfl⟩

theorem faulty_bind {kind : FaultKind} {outcome : Except Failure α} (next : α → Except Failure β)
    (faulty : Faulty kind outcome) : Faulty kind (outcome >>= next) := by
  obtain ⟨fault, rfl, same⟩ := faulty
  exact ⟨fault, rfl, same⟩

theorem tightens_bind {strict lenient : Except Failure α} {next later : α → Except Failure β}
    (first : env.Tightens (Faulty .unsupportedOperator) strict lenient)
    (second : ∀ a, env.Tightens (Faulty .unsupportedOperator) (next a) (later a)) :
    env.Tightens (Faulty .unsupportedOperator) (strict >>= next) (lenient >>= later) := by
  rcases first with rfl | ⟨wants, refused⟩
  · cases strict with
    | error failure => exact .inl rfl
    | ok a => exact second a
  · exact .inr ⟨wants_bind next wants, faulty_bind later refused⟩

theorem literal_tightens (token : Text) (unbound : env.store.read? env.path token = none) :
    env.Tightens (Loose token) (literal true token) (literal false token) := by
  by_cases named : isIdentifier token = true
  · right
    refine ⟨⟨token, named, unbound, ?_⟩, .inl ⟨named, ?_⟩⟩
    · simp [literal, named]
    · simp [literal, identifier_unread named]
  · left
    simp [literal, named]

theorem integer_loose (operator : Operator) (token part : Text) {outcome : Except Failure Value}
    (loose : Loose part outcome) : Faulty .unsupportedOperator (outcome >>= integerOf operator token) := by
  rcases loose with ⟨named, rfl⟩ | refused
  · have proper : Value.text part ≠ .text [] := fun same =>
      (identifier_operand named).2.1 (Value.text.inj same)
    have unread : (Value.text part).integer? = .ok none := identifier_unread named
    change Faulty _ (integerOf operator token (.text part))
    rw [integerOf, if_neg proper, unread]
    exact ⟨_, rfl, rfl⟩
  · exact faulty_bind _ refused

theorem field_tightens (operator : Operator) (token part : Text)
    (tightens : env.Tightens (Loose part) (env.resolve true part) (env.resolve false part)) :
    env.Tightens (Faulty .unsupportedOperator) (env.field true operator token part)
      (env.field false operator token part) := by
  unfold field
  by_cases blank : part = []
  · exact .inl (by rw [if_pos blank, if_pos blank])
  · rw [if_neg blank, if_neg blank]
    rcases tightens with same | ⟨wants, loose⟩
    · exact .inl (by rw [same])
    · exact .inr ⟨wants_bind _ wants, integer_loose operator token part loose⟩

theorem operation_tightens {token left right : Text} {operator : Operator} (other : token.head? ≠ some '#')
    (unbound : env.store.read? env.path token = none)
    (found : operation? token Operator.all = some (operator, left, right))
    (leftTightens : env.Tightens (Loose left) (env.resolve true left) (env.resolve false left))
    (rightTightens : env.Tightens (Loose right) (env.resolve true right) (env.resolve false right)) :
    env.Tightens (Faulty .unsupportedOperator) (env.resolve true token) (env.resolve false token) := by
  rw [resolve_operation env true other unbound found, resolve_operation env false other unbound found]
  refine tightens_bind (field_tightens operator token left leftTightens) fun _ => ?_
  exact tightens_bind (field_tightens operator token right rightTightens) fun _ => .inl rfl

end

theorem resolve_tightens (env : Env) (token : Text) :
    env.Tightens (Loose token) (env.resolve true token) (env.resolve false token) := by
  by_cases asks : token.head? = some '#'
  · left
    rw [resolve.eq_def, if_pos asks, resolve.eq_def, if_pos asks]
  cases bound : env.store.read? env.path token with
  | some value =>
      left
      rw [resolve_bound env true token value asks bound, resolve_bound env false token value asks bound]
  | none =>
      cases found : operation? token Operator.all with
      | none =>
          rw [resolve_literal env true asks bound found, resolve_literal env false asks bound found]
          exact literal_tightens token bound
      | some parts =>
          obtain ⟨operator, left, right⟩ := parts
          have shorter := operation_shorter token Operator.all operator left right found
          have tightens := operation_tightens asks bound found (resolve_tightens env left)
            (resolve_tightens env right)
          exact tightens.imp_right fun ⟨wants, refused⟩ => ⟨wants, .inr refused⟩
termination_by token.length

-- A strict reader wants a name that is not bound or comes to what a lenient one comes to. That one wants nothing,
-- and where the strict one does, it gives back the token or finds that it is no operand of an operation.
theorem resolve_strictly (env : Env) (token : Text) :
    (env.Wants (env.resolve true token) ∨ env.resolve true token = env.resolve false token) ∧
      ¬Faulty .undefinedVariable (env.resolve false token) ∧
      (Faulty .undefinedVariable (env.resolve true token) →
        env.resolve false token = .ok (.text token) ∨
          Faulty .unsupportedOperator (env.resolve false token)) := by
  have known := defined_found (resolve_defined env token)
  rcases resolve_tightens env token with same | ⟨wants, loose⟩
  · refine ⟨.inr same, known, fun undefined => ?_⟩
    rw [same] at undefined
    exact absurd undefined known
  · exact ⟨.inl wants, known, fun _ => loose.imp_left And.right⟩

end Env
end BareBones
