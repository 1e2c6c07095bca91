import BareBones.Proofs.Escaping
import BareBones.Proofs.Scanning

set_option autoImplicit false

namespace BareBones

structure Division (a b quotient remainder : Int) : Prop where
  whole : a = b * quotient + remainder
  small : remainder.natAbs < b.natAbs
  signed : remainder = 0 ∨ remainder.sign = a.sign
  toward : quotient = a.sign * b.sign * (a.natAbs / b.natAbs : Nat)

def Divides (a b : Int) (part : Int → Int → Int) (outcome : Except Failure Value) : Prop :=
  ((∃ fault, outcome = .error (.fault fault) ∧ fault.kind = .divisionByZero) ↔ b = 0) ∧
    (b ≠ 0 → ∃ quotient remainder, Division a b quotient remainder ∧
      outcome = .ok (.int (part quotient remainder)))

def Operator.Computes (a b : Int) (outcome : Except Failure Value) : Operator → Prop
  | .add => outcome = .ok (.int (a + b))
  | .sub => outcome = .ok (.int (a - b))
  | .mul => outcome = .ok (.int (a * b))
  | .div => Divides a b (fun quotient _ => quotient) outcome
  | .mod => Divides a b (fun _ remainder => remainder) outcome

def Value.Holds (n : Int) (value : Value) : Prop :=
  value = .int n ∨ value = .text (Text.ofInt n)

section

variable {a b : Int}

theorem remainder_signed (a b : Int) : a.tmod b = 0 ∨ (a.tmod b).sign = a.sign := by
  by_cases zero : a.tmod b = 0
  · exact .inl zero
  have nonzero : a ≠ 0 := by
    rintro rfl
    exact zero (Int.zero_tmod b)
  right
  rcases Int.le_total 0 a with up | down
  · have bound := Int.tmod_nonneg b up
    rw [Int.sign_eq_one_of_pos (by omega), Int.sign_eq_one_of_pos (by omega)]
  · have bound := Int.tmod_nonneg b (Int.neg_nonneg_of_nonpos down)
    rw [Int.neg_tmod] at bound
    rw [Int.sign_eq_neg_one_of_neg (by omega), Int.sign_eq_neg_one_of_neg (by omega)]

theorem quotient_toward (a b : Int) : a.tdiv b = a.sign * b.sign * (a.natAbs / b.natAbs : Nat) := by
  have size : (a.tdiv b).natAbs = a.natAbs / b.natAbs := Int.natAbs_tdiv a b
  calc a.tdiv b = (a.tdiv b).sign * (a.tdiv b).natAbs := (Int.sign_mul_natAbs _).symm
    _ = a.sign * b.sign * (a.tdiv b).natAbs := by
      by_cases less : a.natAbs < b.natAbs
      · have nothing : (a.tdiv b).natAbs = 0 := size.trans (Nat.div_eq_of_lt less)
        simp [nothing]
      · rw [Int.sign_tdiv, if_neg less]
    _ = a.sign * b.sign * (a.natAbs / b.natAbs : Nat) := by rw [size]

theorem division_truncates (a b : Int) (divisor : b ≠ 0) : Division a b (a.tdiv b) (a.tmod b) := by
  refine ⟨(Int.mul_tdiv_add_tmod a b).symm, ?_, remainder_signed a b, quotient_toward a b⟩
  rw [Int.natAbs_tmod]
  exact Nat.mod_lt _ (Int.natAbs_pos.mpr divisor)

theorem divides_truncates (a : Int) (part : Int → Int → Int) (divisor : b ≠ 0) :
    Divides a b part (.ok (.int (part (a.tdiv b) (a.tmod b)))) := by
  refine ⟨⟨?_, fun zero => absurd zero divisor⟩, fun _ => ?_⟩
  · rintro ⟨_, impossible, _⟩
    cases impossible
  · exact ⟨_, _, division_truncates a b divisor, rfl⟩

theorem divides_zero (a : Int) (part : Int → Int → Int) {fault : Fault}
    (kind : fault.kind = .divisionByZero) : Divides a 0 part (.error (.fault fault)) :=
  ⟨⟨fun _ => rfl, fun _ => ⟨fault, rfl, kind⟩⟩, fun nonzero => absurd rfl nonzero⟩

theorem zero_divisor_fault (a b : Int) (cause : Text → Text → Cause) (short : Numeral.isWritable a = true) :
    Operator.apply.zeroDivisor a b cause = .error (.fault (.of (cause (Text.ofInt a) (Text.ofInt b)))) := by
  unfold Operator.apply.zeroDivisor
  rw [Numeral.write_short short]

theorem guarded_divides (a b c n : Int) (part : Int → Int → Int) (cause : Text → Text → Cause)
    (kind : ∀ one other, (cause one other).kind = .divisionByZero) (short : Numeral.isWritable a = true)
    (change : Int → Int) (computed : change n = part (c.tdiv b) (c.tmod b)) :
    Divides c b part ((if b = 0 then Operator.apply.zeroDivisor a b cause else .ok n).map
      fun n => .int (change n)) := by
  by_cases zero : b = 0
  · rw [if_pos zero, zero_divisor_fault a b cause short, zero]
    exact divides_zero c part (kind _ _)
  · rw [if_neg zero, Except.map, computed]
    exact divides_truncates c part zero

theorem apply_computes (operator : Operator) (b : Int) (short : Numeral.isWritable a = true) :
    operator.Computes a b ((operator.apply a b).map .int) := by
  cases operator with
  | add => rfl
  | sub => rfl
  | mul => rfl
  | div => exact guarded_divides a b a _ _ _ (fun _ _ => rfl) short id rfl
  | mod => exact guarded_divides a b a _ _ _ (fun _ _ => rfl) short id rfl

theorem apply_negated (operator : Operator) (a b : Int) (short : Numeral.isWritable a = true)
    (behind : operator ≠ .add ∧ operator ≠ .sub) :
    operator.Computes (-a) b ((operator.apply a b).map fun n => .int (0 - n)) := by
  cases operator with
  | add => exact absurd rfl behind.1
  | sub => exact absurd rfl behind.2
  | mul =>
      have same : 0 - a * b = -a * b := by rw [Int.neg_mul, Int.zero_sub]
      exact congrArg (fun n => Except.ok (Value.int n)) same
  | div =>
      have same : 0 - a.tdiv b = (-a).tdiv b := by rw [Int.neg_tdiv, Int.zero_sub]
      exact guarded_divides a b (-a) _ _ _ (fun _ _ => rfl) short (0 - ·) same
  | mod =>
      have same : 0 - a.tmod b = (-a).tmod b := by rw [Int.neg_tmod, Int.zero_sub]
      exact guarded_divides a b (-a) _ _ _ (fun _ _ => rfl) short (0 - ·) same

end

namespace Env

def Unmarked (text : Text) : Prop :=
  ∀ operator : Operator, operator.symbol ∉ text

theorem fields_absent (symbol : Char) (token : Text) (absent : symbol ∉ token) :
    fields? symbol token = none := by
  rw [fields?, Text.cut_absent symbol token absent]

theorem fields_found (symbol : Char) (left right : Text) (before : symbol ∉ left) (after : symbol ∉ right) :
    fields? symbol (left ++ symbol :: right) = some (left, right) := by
  simp only [fields?, Text.cut_found symbol left right before, Text.cut_absent symbol right after]

theorem operation_first (operator : Operator) (left right : Text) (operators : List Operator)
    (before : operator.symbol ∉ left) (after : operator.symbol ∉ right)
    (earlier : ∀ other ∈ operators.takeWhile (· != operator), other.symbol ∉ left ++ operator.symbol :: right)
    (listed : operator ∈ operators) :
    operation? (left ++ operator.symbol :: right) operators = some (operator, left, right) := by
  induction operators with
  | nil => cases listed
  | cons first others ih =>
      by_cases here : first = operator
      · rw [operation?, here, fields_found operator.symbol left right before after]
      · have later : operator ∈ others := (List.mem_cons.mp listed).resolve_left (Ne.symm here)
        rw [List.takeWhile_cons_of_pos (by simpa using here)] at earlier
        rw [operation?, fields_absent first.symbol _ (earlier first List.mem_cons_self)]
        exact ih (fun other member => earlier other (List.mem_cons_of_mem first member)) later

theorem operation_unmarked (token : Text) (unmarked : Unmarked token) (operators : List Operator) :
    operation? token operators = none := by
  induction operators with
  | nil => rfl
  | cons operator others ih =>
      rw [operation?, fields_absent operator.symbol token (unmarked operator)]
      exact ih

def field (env : Env) (strict : Bool) (operator : Operator) (token part : Text) : Except Failure Int := do
  integerOf operator token (← if part = [] then .ok (.int 0) else env.resolve strict part)

theorem resolve_operation (env : Env) (strict : Bool) {token left right : Text} {operator : Operator}
    (other : token.head? ≠ some '#') (unbound : env.store.read? env.path token = none)
    (found : operation? token Operator.all = some (operator, left, right)) :
    env.resolve strict token = (do
      let leftInteger ← env.field strict operator token left
      let rightInteger ← env.field strict operator token right
      return .int (← operator.apply leftInteger rightInteger)) := by
  rw [resolve.eq_def, if_neg other, unbound]
  dsimp only
  split
  · rename_i nothing
    rw [found] at nothing
    cases nothing
  · rename_i again
    rw [found] at again
    cases again
    by_cases blank : left = [] <;> by_cases empty : right = [] <;>
      simp only [field, blank, empty, if_true, if_false, bind_assoc]

theorem integer_of_int (operator : Operator) (token : Text) (n : Int) :
    integerOf operator token (.int n) = .ok n := rfl

theorem integer_held (operator : Operator) (token : Text) {n : Int} {value : Value} (holds : value.Holds n)
    (short : Numeral.isWritable n = true) : integerOf operator token value = .ok n := by
  rcases holds with rfl | rfl
  · exact integer_of_int operator token n
  · have proper : Value.text (Text.ofInt n) ≠ .text [] := fun same =>
      Text.of_int_proper n (Value.text.inj same)
    have reads : (Value.text (Text.ofInt n)).integer? = .ok (some n) := Numeral.read_of_int n short
    rw [integerOf, if_neg proper, reads]

theorem resolve_applied (env : Env) (strict : Bool) {token left right : Text} {operator : Operator} {a b : Int}
    (other : token.head? ≠ some '#') (unbound : env.store.read? env.path token = none)
    (found : operation? token Operator.all = some (operator, left, right))
    (leftField : env.field strict operator token left = .ok a)
    (rightField : env.field strict operator token right = .ok b) :
    env.resolve strict token = (operator.apply a b).map .int := by
  rw [resolve_operation env strict other unbound found, leftField, rightField]
  change (operator.apply a b >>= fun n => pure (Value.int n)) = _
  cases operator.apply a b <;> rfl

theorem resolve_minus (env : Env) (strict : Bool) (rest : Text) (proper : rest ≠ []) (plus : '+' ∉ rest)
    (minus : '-' ∉ rest) (unbound : env.store.read? env.path ('-' :: rest) = none) :
    env.resolve strict ('-' :: rest) =
      (env.resolve strict rest >>= integerOf .sub ('-' :: rest)).map fun n => .int (0 - n) := by
  have found : operation? ('-' :: rest) Operator.all = some (.sub, [], rest) := by
    refine operation_first .sub [] rest Operator.all List.not_mem_nil minus ?_ (by decide)
    intro other member
    have first : other = .add := by simpa [Operator.all] using member
    simpa [first, Operator.symbol] using plus
  have other : ('-' :: rest).head? ≠ some '#' := by simp
  rw [resolve_operation env strict other unbound found]
  have right : env.field strict .sub ('-' :: rest) rest =
      env.resolve strict rest >>= integerOf .sub ('-' :: rest) := by
    rw [field, if_neg proper]
  have left : env.field strict .sub ('-' :: rest) [] = .ok 0 := rfl
  rw [left, right]
  cases env.resolve strict rest >>= integerOf .sub ('-' :: rest) <;> rfl

def Figures (text : Text) : Prop :=
  ∀ c ∈ text, c.isDigit = true ∨ ∃ operator : Operator, c = operator.symbol

theorem symbol_injective (one other : Operator) (same : one.symbol = other.symbol) : one = other := by
  cases one <;> cases other <;> first | rfl | cases same

theorem symbol_bounds (operator : Operator) : operator.symbol.toNat < 48 := by
  cases operator <;> decide

theorem digit_unmarked (c : Char) (digit : c.isDigit = true) (operator : Operator) : c ≠ operator.symbol := by
  rintro rfl
  have low := (Text.digit_bounds _ digit).1
  have high := symbol_bounds operator
  omega

theorem decimal_proper (n : Nat) : Text.ofNat n ≠ [] := Nat.toDigits_ne_nil

theorem decimal_unmarked (n : Nat) : Unmarked (Text.ofNat n) := fun operator member =>
  digit_unmarked _ (Text.of_nat_digits n _ member) operator rfl

theorem decimal_figures (n : Nat) : Figures (Text.ofNat n) := fun c member =>
  .inl (Text.of_nat_digits n c member)

theorem integer_figures (n : Int) : Figures (Text.ofInt n) := by
  intro c member
  unfold Text.ofInt at member
  split at member
  · rcases List.mem_cons.mp member with rfl | digit
    · exact .inr ⟨.sub, rfl⟩
    · exact decimal_figures _ c digit
  · exact decimal_figures _ c member

theorem figures_joined {left right : Text} (operator : Operator) (leftFigures : Figures left)
    (rightFigures : Figures right) : Figures (left ++ operator.symbol :: right) := by
  intro c member
  rcases List.mem_append.mp member with before | behind
  · exact leftFigures c before
  · rcases List.mem_cons.mp behind with rfl | after
    · exact .inr ⟨operator, rfl⟩
    · exact rightFigures c after

theorem figures_head {text : Text} (figures : Figures text) : text.head? ≠ some '#' := by
  intro first
  rcases figures '#' (List.mem_of_head? first) with digit | ⟨operator, same⟩
  · exact absurd digit (by decide)
  · cases operator <;> cases same

theorem integer_symbols (n : Int) (operator : Operator) (member : operator.symbol ∈ Text.ofInt n) :
    operator = .sub ∧ n < 0 := by
  unfold Text.ofInt at member
  split at member
  · rename_i negative
    rcases List.mem_cons.mp member with minus | digit
    · refine ⟨?_, negative⟩
      cases operator <;> first | rfl | cases minus
    · exact absurd digit (decimal_unmarked _ operator)
  · exact absurd member (decimal_unmarked _ operator)

theorem decimal_unnamed (n : Nat) : isIdentifier (Text.ofNat n) = false := by
  obtain ⟨first, rest, digits, digit⟩ := Text.of_nat_first n
  have last : (first :: rest).getLast? ≠ some '\n' := by
    intro ends
    have member := List.mem_of_getLast? ends
    rw [← digits] at member
    exact absurd (Text.of_nat_digits n _ member) (by decide)
  obtain ⟨low, high⟩ := Text.digit_bounds first digit
  have line : first ≠ '_' := by
    rintro rfl
    exact absurd high (by decide)
  have letter : first.isAlpha = false := by
    delta Char.isAlpha Char.isUpper Char.isLower
    simp only [Bool.or_eq_false_iff, Bool.and_eq_false_iff, decide_eq_false_iff_not, ge_iff_le,
      UInt32.le_iff_toNat_le]
    change ¬(65 ≤ first.toNat ∧ _) ∧ (¬ 97 ≤ first.toNat ∨ _)
    omega
  simp [isIdentifier, digits, last, letter, line]

theorem resolve_literal (env : Env) (strict : Bool) {token : Text} (other : token.head? ≠ some '#')
    (unbound : env.store.read? env.path token = none) (plain : operation? token Operator.all = none) :
    env.resolve strict token = literal strict token := by
  rw [resolve.eq_def, if_neg other, unbound]
  dsimp only
  split
  · rfl
  · rename_i found
    rw [plain] at found
    cases found

theorem resolve_digits (env : Env) (strict : Bool) (n : Nat) (short : Numeral.isWritable n = true)
    (unbound : env.store.read? env.path (Text.ofNat n) = none) :
    env.resolve strict (Text.ofNat n) = .ok (.int n) := by
  have reads : Numeral.read? (Text.ofNat n) = .ok (some n) := Numeral.read_of_int n short
  rw [resolve_literal env strict (figures_head (decimal_figures n)) unbound
    (operation_unmarked _ (decimal_unmarked n) Operator.all)]
  simp [literal, decimal_unnamed, reads]

theorem identifier_parts {name : Text} (identifier : isIdentifier name = true) :
    name ≠ [] ∧ ∀ c ∈ name, (c.isAlphanum || c == '_') = true ∨ c = '\n' := by
  unfold isIdentifier at identifier
  dsimp only at identifier
  generalize trimmed : (if name.getLast? == some '\n' then name.dropLast else name) = body at identifier
  cases body with
  | nil => cases identifier
  | cons c rest =>
      simp only [Bool.and_eq_true, List.all_eq_true] at identifier
      have parts : ∀ d ∈ c :: rest, (d.isAlphanum || d == '_') = true := by
        refine List.forall_mem_cons.mpr ⟨?_, identifier.2⟩
        rcases Bool.or_eq_true_iff.mp identifier.1 with letter | line
        · simp [Char.isAlphanum, letter]
        · simp [line]
      by_cases ends : name.getLast? = some '\n'
      · rw [if_pos (by simpa using ends)] at trimmed
        obtain ⟨start, rfl⟩ := List.getLast?_eq_some_iff.mp ends
        rw [List.dropLast_concat] at trimmed
        subst trimmed
        refine ⟨by simp, fun d member => ?_⟩
        rcases List.mem_append.mp member with inner | feed
        · exact .inl (parts d inner)
        · exact .inr (List.mem_singleton.mp feed)
      · rw [if_neg (by simpa using ends)] at trimmed
        subst trimmed
        exact ⟨List.cons_ne_nil c rest, fun d member => .inl (parts d member)⟩

theorem identifier_operand {name : Text} (identifier : isIdentifier name = true) :
    Unmarked name ∧ name ≠ [] ∧ name.head? ≠ some '#' := by
  obtain ⟨proper, parts⟩ := identifier_parts identifier
  have apart : ∀ c : Char, c.toNat < 48 → c ≠ '\n' → c ∉ name := by
    intro c low line member
    rcases parts c member with part | rfl
    · have bounds := name_bounds c part
      omega
    · exact line rfl
  refine ⟨fun operator => apart _ (symbol_bounds operator) ?_, proper, fun first => ?_⟩
  · cases operator <;> decide
  · exact apart '#' (by decide) (by decide) (List.mem_of_head? first)

theorem operation_joined (operator : Operator) {left right : Text} (leftPlain : Unmarked left)
    (rightPlain : Unmarked right) :
    operation? (left ++ operator.symbol :: right) Operator.all = some (operator, left, right) := by
  refine operation_first operator left right _ (leftPlain operator) (rightPlain operator) ?_
    (by cases operator <;> decide)
  intro other member inside
  have apart : other.symbol ≠ operator.symbol := by
    intro same
    have differs : other ≠ operator := by simpa using List.mem_takeWhile_imp member
    exact differs (symbol_injective other operator same)
  rcases List.mem_append.mp inside with before | behind
  · exact leftPlain other before
  · rcases List.mem_cons.mp behind with same | after
    · exact apart same
    · exact rightPlain other after

theorem joined_head {left : Text} (right : Text) (operator : Operator) (proper : left ≠ [])
    (first : left.head? ≠ some '#') : (left ++ operator.symbol :: right).head? ≠ some '#' := by
  cases left with
  | nil => exact absurd rfl proper
  | cons c rest => exact first

theorem field_resolved (env : Env) (strict : Bool) (operator : Operator) (token : Text) {part : Text}
    {n : Int} (proper : part ≠ []) (resolved : env.resolve strict part = .ok (.int n)) :
    env.field strict operator token part = .ok n := by
  rw [field, if_neg proper, resolved]
  exact integer_of_int operator token n

theorem field_held (env : Env) (strict : Bool) (operator : Operator) (token : Text) {name : Text}
    {value : Value} {n : Int} (identifier : isIdentifier name = true)
    (bound : env.store.read? env.path name = some value) (holds : value.Holds n)
    (short : Numeral.isWritable n = true) : env.field strict operator token name = .ok n := by
  obtain ⟨_, proper, first⟩ := identifier_operand identifier
  rw [field, if_neg proper, resolve_bound env strict name value first bound]
  exact integer_held operator token holds short

section

variable {env : Env} {a b : Int}

theorem variables_computed (strict : Bool) (operator : Operator) {x y : Text} {one other : Value}
    (xNamed : isIdentifier x = true) (yNamed : isIdentifier y = true)
    (xBound : env.store.read? env.path x = some one) (yBound : env.store.read? env.path y = some other)
    (xHolds : one.Holds a) (yHolds : other.Holds b) (aShort : Numeral.isWritable a = true)
    (bShort : Numeral.isWritable b = true)
    (unbound : env.store.read? env.path (x ++ operator.symbol :: y) = none) :
    operator.Computes a b (env.resolve strict (x ++ operator.symbol :: y)) := by
  obtain ⟨xPlain, xProper, xFirst⟩ := identifier_operand xNamed
  rw [resolve_applied env strict (joined_head y operator xProper xFirst) unbound
    (operation_joined operator xPlain (identifier_operand yNamed).1)
    (field_held env strict operator _ xNamed xBound xHolds aShort)
    (field_held env strict operator _ yNamed yBound yHolds bShort)]
  exact apply_computes operator b aShort

theorem decimals_applied (strict : Bool) (operator : Operator) (m n : Nat)
    (mShort : Numeral.isWritable m = true) (nShort : Numeral.isWritable n = true)
    (figured : ∀ name, name ≠ [] → Figures name → env.store.read? env.path name = none) :
    env.resolve strict (Text.ofNat m ++ operator.symbol :: Text.ofNat n) = (operator.apply m n).map .int := by
  have unbound : ∀ k : Nat, env.store.read? env.path (Text.ofNat k) = none := fun k =>
    figured _ (decimal_proper k) (decimal_figures k)
  have figures := figures_joined operator (decimal_figures m) (decimal_figures n)
  exact resolve_applied env strict (figures_head figures) (figured _ (by simp) figures)
    (operation_joined operator (decimal_unmarked m) (decimal_unmarked n))
    (field_resolved env strict operator _ (decimal_proper m) (resolve_digits env strict m mShort (unbound m)))
    (field_resolved env strict operator _ (decimal_proper n) (resolve_digits env strict n nShort (unbound n)))

theorem integer_resolved (strict : Bool) (short : Numeral.isWritable a = true)
    (figured : ∀ name, name ≠ [] → Figures name → env.store.read? env.path name = none) :
    env.resolve strict (Text.ofInt a) = .ok (.int a) := by
  have unbound := figured _ (Text.of_int_proper a) (integer_figures a)
  have size : Numeral.isWritable (a.natAbs : Int) = true := short
  have digits := resolve_digits env strict a.natAbs size
    (figured _ (decimal_proper _) (decimal_figures a.natAbs))
  by_cases negative : a < 0
  · rw [Text.ofInt, if_pos negative] at unbound ⊢
    have whole : 0 - (a.natAbs : Int) = a := by omega
    rw [resolve_minus env strict _ (decimal_proper _) (decimal_unmarked _ .add) (decimal_unmarked _ .sub)
      unbound, digits]
    change Except.ok (Value.int (0 - (a.natAbs : Int))) = _
    rw [whole]
  · have whole : (a.natAbs : Int) = a := by omega
    rw [Text.ofInt, if_neg negative, digits, whole]

theorem integers_computed (strict : Bool) (operator : Operator) (aShort : Numeral.isWritable a = true)
    (bShort : Numeral.isWritable b = true)
    (range : operator = .add ∨ 0 ≤ b ∧ (operator = .sub → 0 ≤ a))
    (figured : ∀ name, name ≠ [] → Figures name → env.store.read? env.path name = none) :
    operator.Computes a b (env.resolve strict (Text.ofInt a ++ operator.symbol :: Text.ofInt b)) := by
  have figures := figures_joined operator (integer_figures a) (integer_figures b)
  have unbound := figured _ (by simp) figures
  by_cases added : operator = .add
  · -- A plus is looked for before a minus.
    subst added
    have plus : ∀ n : Int, Operator.add.symbol ∉ Text.ofInt n := fun n member => by
      cases (integer_symbols n .add member).1
    have found : operation? (Text.ofInt a ++ Operator.add.symbol :: Text.ofInt b) Operator.all =
        some (.add, Text.ofInt a, Text.ofInt b) :=
      operation_first .add _ _ _ (plus a) (plus b) (by simp [Operator.all]) (by decide)
    rw [resolve_applied env strict (figures_head figures) unbound found
      (field_resolved env strict .add _ (Text.of_int_proper a) (integer_resolved strict aShort figured))
      (field_resolved env strict .add _ (Text.of_int_proper b) (integer_resolved strict bShort figured))]
    exact apply_computes .add b aShort
  · obtain ⟨bound, subtracted⟩ := range.resolve_left added
    have right : Text.ofInt b = Text.ofNat b.natAbs := if_neg (Int.not_lt.mpr bound)
    have size : (b.natAbs : Int) = b := Int.natAbs_of_nonneg bound
    by_cases negative : a < 0
    · -- The minus of the first integer is the first operator of the token.
      have left : Text.ofInt a = '-' :: Text.ofNat a.natAbs := if_pos negative
      have whole : -(a.natAbs : Int) = a := by omega
      have below : operator ≠ .sub := fun same => Int.not_lt.mpr (subtracted same) negative
      have outside : ∀ other, other ≠ operator →
          other.symbol ∉ Text.ofNat a.natAbs ++ operator.symbol :: Text.ofNat b.natAbs := by
        intro other differs member
        rcases List.mem_append.mp member with before | behind
        · exact decimal_unmarked _ other before
        · rcases List.mem_cons.mp behind with same | after
          · exact differs (symbol_injective other operator same)
          · exact decimal_unmarked _ other after
      have computed := apply_negated operator a.natAbs b.natAbs aShort ⟨added, below⟩
      rw [left, right, List.cons_append] at unbound ⊢
      rw [resolve_minus env strict _ (by simp) (outside .add (Ne.symm added)) (outside .sub (Ne.symm below))
        unbound, decimals_applied strict operator a.natAbs b.natAbs aShort bShort figured]
      rw [whole, size] at computed
      rw [size]
      cases applied : operator.apply a.natAbs b with
      | error failure =>
          rw [applied] at computed
          exact computed
      | ok n =>
          rw [applied] at computed
          exact computed
    · have left : Text.ofInt a = Text.ofNat a.natAbs := if_neg negative
      have whole : (a.natAbs : Int) = a := by omega
      rw [left, right, decimals_applied strict operator a.natAbs b.natAbs aShort bShort figured, whole, size]
      exact apply_computes operator b aShort

end

-- Variables that hold two integers, and the integers themselves in digits, are added, subtracted,
-- multiplied and divided as integers are; a minus in front of a text without one takes it from zero.
theorem operations_computed (env : Env) (strict : Bool) (a b : Int) (aShort : Numeral.isWritable a = true)
    (bShort : Numeral.isWritable b = true) :
    (∀ (operator : Operator) (x y : Text) (one other : Value), isIdentifier x = true → isIdentifier y = true →
      env.store.read? env.path x = some one → env.store.read? env.path y = some other → one.Holds a →
      other.Holds b → env.store.read? env.path (x ++ operator.symbol :: y) = none →
      operator.Computes a b (env.resolve strict (x ++ operator.symbol :: y))) ∧
    ((∀ name, name ≠ [] → Figures name → env.store.read? env.path name = none) →
      ∀ operator : Operator, (operator = .add ∨ 0 ≤ b ∧ (operator = .sub → 0 ≤ a)) →
        operator.Computes a b (env.resolve strict (Text.ofInt a ++ operator.symbol :: Text.ofInt b))) ∧
    ∀ rest, rest ≠ [] → '+' ∉ rest → '-' ∉ rest → env.store.read? env.path ('-' :: rest) = none →
      ∀ n, env.resolve strict rest = .ok (.int n) → env.resolve strict ('-' :: rest) = .ok (.int (0 - n)) := by
  refine ⟨?_, ?_, ?_⟩
  · intro operator x y one other xNamed yNamed xBound yBound xHolds yHolds unbound
    exact variables_computed strict operator xNamed yNamed xBound yBound xHolds yHolds aShort bShort unbound
  · intro figured operator range
    exact integers_computed strict operator aShort bShort range figured
  · intro rest proper plus minus unbound n resolved
    rw [resolve_minus env strict rest proper plus minus unbound, resolved]
    rfl

def countings : Env :=
  ⟨((Store.empty.enter ["f".toList]).write ["f".toList] "X".toList (.int (-7))).write ["f".toList] "Y".toList
    (.text "2".toList), ["f".toList], []⟩

theorem operations_computed_division :
    Numeral.isWritable (-7) = true ∧ Numeral.isWritable 2 = true ∧
      Operator.Computes (-7) 2 (countings.resolve true "X/Y".toList) .div ∧
      (∀ name, name ≠ [] → Figures name → countings.store.read? countings.path name = none) ∧
      Operator.Computes (-7) 2 (countings.resolve false "-7%2".toList) .mod ∧
      countings.resolve false "7%2".toList = .ok (.int 1) ∧
      countings.resolve false "-7%2".toList = .ok (.int (0 - 1)) := by
  have aShort : Numeral.isWritable (-7) = true := Numeral.digit_writable (-7) (by decide)
  have bShort : Numeral.isWritable 2 = true := Numeral.digit_writable 2 (by decide)
  have figured : ∀ name, name ≠ [] → Figures name → countings.store.read? countings.path name = none := by
    intro name _ figures
    have stored : countings.store = ⟨.empty, .cons ['f'] ⟨[(['X'], .int (-7)), (['Y'], .text ['2'])], []⟩
        .nil .nil⟩ := by decide +kernel
    have reads : countings.store.read? countings.path name = Bindings.get? name
        [(['X'], Value.int (-7)), (['Y'], Value.text ['2'])] := by
      rw [stored]
      rfl
    have apart : ∀ c ∈ ['X', 'Y'], [c] ≠ name := by
      rintro c member rfl
      have letters : ∀ c ∈ ['X', 'Y'], 57 < c.toNat := by simp
      have high := letters c member
      rcases figures c List.mem_cons_self with digit | ⟨operator, rfl⟩
      · have bound := (Text.digit_bounds c digit).2
        omega
      · have bound := symbol_bounds operator
        omega
    rw [reads]
    exact (if_neg (apart 'X' (by decide))).trans (if_neg (apart 'Y' (by decide)))
  have bound : countings.store.read? countings.path "X".toList = some (.int (-7)) := by decide +kernel
  have other : countings.store.read? countings.path "Y".toList = some (.text (Text.ofInt 2)) := by
    decide +kernel
  have free : countings.store.read? countings.path ("X".toList ++ Operator.div.symbol :: "Y".toList) = none := by
    decide +kernel
  have minus : countings.store.read? countings.path "-7%2".toList = none := by decide +kernel
  have rest : countings.resolve false "7%2".toList = .ok (.int 1) := by decide +kernel
  have strictly := operations_computed countings true (-7) 2 aShort bShort
  have loosely := operations_computed countings false (-7) 2 aShort bShort
  exact ⟨aShort, bShort,
    strictly.1 .div "X".toList "Y".toList _ _ (by decide) (by decide) bound other (.inl rfl) (.inr rfl) free,
    figured, loosely.2.1 figured .mod (.inr ⟨by decide, nofun⟩), rest,
    loosely.2.2 "7%2".toList (by decide) (by decide) (by decide) minus 1 rest⟩

end Env

end BareBones
