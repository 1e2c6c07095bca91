import BareBones.Predicate
import BareBones.Proofs.Arithmetic
import BareBones.Proofs.Escaping
import Mathlib.Data.List.Basic

set_option autoImplicit false

namespace BareBones

inductive Canon where
  | integer (n : Int)
  | text (t : Text)
deriving DecidableEq, Repr

def Value.canon : Value → Canon
  | .int n => .integer n
  | .text t =>
      match Numeral.read? t with
      | .ok (some n) => .integer n
      | _ => .text t

def Value.Sound (value : Value) : Prop :=
  ∃ number, value.integer? = .ok number ∧ ∀ n ∈ number, Numeral.isWritable n = true

def Comparison.words : Comparison → List Text
  | .eq => ["is".toList, "==".toList]
  | .ne => ["not".toList, "!=".toList]
  | .lt => ["lt".toList, "<".toList]
  | .le => ["le".toList, "<=".toList]
  | .gt => ["gt".toList, ">".toList]
  | .ge => ["ge".toList, ">=".toList]

def Comparison.orders : Comparison → Bool
  | .eq | .ne => false
  | .lt | .le | .gt | .ge => true

def Unsupported (outcome : Except Failure Bool) : Prop :=
  ∃ fault, outcome = .error (.fault fault) ∧ fault.kind = .unsupportedOperator

structure Ordered (m n : Int) (outcome : Text → Except Failure Bool) : Prop where
  lt : ∀ word ∈ Comparison.lt.words, outcome word = .ok (decide (m < n))
  le : ∀ word ∈ Comparison.le.words, outcome word = .ok (decide (m ≤ n))
  gt : ∀ word ∈ Comparison.gt.words, outcome word = .ok (decide (n < m))
  ge : ∀ word ∈ Comparison.ge.words, outcome word = .ok (decide (n ≤ m))
  reversed : (∀ one ∈ Comparison.ge.words, ∀ other ∈ Comparison.lt.words,
      outcome one = (outcome other).map (!·)) ∧
    ∀ one ∈ Comparison.le.words, ∀ other ∈ Comparison.gt.words, outcome one = (outcome other).map (!·)
  single : ∀ less ∈ Comparison.lt.words, ∀ same ∈ Comparison.eq.words, ∀ more ∈ Comparison.gt.words,
    [outcome less, outcome same, outcome more].count (.ok true) = 1

theorem Bindings.get_member {κ α : Type} [DecidableEq κ] {key : κ} {value : α} {bindings : Bindings κ α}
    (found : bindings.get? key = some value) : (key, value) ∈ bindings := by
  induction bindings with
  | nil => cases found
  | cons binding rest ih =>
      rw [get?] at found
      by_cases same : binding.1 = key
      · rw [if_pos same] at found
        cases found
        cases same
        exact List.mem_cons_self
      · rw [if_neg same] at found
        exact List.mem_cons_of_mem binding (ih found)

namespace Comparison

theorem word_spells (word : Text) (comparison : Comparison) :
    ofWord? word = some comparison ↔ word ∈ comparison.words := by
  constructor
  · intro found
    have listed : ∀ spelling ∈ spellings, spelling.1 ∈ spelling.2.words := by decide
    exact listed _ (Bindings.get_member found)
  · intro member
    have spelled : ∀ word ∈ comparison.words, ofWord? word = some comparison := by
      cases comparison <;> decide
    exact spelled word member

theorem word_unknown (word : Text) : ofWord? word = none ↔ ∀ comparison : Comparison, word ∉ comparison.words := by
  rw [Option.eq_none_iff_forall_ne_some]
  exact forall_congr' fun comparison => not_congr (word_spells word comparison)

end Comparison

namespace Value

structure Counts (value : Value) (number : Option Int) (text : Text) : Prop where
  integer : value.integer? = .ok number
  written : value.written = .ok text
  reads : Numeral.read? text = .ok number

theorem sound_counts {value : Value} (sound : value.Sound) : ∃ number text, value.Counts number text := by
  obtain ⟨number, integer, short⟩ := sound
  cases value with
  | text t => exact ⟨number, t, integer, rfl, integer⟩
  | int n =>
      cases integer
      have writable := short n rfl
      exact ⟨some n, Text.ofInt n, rfl, Numeral.write_short writable, Numeral.read_of_int n writable⟩

theorem canon_number {value : Value} {n : Int} {text : Text} (counts : value.Counts (some n) text) :
    value.canon = .integer n := by
  cases value with
  | int m =>
      cases counts.integer
      rfl
  | text t =>
      have reads : Numeral.read? t = .ok (some n) := counts.integer
      rw [canon, reads]

theorem canon_text {value : Value} {text : Text} (counts : value.Counts none text) :
    value.canon = .text text := by
  cases value with
  | int m => cases counts.integer
  | text t =>
      have reads : Numeral.read? t = .ok none := counts.integer
      cases counts.written
      rw [canon, reads]

theorem canon_integer {value : Value} {number : Option Int} {text : Text} {n : Int}
    (counts : value.Counts number text) (canon : value.canon = .integer n) : number = some n := by
  cases number with
  | none =>
      rw [canon_text counts] at canon
      cases canon
  | some m =>
      rw [canon_number counts] at canon
      cases canon
      rfl

end Value

namespace Env

section

variable {left right : Value} {one other : Option Int} {leftText rightText : Text}

theorem unknown_unsupported (word : Text) (leftCounts : left.Counts one leftText)
    (rightCounts : right.Counts other rightText) : Unsupported (unknownComparison word left right) := by
  rw [unknownComparison, leftCounts.written, rightCounts.written]
  exact ⟨_, rfl, rfl⟩

theorem compare_unknown (word : Text) (leftCounts : left.Counts one leftText)
    (rightCounts : right.Counts other rightText) (unknown : ∀ comparison : Comparison, word ∉ comparison.words) :
    Unsupported (compareValues word left right) := by
  have none := (Comparison.word_unknown word).mpr unknown
  have unsupported := unknown_unsupported word leftCounts rightCounts
  unfold compareValues
  rw [leftCounts.integer, rightCounts.integer, none]
  cases one <;> cases other <;> exact unsupported

theorem compare_numbers {m n : Int} {word : Text} {comparison : Comparison}
    (leftCounts : left.Counts (some m) leftText) (rightCounts : right.Counts (some n) rightText)
    (spells : word ∈ comparison.words) :
    compareValues word left right = .ok (comparison.ofIntegers m n) := by
  have known := (Comparison.word_spells word comparison).mpr spells
  unfold compareValues
  rw [leftCounts.integer, rightCounts.integer, known]
  rfl

theorem compare_written {word : Text} {comparison : Comparison} (leftCounts : left.Counts one leftText)
    (rightCounts : right.Counts other rightText) (textual : one = none ∨ other = none)
    (spells : word ∈ comparison.words) :
    compareValues word left right =
      match comparison.ofTexts? leftText rightText with
      | some holds => .ok holds
      | none => unknownComparison word left right := by
  have known := (Comparison.word_spells word comparison).mpr spells
  have numbers : ∀ m n, one = some m → other = some n → False := by
    rintro m n rfl rfl
    rcases textual with impossible | impossible <;> cases impossible
  unfold compareValues
  rw [leftCounts.integer, rightCounts.integer, known]
  cases one <;> cases other
  case some.some m n => exact (numbers m n rfl rfl).elim
  all_goals
    cases comparison <;>
      simp only [orBreakdown, leftCounts.written, rightCounts.written, Comparison.ofTexts?] <;> rfl

theorem written_canon (leftCounts : left.Counts one leftText) (rightCounts : right.Counts other rightText)
    (textual : one = none ∨ other = none) : left.canon = right.canon ↔ leftText = rightText := by
  have alike : leftText = rightText → one = other := by
    rintro rfl
    exact Except.ok.inj (leftCounts.reads.symm.trans rightCounts.reads)
  cases one with
  | none =>
      rw [Value.canon_text leftCounts]
      cases other with
      | none =>
          rw [Value.canon_text rightCounts]
          exact ⟨Canon.text.inj, congrArg Canon.text⟩
      | some n =>
          rw [Value.canon_number rightCounts]
          exact ⟨nofun, fun same => by cases alike same⟩
  | some m =>
      cases other with
      | none =>
          rw [Value.canon_number leftCounts, Value.canon_text rightCounts]
          exact ⟨nofun, fun same => by cases alike same⟩
      | some n => rcases textual with impossible | impossible <;> cases impossible

theorem numbers_canon {m n : Int} (leftCounts : left.Counts (some m) leftText)
    (rightCounts : right.Counts (some n) rightText) : left.canon = right.canon ↔ m = n := by
  rw [Value.canon_number leftCounts, Value.canon_number rightCounts]
  exact ⟨Canon.integer.inj, congrArg Canon.integer⟩

theorem numbers_or_textual (one other : Option Int) :
    (∃ m n, one = some m ∧ other = some n) ∨ one = none ∨ other = none := by
  cases one with
  | none => exact .inr (.inl rfl)
  | some m =>
      cases other with
      | none => exact .inr (.inr rfl)
      | some n => exact .inl ⟨m, n, rfl, rfl⟩

theorem compare_equality (word : Text) (leftCounts : left.Counts one leftText)
    (rightCounts : right.Counts other rightText) :
    (word ∈ Comparison.eq.words → compareValues word left right = .ok (decide (left.canon = right.canon))) ∧
      (word ∈ Comparison.ne.words → compareValues word left right = .ok (!decide (left.canon = right.canon))) := by
  rcases numbers_or_textual one other with ⟨m, n, rfl, rfl⟩ | textual
  · have same : decide (left.canon = right.canon) = (m == n) :=
      decide_eq_decide.mpr (numbers_canon leftCounts rightCounts)
    rw [same]
    exact ⟨compare_numbers leftCounts rightCounts, compare_numbers leftCounts rightCounts⟩
  · have same : decide (left.canon = right.canon) = (leftText == rightText) := by
      rw [beq_eq_decide]
      exact decide_eq_decide.mpr (written_canon leftCounts rightCounts textual)
    rw [same]
    exact ⟨compare_written leftCounts rightCounts textual, compare_written leftCounts rightCounts textual⟩

theorem compare_ordered {m n : Int} (leftCounts : left.Counts (some m) leftText)
    (rightCounts : right.Counts (some n) rightText) : Ordered m n fun word => compareValues word left right := by
  have compared : ∀ comparison : Comparison, ∀ word ∈ comparison.words,
      compareValues word left right = .ok (comparison.ofIntegers m n) :=
    fun comparison word spells => compare_numbers leftCounts rightCounts spells
  have flipped : ∀ a b : Int, decide (a ≤ b) = !decide (b < a) := by
    intro a b
    rw [← decide_not]
    exact decide_eq_decide.mpr Int.not_lt.symm
  refine ⟨compared .lt, compared .le, compared .gt, compared .ge, ⟨?_, ?_⟩, ?_⟩
  · intro one spells other spelled
    rw [compared .ge one spells, compared .lt other spelled]
    exact congrArg Except.ok (flipped _ _)
  · intro one spells other spelled
    rw [compared .le one spells, compared .gt other spelled]
    exact congrArg Except.ok (flipped _ _)
  · intro less lesser same equal more greater
    rw [compared .lt less lesser, compared .eq same equal, compared .gt more greater]
    rcases Int.lt_trichotomy m n with below | level | above
    · simp [Comparison.ofIntegers, below, Int.not_lt.mpr (Int.le_of_lt below), Int.ne_of_lt below]
    · simp [Comparison.ofIntegers, level]
    · simp [Comparison.ofIntegers, above, Int.not_lt.mpr (Int.le_of_lt above), (Int.ne_of_lt above).symm]

theorem compare_unordered {word : Text} {comparison : Comparison} (leftCounts : left.Counts one leftText)
    (rightCounts : right.Counts other rightText) (textual : one = none ∨ other = none)
    (spells : word ∈ comparison.words) (orders : comparison.orders = true) :
    Unsupported (compareValues word left right) := by
  rw [compare_written leftCounts rightCounts textual spells]
  cases comparison with
  | eq | ne => cases orders
  | lt | le | gt | ge => exact unknown_unsupported word leftCounts rightCounts

end

structure Reads (env : Env) (name : Text) (value : Value) : Prop where
  named : name.head? ≠ some '#'
  bound : env.store.read? env.path name = some value
  sound : value.Sound

theorem compare_read {env : Env} {x y : Text} {v w : Value} (word : Text) (xReads : env.Reads x v)
    (yReads : env.Reads y w) : env.compare x word y = compareValues word v w := by
  rw [compare, resolve_bound env false x v xReads.named xReads.bound,
    resolve_bound env false y w yReads.named yReads.bound]
  rfl

theorem test_digits (env : Env) (name word : Text) (comparison : Comparison) (n : Nat) {predicate : Text}
    {value : Value} {m : Int} (parts : predicateParts predicate = .ok (name, word, Text.ofNat n))
    (spelled : Comparison.ofWord? word = some comparison) (named : name.head? ≠ some '#')
    (bound : env.store.read? env.path name = some value) (counts : value.integer? = .ok (some m))
    (short : Numeral.isWritable n = true) (unbound : env.store.read? env.path (Text.ofNat n) = none) :
    env.test predicate = .ok (comparison.ofIntegers m n) := by
  have left := resolve_bound env false name value named bound
  have right := resolve_digits env false n short unbound
  rw [test, parts]
  change env.compare name word (Text.ofNat n) = _
  rw [compare, left, right]
  change compareValues word value (.int n) = _
  unfold compareValues
  rw [counts, spelled]
  rfl

theorem comparisons_canonical (env : Env) :
    (∀ x y v w, env.Reads x v → env.Reads y w →
      (∀ word ∈ Comparison.eq.words, env.compare x word y = .ok (decide (v.canon = w.canon))) ∧
      (∀ word ∈ Comparison.ne.words, env.compare x word y = .ok (!decide (v.canon = w.canon))) ∧
      (∀ m n, v.canon = .integer m → w.canon = .integer n → Ordered m n fun word => env.compare x word y) ∧
      ((∀ m n, ¬(v.canon = .integer m ∧ w.canon = .integer n)) → ∀ comparison : Comparison,
        comparison.orders = true → ∀ word ∈ comparison.words, Unsupported (env.compare x word y)) ∧
      ∀ word, (∀ comparison : Comparison, word ∉ comparison.words) → Unsupported (env.compare x word y)) ∧
    Equivalence fun x y : { name // ∃ value, env.Reads name value } =>
      env.compare x.1 "is".toList y.1 = .ok true := by
  have same : ∀ x y v w, env.Reads x v → env.Reads y w → ∀ word ∈ Comparison.eq.words,
      env.compare x word y = .ok (decide (v.canon = w.canon)) := by
    intro x y v w xReads yReads word spells
    obtain ⟨_, _, leftCounts⟩ := Value.sound_counts xReads.sound
    obtain ⟨_, _, rightCounts⟩ := Value.sound_counts yReads.sound
    rw [compare_read word xReads yReads]
    exact (compare_equality word leftCounts rightCounts).1 spells
  have equal : ∀ x y v w, env.Reads x v → env.Reads y w →
      (env.compare x "is".toList y = .ok true ↔ v.canon = w.canon) := by
    intro x y v w xReads yReads
    rw [same x y v w xReads yReads _ List.mem_cons_self]
    simp
  refine ⟨?_, ?_, ?_, ?_⟩
  · intro x y v w xReads yReads
    obtain ⟨one, _, leftCounts⟩ := Value.sound_counts xReads.sound
    obtain ⟨other, _, rightCounts⟩ := Value.sound_counts yReads.sound
    simp only [compare_read _ xReads yReads]
    refine ⟨fun word => (compare_equality word leftCounts rightCounts).1,
      fun word => (compare_equality word leftCounts rightCounts).2, ?_, ?_,
      fun word unknown => compare_unknown word leftCounts rightCounts unknown⟩
    · intro m n left right
      cases Value.canon_integer leftCounts left
      cases Value.canon_integer rightCounts right
      exact compare_ordered leftCounts rightCounts
    · intro apart comparison orders word spells
      rcases numbers_or_textual one other with ⟨m, n, rfl, rfl⟩ | textual
      · exact absurd ⟨Value.canon_number leftCounts, Value.canon_number rightCounts⟩ (apart m n)
      · exact compare_unordered leftCounts rightCounts textual spells orders
  · rintro ⟨x, v, xReads⟩
    exact (equal x x v v xReads xReads).mpr rfl
  · rintro ⟨x, v, xReads⟩ ⟨y, w, yReads⟩ holds
    exact (equal y x w v yReads xReads).mpr ((equal x y v w xReads yReads).mp holds).symm
  · rintro ⟨x, v, xReads⟩ ⟨y, w, yReads⟩ ⟨z, u, zReads⟩ first second
    exact (equal x z v u xReads zReads).mpr
      (((equal x y v w xReads yReads).mp first).trans ((equal y z w u yReads zReads).mp second))

def comparands : Env :=
  let path : Path := ["f".toList]
  let written := ((Store.empty.enter path).write path "X".toList (.int 5)).write path "Y".toList (.text " 05 ".toList)
  ⟨(written.write path "Z".toList (.text "five".toList)).write path "#x".toList (.int 5), path, []⟩

theorem comparisons_canonical_spelled :
    comparands.Reads "X".toList (.int 5) ∧ comparands.Reads "Y".toList (.text " 05 ".toList) ∧
      comparands.Reads "Z".toList (.text "five".toList) ∧
      comparands.compare "X".toList "==".toList "Y".toList = .ok true ∧
      comparands.compare "Y".toList "==".toList "Z".toList = .ok false ∧
      Ordered 5 5 (fun word => comparands.compare "X".toList word "Y".toList) ∧
      Unsupported (comparands.compare "X".toList "lt".toList "Z".toList) := by
  have short : ∀ n ∈ some (5 : Int), Numeral.isWritable n = true := by
    rintro n ⟨⟩
    exact Numeral.digit_writable 5 (by decide)
  have number : comparands.Reads "X".toList (.int 5) := ⟨by decide, by decide +kernel, some 5, rfl, short⟩
  have spelled : comparands.Reads "Y".toList (.text " 05 ".toList) :=
    ⟨by decide, by decide +kernel, some 5, by decide +kernel, short⟩
  have text : comparands.Reads "Z".toList (.text "five".toList) :=
    ⟨by decide, by decide +kernel, none, by decide +kernel, nofun⟩
  have same := (comparisons_canonical comparands).1 _ _ _ _ number spelled
  have mixed := (comparisons_canonical comparands).1 _ _ _ _ spelled text
  have apart := (comparisons_canonical comparands).1 _ _ _ _ number text
  have equal : decide ((Value.int 5).canon = (Value.text " 05 ".toList).canon) = true := by decide +kernel
  have unequal : decide ((Value.text " 05 ".toList).canon = (Value.text "five".toList).canon) = false := by
    decide +kernel
  have textual : (Value.text "five".toList).canon = .text "five".toList := by decide +kernel
  refine ⟨number, spelled, text, ?_, ?_, same.2.2.1 5 5 rfl (by decide +kernel),
    apart.2.2.2.1 ?_ .lt rfl _ List.mem_cons_self⟩
  · rw [same.1 "==".toList (by decide), equal]
  · rw [mixed.1 "==".toList (by decide), unequal]
  · rintro m n ⟨_, impossible⟩
    rw [textual] at impossible
    cases impossible

theorem comparisons_sharp : ¬ ∀ (env : Env) (x y : Text) (v w : Value),
    env.store.read? env.path x = some v → env.store.read? env.path y = some w → v.Sound → w.Sound →
    env.compare x "is".toList y = .ok (decide (v.canon = w.canon)) := by
  intro claimed
  have sound : (Value.int 5).Sound := by
    refine ⟨some 5, rfl, ?_⟩
    rintro n ⟨⟩
    exact Numeral.digit_writable 5 (by decide)
  have holds := claimed comparands "#x".toList "X".toList (.int 5) (.int 5) (by decide +kernel) (by decide +kernel)
    sound sound
  have fails : comparands.compare "#x".toList "is".toList "X".toList = .ok false := by decide +kernel
  rw [fails] at holds
  cases holds

end Env

end BareBones
