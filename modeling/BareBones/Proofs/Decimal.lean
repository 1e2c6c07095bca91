import BareBones.Value
import Mathlib.Data.List.Basic

set_option autoImplicit false

namespace BareBones

namespace Text

theorem digit_bounds (c : Char) (digit : c.isDigit = true) : 48 ≤ c.toNat ∧ c.toNat ≤ 57 := by
  simp only [Char.isDigit, Bool.and_eq_true, decide_eq_true_eq, ge_iff_le, UInt32.le_iff_toNat_le]
    at digit
  exact digit

theorem digit_value (c : Char) (digit : c.isDigit = true) : digitValue? c = some (c.toNat - 48) := by
  obtain ⟨low, high⟩ := digit_bounds c digit
  unfold digitValue? zeros
  rw [List.find?_cons_of_pos]
  · rfl
  · simp only [Bool.and_eq_true, decide_eq_true_eq]
    omega

theorem digit_solid (c : Char) (digit : c.isDigit = true) : isBlank c = false := by
  obtain ⟨low, high⟩ := digit_bounds c digit
  simp only [isBlank, Bool.or_eq_false_iff, Bool.and_eq_false_iff, decide_eq_false_iff_not,
    beq_eq_false_iff_ne]
  omega

theorem of_nat_digits (n : Nat) (c : Char) (member : c ∈ ofNat n) : c.isDigit = true :=
  Nat.isDigit_of_mem_toDigits (by decide) (by decide) member

theorem of_nat_first (n : Nat) : ∃ first rest, ofNat n = first :: rest ∧ first.isDigit = true := by
  cases digits : ofNat n with
  | nil => exact absurd digits Nat.toDigits_ne_nil
  | cons first rest =>
      refine ⟨first, rest, rfl, of_nat_digits n first ?_⟩
      rw [digits]
      exact List.mem_cons_self

theorem of_int_proper (n : Int) : ofInt n ≠ [] := by
  unfold ofInt
  split
  · exact List.cons_ne_nil _ _
  · exact Nat.toDigits_ne_nil

theorem of_int_solid (n : Int) (c : Char) (member : c ∈ ofInt n) : isBlank c = false := by
  unfold ofInt at member
  split at member
  · rcases List.mem_cons.mp member with rfl | digit
    · rfl
    · exact digit_solid c (of_nat_digits _ c digit)
  · exact digit_solid c (of_nat_digits _ c member)

theorem solid_kept (text : Text) (solid : ∀ c ∈ text, isBlank c = false) :
    text.dropWhile isBlank = text ∧ text.takeWhile isBlank = [] := by
  cases text with
  | nil => exact ⟨rfl, rfl⟩
  | cons c rest =>
      have first := solid c List.mem_cons_self
      exact ⟨List.dropWhile_cons_of_neg (by simp [first]), List.takeWhile_cons_of_neg (by simp [first])⟩

theorem solid_reverse (text : Text) (solid : ∀ c ∈ text, isBlank c = false) (c : Char)
    (member : c ∈ text.reverse) : isBlank c = false :=
  solid c (List.mem_reverse.mp member)

theorem trim_solid (text : Text) (solid : ∀ c ∈ text, isBlank c = false) : text.trim = text := by
  unfold trim trimStart trimEnd
  rw [(solid_kept text solid).1, (solid_kept text.reverse (solid_reverse text solid)).1,
    List.reverse_reverse]

end Text

namespace Numeral

theorem value_of_digits (n : Nat) : valueOf (Text.ofNat n) = n := by
  have same : valueOf (Text.ofNat n) = Nat.ofDigitChars 10 (Text.ofNat n) 0 := by
    rw [Nat.ofDigitChars_eq_foldl]
    apply List.foldl_ext
    intro value c member
    rw [Text.digit_value c (Text.of_nat_digits n c member)]
    rfl
  rw [same]
  exact Nat.ofDigitChars_toDigits (by decide) (by decide)

theorem digits_length (n width : Nat) (positive : 0 < width) (bound : n < Nat.pow 10 width) :
    (Text.ofNat n).length ≤ width :=
  (Nat.length_toDigits_le_iff (by decide) positive).mpr bound

theorem digits_decimal (n : Nat) :
    (!(Text.ofNat n).isEmpty && (Text.ofNat n).all Text.isDecimal) = true := by
  have decimal : (Text.ofNat n).all Text.isDecimal = true := by
    rw [List.all_eq_true]
    intro c member
    rw [Text.isDecimal, Text.digit_value c (Text.of_nat_digits n c member)]
    rfl
  obtain ⟨first, rest, digits, _⟩ := Text.of_nat_first n
  rw [decimal, digits]
  rfl

theorem signed_digits (n : Int) :
    ∃ sign, signedDigits? (Text.ofInt n) = some (sign, Text.ofNat n.natAbs) ∧
      sign.apply n.natAbs = n := by
  by_cases negative : n < 0
  · refine ⟨.minus, ?_, ?_⟩
    · rw [Text.ofInt, if_pos negative, signedDigits?, splitSign]
      simp only [digits_decimal, if_true]
    · rw [Sign.apply]
      omega
  · refine ⟨.plus, ?_, ?_⟩
    · obtain ⟨first, rest, digits, digit⟩ := Text.of_nat_first n.natAbs
      have unsigned : splitSign (Text.ofNat n.natAbs) = (.plus, Text.ofNat n.natAbs) := by
        obtain ⟨low, high⟩ := Text.digit_bounds first digit
        rw [digits]
        unfold splitSign
        split
        · rename_i same
          cases same
          exact absurd low (by decide)
        · rename_i same
          cases same
          exact absurd low (by decide)
        · rfl
      rw [Text.ofInt, if_neg negative, signedDigits?, unsigned]
      simp only [digits_decimal, if_true]
    · rw [Sign.apply]
      omega

theorem zero_writable : isWritable 0 = true := by
  have positive : ∀ width, (0 : Int).natAbs < Nat.pow 10 width := fun width => Nat.pow_pos (by decide)
  exact decide_eq_true (positive digitLimit)

theorem digit_writable (n : Int) (small : n.natAbs < 10) : isWritable n = true := by
  have bound : ∀ width, width ≠ 0 → n.natAbs < Nat.pow 10 width := fun width positive =>
    Nat.lt_of_lt_of_le small (Nat.le_self_pow positive 10)
  exact decide_eq_true (bound digitLimit (by decide))

theorem read_of_int (n : Int) (short : isWritable n = true) :
    read? (Text.ofInt n) = .ok (some n) := by
  obtain ⟨sign, digits, whole⟩ := signed_digits n
  have solid := Text.of_int_solid n
  have before := (Text.solid_kept _ solid).2
  have after := (Text.solid_kept _ (Text.solid_reverse _ solid)).2
  have length : ¬digitLimit < (Text.ofNat n.natAbs).length :=
    Nat.not_lt.mpr (digits_length n.natAbs digitLimit (by decide) (of_decide_eq_true short))
  have none : ¬(([] : Text).any Text.isInformationSeparator = true) := Bool.false_ne_true
  unfold read?
  rw [Text.trim_solid _ solid, digits]
  dsimp only
  rw [before, after, if_neg none, if_neg length, if_neg none, value_of_digits, whole]

end Numeral
end BareBones
