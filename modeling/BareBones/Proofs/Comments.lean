import BareBones.Proofs.Scanning

set_option autoImplicit false

namespace BareBones

namespace Text

structure Commented (front text : Text) : Prop where
  mark : ∃ rest, text = front ++ ';' :: rest
  even : backslashes front % 2 = 0

inductive Kept (text : Text) : Text → Prop
  | before {front : Text} (begins : Commented front text)
      (first : ∀ other, Commented other text → front.length ≤ other.length) : Kept text front
  | whole (absent : ∀ front, ¬Commented front text) : Kept text text

theorem uncommented_absent (text : Text) : text.Uncommented ↔ ∀ front, ¬Commented front text := by
  constructor
  · rintro uncommented front ⟨⟨rest, whole⟩, even⟩
    have odd := uncommented front rest whole
    omega
  · intro absent front rest whole
    have uneven : backslashes front % 2 ≠ 0 := fun even => absent front ⟨⟨rest, whole⟩, even⟩
    omega

theorem commented_behind {front rest other : Text} (uncommented : front.Uncommented)
    (begins : Commented other (front ++ rest)) : front.length ≤ other.length := by
  obtain ⟨⟨behind, whole⟩, even⟩ := begins
  refine Nat.le_of_not_lt fun inside => ?_
  have marked : other ++ [';'] <+: front ++ rest :=
    ⟨behind, by rw [whole, List.append_assoc, List.singleton_append]⟩
  have shorter : (other ++ [';']).length ≤ front.length := by
    rw [List.length_append]
    exact inside
  have within := List.prefix_of_prefix_length_le marked (List.prefix_append front rest) shorter
  obtain ⟨later, same⟩ := within
  have odd := uncommented other later (by rw [← same, List.append_assoc, List.singleton_append])
  omega

end Text

namespace Line

theorem comment_escape (c : Char) (rest : Text) :
    withoutComment ('\\' :: c :: rest) = '\\' :: c :: withoutComment rest := rfl

theorem comment_plain (c : Char) (rest : Text) (ordinary : c ≠ '\\') (other : c ≠ ';') :
    withoutComment (c :: rest) = c :: withoutComment rest := by
  simp [withoutComment, ordinary, other]

theorem comment_cut (front rest : Text) (kept : withoutComment front = front)
    (even : Text.backslashes front % 2 = 0) : withoutComment (front ++ ';' :: rest) = front := by
  fun_induction withoutComment front with
  | case1 => rfl
  | case2 => cases even
  | case3 c front ih =>
      rw [Text.backslashes_escape] at even
      rw [List.cons_append, List.cons_append, comment_escape, ih (by simpa using kept) even]
  | case4 c front alone other comment => cases kept
  | case5 c front alone other plain ih =>
      have ordinary := no_escape c front alone other
      rw [Text.backslashes_plain c front ordinary] at even
      rw [List.cons_append, comment_plain c _ ordinary (by simpa using plain), ih (by simpa using kept) even]

theorem comment_met (text : Text) : withoutComment text = text ∨
    ∃ front, Text.Commented front text ∧ withoutComment front = front := by
  fun_induction withoutComment text with
  | case1 => exact .inl rfl
  | case2 => exact .inl rfl
  | case3 c rest ih =>
      rcases ih with kept | ⟨front, ⟨⟨behind, rfl⟩, even⟩, kept⟩
      · exact .inl (by rw [kept])
      · refine .inr ⟨'\\' :: c :: front, ⟨⟨behind, rfl⟩, ?_⟩, ?_⟩
        · rw [Text.backslashes_escape, even]
        · rw [comment_escape, kept]
  | case4 c rest alone other comment =>
      have mark : c = ';' := by simpa using comment
      exact .inr ⟨[], ⟨⟨rest, by rw [mark, List.nil_append]⟩, rfl⟩, rfl⟩
  | case5 c rest alone other plain ih =>
      have ordinary := no_escape c rest alone other
      rcases ih with kept | ⟨front, ⟨⟨behind, rfl⟩, even⟩, kept⟩
      · exact .inl (by rw [kept])
      · refine .inr ⟨c :: front, ⟨⟨behind, rfl⟩, ?_⟩, ?_⟩
        · rw [Text.backslashes_plain c front ordinary, even]
        · rw [comment_plain c front ordinary (by simpa using plain), kept]

-- What is kept of a line is all before its first comment, or the whole line; nothing more is dropped of
-- that, and a comment behind a line without one makes no difference unless it is escaped.
theorem comments_dropped (text : Text) :
    Text.Kept text (withoutComment text) ∧
      withoutComment (withoutComment text) = withoutComment text ∧
      ((∀ front, ¬Text.Commented front text) → Text.backslashes text % 2 = 0 →
        ∀ rest, withoutComment (text ++ ';' :: rest) = withoutComment text) := by
  have behind (absent : ∀ front, ¬Text.Commented front text) (even : Text.backslashes text % 2 = 0) (rest : Text) :
      withoutComment (text ++ ';' :: rest) = withoutComment text := by
    have kept := comment_kept text ((Text.uncommented_absent text).mpr absent)
    rw [comment_cut text rest kept even, kept]
  rcases comment_met text with kept | ⟨front, begins, kept⟩
  · have absent := (Text.uncommented_absent text).mp (kept_uncommented text kept)
    refine ⟨?_, by rw [kept, kept], behind⟩
    rw [kept]
    exact .whole absent
  · obtain ⟨rest, whole⟩ := begins.mark
    have cut : withoutComment text = front := by rw [whole, comment_cut front rest kept begins.even]
    refine ⟨?_, by rw [cut, kept], behind⟩
    rw [cut]
    refine .before begins fun other begun => ?_
    exact Text.commented_behind (kept_uncommented front kept) (whole ▸ begun)

theorem comments_dropped_escaped :
    (∀ front, ¬Text.Commented front "print a\\;b\\\\".toList) ∧ Text.backslashes "print a\\;b\\\\".toList % 2 = 0 ∧
      withoutComment ("print a\\;b\\\\".toList ++ ';' :: "note".toList) =
        withoutComment "print a\\;b\\\\".toList := by
  have absent := (Text.uncommented_absent "print a\\;b\\\\".toList).mp (by decide)
  have even : Text.backslashes "print a\\;b\\\\".toList % 2 = 0 := by decide
  exact ⟨absent, even, (comments_dropped "print a\\;b\\\\".toList).2.2 absent even "note".toList⟩

end Line
end BareBones
