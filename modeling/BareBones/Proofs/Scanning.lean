import BareBones.Proofs.Decimal
import BareBones.Source.Boundary
import Mathlib.Data.List.DropRight

set_option autoImplicit false

namespace BareBones

namespace Text

def Unbroken (text : Text) : Prop :=
  ∀ c ∈ text, isBreak c = false

instance (text : Text) : Decidable text.Unbroken :=
  decidable_of_iff (text.all (!isBreak ·) = true) (by simp [Unbroken])

theorem unbroken_append (front rest : Text) (first : front.Unbroken) (last : rest.Unbroken) :
    (front ++ rest).Unbroken :=
  List.forall_mem_append.mpr ⟨first, last⟩

theorem unbroken_feed (text : Text) (unbroken : text.Unbroken) : '\n' ∉ text := by
  intro member
  cases unbroken '\n' member

theorem lines_from_plain (current rest : Text) (c : Char) (plain : isBreak c = false) :
    linesFrom current (c :: rest) = linesFrom (c :: current) rest := by
  rw [linesFrom.eq_def]
  split
  · contradiction
  · rename_i same
    injection same with first
    rw [first] at plain
    cases plain
  · rename_i same
    injection same with first others
    subst first others
    simp [plain]

theorem lines_from_unbroken (current text rest : Text) (unbroken : text.Unbroken) :
    linesFrom current (text ++ rest) = linesFrom (text.reverse ++ current) rest := by
  induction text generalizing current with
  | nil => rfl
  | cons c text ih =>
      have deeper := ih (c :: current) fun d member => unbroken d (List.mem_cons_of_mem c member)
      rw [List.cons_append, lines_from_plain current _ c (unbroken c List.mem_cons_self), deeper]
      simp

theorem lines_unbroken (text : Text) (proper : text ≠ []) (unbroken : text.Unbroken) :
    text.lines = [text] := by
  have whole := lines_from_unbroken [] text [] unbroken
  simpa [lines, linesFrom, proper] using whole

theorem lines_feed (first rest : Text) (unbroken : first.Unbroken) :
    lines (first ++ '\n' :: rest) = first :: rest.lines := by
  have whole := lines_from_unbroken [] first ('\n' :: rest) unbroken
  simpa [lines, linesFrom, isBreak] using whole

theorem cut_absent (mark : Char) (text : Text) (absent : mark ∉ text) : cutAt mark text = (text, []) := by
  have all : ∀ c ∈ text, (c != mark) = true := by
    intro c member
    simpa using fun same : c = mark => absent (same ▸ member)
  rw [cutAt, List.takeWhile_eq_self_iff.mpr all, List.dropWhile_eq_nil_iff.mpr all]

theorem cut_found (mark : Char) (front rest : Text) (absent : mark ∉ front) :
    cutAt mark (front ++ mark :: rest) = (front, mark :: rest) := by
  have all : ∀ c ∈ front, (c != mark) = true := by
    intro c member
    simpa using fun same : c = mark => absent (same ▸ member)
  rw [cutAt, List.takeWhile_append_of_pos all, List.dropWhile_append_of_pos all]
  simp

def backslashes (text : Text) : Nat :=
  (text.rtakeWhile (· == '\\')).length

def Uncommented (text : Text) : Prop :=
  ∀ front rest, text = front ++ ';' :: rest → backslashes front % 2 = 1

theorem backslashes_concat (front : Text) (c : Char) :
    backslashes (front ++ [c]) = if c = '\\' then backslashes front + 1 else 0 := by
  by_cases same : c = '\\'
  · simp [backslashes, same]
  · simp [backslashes, same]

theorem backslashes_escape (c : Char) (front : Text) :
    backslashes ('\\' :: c :: front) % 2 = backslashes front % 2 := by
  induction front using List.reverseRecOn with
  | nil =>
      by_cases same : c = '\\'
      · simp [backslashes, same, List.rtakeWhile]
      · simp [backslashes, same, List.rtakeWhile]
  | append_singleton front last ih =>
      rw [← List.cons_append, ← List.cons_append, backslashes_concat, backslashes_concat]
      split
      · omega
      · rfl

theorem backslashes_plain (c : Char) (front : Text) (plain : c ≠ '\\') :
    backslashes (c :: front) = backslashes front := by
  induction front using List.reverseRecOn with
  | nil => simp [backslashes, List.rtakeWhile, plain]
  | append_singleton front last ih =>
      rw [← List.cons_append, backslashes_concat, backslashes_concat, ih]

structure IsPhrase (text : Text) : Prop where
  proper : text ≠ []
  starts : Boundary.startsBlank text = false
  ends : Boundary.endsBlank text = false

theorem trim_start_kept (text : Text) (starts : Boundary.startsBlank text = false) :
    text.trimStart = text := by
  cases text with
  | nil => rfl
  | cons c rest =>
      have solid : isBlank c = false := starts
      simp [trimStart, solid]

theorem trim_end_kept (text : Text) (ends : Boundary.endsBlank text = false) : text.trimEnd = text := by
  cases text using List.reverseRecOn with
  | nil => rfl
  | append_singleton front last =>
      have solid : isBlank last = false := by simpa [Boundary.endsBlank] using ends
      simp [trimEnd, solid]

theorem trim_start_blank (c : Char) (text : Text) (blank : isBlank c = true) :
    trimStart (c :: text) = trimStart text := by
  simp [trimStart, blank]

theorem trim_end_blank (text : Text) (c : Char) (blank : isBlank c = true) :
    trimEnd (text ++ [c]) = trimEnd text := by
  simp [trimEnd, blank]

theorem trim_kept (text : Text) (phrase : text.IsPhrase) : text.trim = text := by
  rw [trim, trim_start_kept text phrase.starts, trim_end_kept text phrase.ends]

theorem phrase_solid (text rest : Text) (phrase : text.IsPhrase) : allBlank (text ++ rest) = false := by
  cases text with
  | nil => exact absurd rfl phrase.proper
  | cons c text =>
      have solid : isBlank c = false := phrase.starts
      simp [allBlank, solid]

theorem starts_append (front rest : Text) (proper : front ≠ []) :
    Boundary.startsBlank (front ++ rest) = Boundary.startsBlank front := by
  cases front with
  | nil => exact absurd rfl proper
  | cons c front => rfl

theorem ends_append (front rest : Text) (proper : rest ≠ []) :
    Boundary.endsBlank (front ++ rest) = Boundary.endsBlank rest := by
  simp [Boundary.endsBlank, List.getLast?_append_of_ne_nil front proper]

theorem phrase_append (front middle rest : Text) (first : front.IsPhrase) (last : rest.IsPhrase) :
    (front ++ (middle ++ rest)).IsPhrase := by
  have behind : middle ++ rest ≠ [] := by simp [last.proper]
  refine ⟨by simp [first.proper], ?_, ?_⟩
  · rw [starts_append front _ first.proper]
    exact first.starts
  · rw [ends_append front _ behind, ends_append middle rest last.proper]
    exact last.ends

structure IsWord (text : Text) : Prop where
  proper : text ≠ []
  solid : ∀ c ∈ text, isBlank c = false

theorem solid_all (text : Text) (all : text.all (!isBlank ·) = true) : ∀ c ∈ text, isBlank c = false := by
  simpa using all

theorem word_starts (text : Text) (solid : ∀ c ∈ text, isBlank c = false) :
    Boundary.startsBlank text = false := by
  cases text with
  | nil => rfl
  | cons c rest => exact solid c List.mem_cons_self

theorem word_phrase (text : Text) (word : text.IsWord) : text.IsPhrase := by
  refine ⟨word.proper, word_starts text word.solid, ?_⟩
  have backwards := word_starts text.reverse (solid_reverse text word.solid)
  simpa [Boundary.startsBlank, Boundary.endsBlank] using backwards

theorem words_from_solid (current word rest : Text) (solid : ∀ c ∈ word, isBlank c = false) :
    wordsFrom current (word ++ rest) = wordsFrom (word.reverse ++ current) rest := by
  induction word generalizing current with
  | nil => rfl
  | cons c word ih =>
      have here := solid c List.mem_cons_self
      have deeper := ih (c :: current) fun d member => solid d (List.mem_cons_of_mem c member)
      simp [wordsFrom, here, deeper]

theorem words_word (word : Text) (whole : word.IsWord) : word.words = [word] := by
  have scanned := words_from_solid [] word [] whole.solid
  simpa [words, wordsFrom, whole.proper] using scanned

theorem words_blank (word rest : Text) (c : Char) (whole : word.IsWord) (blank : isBlank c = true) :
    words (word ++ c :: rest) = word :: rest.words := by
  have scanned := words_from_solid [] word (c :: rest) whole.solid
  simpa [words, wordsFrom, whole.proper, blank] using scanned

theorem first_word (word rest : Text) (c : Char) (solid : ∀ d ∈ word, isBlank d = false)
    (blank : isBlank c = true) :
    firstWord (word ++ c :: rest) = word ∧ afterFirstWord (word ++ c :: rest) = c :: rest := by
  have all : ∀ d ∈ word, (!isBlank d) = true := by
    intro d member
    simp [solid d member]
  unfold firstWord afterFirstWord
  rw [List.takeWhile_append_of_pos all, List.dropWhile_append_of_pos all]
  simp [blank]

theorem only_word (word : Text) (solid : ∀ d ∈ word, isBlank d = false) : word.firstWord = word := by
  unfold firstWord
  rw [List.takeWhile_eq_self_iff]
  intro d member
  simp [solid d member]

end Text

namespace Line

theorem no_escape (c : Char) (rest : Text) (alone : c = '\\' → rest = [] → False)
    (other : ∀ d behind, c = '\\' → rest = d :: behind → False) : c ≠ '\\' := by
  intro escape
  cases rest with
  | nil => exact alone escape rfl
  | cons d behind => exact other d behind escape rfl

theorem comment_kept (text : Text) (uncommented : text.Uncommented) : withoutComment text = text := by
  fun_induction withoutComment text with
  | case1 => rfl
  | case2 => rfl
  | case3 c rest ih =>
      rw [ih]
      intro front behind same
      rw [← Text.backslashes_escape c front]
      exact uncommented ('\\' :: c :: front) behind (by rw [same]; rfl)
  | case4 c rest alone other comment =>
      have bare := uncommented [] rest (by simpa using comment)
      cases bare
  | case5 c rest alone other plain ih =>
      have ordinary := no_escape c rest alone other
      rw [ih]
      intro front behind same
      rw [← Text.backslashes_plain c front ordinary]
      exact uncommented (c :: front) behind (by rw [same]; rfl)

theorem kept_uncommented (text : Text) (kept : withoutComment text = text) : text.Uncommented := by
  fun_induction withoutComment text with
  | case1 =>
      intro front rest same
      cases front <;> cases same
  | case2 =>
      intro front rest same
      cases front with
      | nil => cases same
      | cons c front => cases front <;> cases same
  | case3 c rest ih =>
      have inner := ih (by simpa using kept)
      intro front behind same
      cases front with
      | nil => cases same
      | cons d front =>
          cases front with
          | nil =>
              cases same
              rfl
          | cons e front =>
              cases same
              rw [Text.backslashes_escape]
              exact inner front behind rfl
  | case4 c rest alone other comment => cases kept
  | case5 c rest alone other plain ih =>
      have inner := ih (by simpa using kept)
      have ordinary := no_escape c rest alone other
      intro front behind same
      cases front with
      | nil =>
          cases same
          exact absurd rfl plain
      | cons d front =>
          cases same
          rw [Text.backslashes_plain c front ordinary]
          exact inner front behind rfl

theorem uncommented_iff (text : Text) : text.Uncommented ↔ withoutComment text = text :=
  ⟨comment_kept text, kept_uncommented text⟩

instance (text : Text) : Decidable text.Uncommented :=
  decidable_of_iff _ (uncommented_iff text).symm

theorem comment_behind (front rest : Text) (unescaped : '\\' ∉ front) (unmarked : ';' ∉ front) :
    withoutComment (front ++ rest) = front ++ withoutComment rest := by
  induction front with
  | nil => rfl
  | cons c front ih =>
      have ordinary : c ≠ '\\' := fun same => unescaped (by simp [same])
      have other : c ≠ ';' := fun same => unmarked (by simp [same])
      have deeper := ih (fun member => unescaped (List.mem_cons_of_mem c member))
        fun member => unmarked (List.mem_cons_of_mem c member)
      simp [withoutComment, ordinary, other, deeper]

def verbatim (file : Text) (number : Nat) (text : Text) : Line :=
  ⟨⟨file, number, text.trimEnd⟩, text⟩

theorem of_raw_kept (file : Text) (number : Nat) (text : Text)
    (starts : Boundary.startsBlank text = false) (kept : withoutComment text = text) :
    ofRaw file number text = verbatim file number text := by
  simp only [ofRaw, Text.trim_start_kept text starts, kept, verbatim]

theorem of_source_one (file text : Text) (proper : text ≠ []) (unbroken : text.Unbroken)
    (starts : Boundary.startsBlank text = false) (kept : withoutComment text = text) :
    ofSource file text = [verbatim file 1 text] := by
  rw [ofSource, Text.lines_unbroken text proper unbroken, numbered, of_raw_kept file 1 text starts kept]
  rfl

end Line
end BareBones
