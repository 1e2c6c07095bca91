import BareBones.Proofs.Rendering

set_option autoImplicit false

namespace BareBones

namespace Text

theorem trim_end_prefix (text : Text) : text.trimEnd <+: text := by
  have suffix := List.dropWhile_suffix isBlank (l := text.reverse)
  simpa [trimEnd] using List.reverse_prefix.mpr suffix

theorem trim_start_starts (text : Text) : Boundary.startsBlank text.trimStart = false := by
  induction text with
  | nil => rfl
  | cons c rest ih =>
      by_cases blank : isBlank c = true
      · rw [trim_start_blank c rest blank]
        exact ih
      · simp [trimStart, Boundary.startsBlank, blank]

end Text

namespace Line

theorem of_raw_starts (file : Text) (number : Nat) (raw : Text) :
    Boundary.startsBlank (ofRaw file number raw).text = false := by
  obtain ⟨dropped, whole⟩ := withoutComment_append raw.trimStart
  have starts := Text.trim_start_starts raw
  change Boundary.startsBlank (withoutComment raw.trimStart) = false
  cases kept : withoutComment raw.trimStart with
  | nil => rfl
  | cons c rest =>
      rw [← whole, kept] at starts
      exact starts

theorem numbered_starts (file : Text) (number : Nat) (raws : List Text) :
    ∀ line ∈ numbered file number raws, Boundary.startsBlank line.text = false := by
  induction raws generalizing number with
  | nil => simp [numbered]
  | cons raw rest ih =>
      exact List.forall_mem_cons.mpr ⟨of_raw_starts file number raw, ih (number + 1)⟩

end Line

namespace Boundary

theorem header_blank (kind : BlockKind) (text subject : Text) (found : headerOf? kind text = some subject)
    (starts : startsBlank text = false) :
    ∃ c rest, text = kind.keyword ++ c :: rest ∧ Text.isBlank c = true := by
  obtain ⟨behind, keyword, within⟩ := Option.bind_eq_some_iff.mp found
  obtain ⟨middle, before, inner⟩ := Option.bind_eq_some_iff.mp within
  rw [List.isPrefixOf?_eq_some_iff_append_eq, Text.trim, Text.trim_start_kept text starts] at keyword
  obtain ⟨tail, whole⟩ := Text.trim_end_prefix text
  rw [before_iff] at before
  cases middle with
  | nil => cases inner
  | cons c rest =>
      refine ⟨c, rest ++ "do".toList ++ tail, ?_, ?_⟩
      · rw [← whole, ← keyword, ← before]
        simp
      · by_contra solid
        simp [subject?, startsBlank, solid] at inner

end Boundary

namespace Statement

theorem spaced_header (line : Line) (kind : BlockKind) (subject : Text)
    (starts : kind.keyword ++ [' '] <+: line.text)
    (found : Boundary.headerOf? kind line.text = some subject) :
    (∃ statement, read line = .ok statement ∧ statement.command.opens = true) ∨
      ∃ fault, read line = .error (.fault fault) ∧ fault.kind = .invalidSyntax := by
  have header : readHeader line kind = .ok subject := by rw [readHeader, found]
  rw [read, spaced_command line kind starts, header]
  cases kind with
  | loop => exact .inl ⟨⟨line.location, .loop subject⟩, rfl, rfl⟩
  | branch => exact .inl ⟨⟨line.location, .branch subject⟩, rfl, rfl⟩
  | function =>
      change (∃ statement, (functionOf line subject).map _ = _ ∧ _) ∨
        ∃ fault, (functionOf line subject).map _ = _ ∧ _
      by_cases single : (subject.words.length == 1) = true
      · rw [functionOf, if_pos single]
        exact .inl ⟨⟨line.location, .define subject⟩, rfl, rfl⟩
      · rw [functionOf, if_neg single]
        exact .inr ⟨_, rfl, rfl⟩

theorem unspaced_header (line : Line) (kind : BlockKind) (c : Char) (rest : Text)
    (whole : line.text = kind.keyword ++ c :: rest) (blank : Text.isBlank c = true) (other : c ≠ ' ')
    (header : Boundary.isHeader line.text = true) :
    read line = .ok ⟨line.location, .call kind.keyword rest.words⟩ := by
  have word := Boundary.keyword_word kind
  have first : line.text.firstWord = kind.keyword := by
    rw [whole]
    exact (Text.first_word kind.keyword rest c word.solid blank).1
  have free : ∀ keyword ∈ keywords, operand? keyword line.text = none := by
    intro keyword member
    cases found : operand? keyword line.text with
    | none => rfl
    | some operand =>
        have same := operand_first keyword line.text operand (keywords_solid keyword member) found
        rw [operand?, List.isPrefixOf?_eq_some_iff_append_eq, ← same, first, whole, List.append_assoc]
          at found
        cases List.append_cancel_left found
        exact absurd rfl other
  have noElse : Boundary.isElse line.text = false := by
    cases clause : Boundary.isElse line.text with
    | false => rfl
    | true =>
        rw [Boundary.else_no_header line.text clause] at header
        cases header
  have words : line.text.words = kind.keyword :: rest.words := by
    rw [whole, Text.words_blank kind.keyword rest c word blank]
  rw [read, command_call line free, readCall, Boundary.header_no_end line.text header, noElse, words]
  rfl

-- A line that is read as an opener is a header. A header is read as an opener or is a fault, as long as a
-- space follows its keyword; where another blank does, it is read as a call.
theorem headers_read (file source : Text) (line : Line) (member : line ∈ Line.ofSource file source) :
    (∀ statement, read line = .ok statement → statement.command.opens = true →
        Boundary.isHeader line.text = true) ∧
      (Boundary.isHeader line.text = true →
        (line.Spaced → (∃ statement, read line = .ok statement ∧ statement.command.opens = true) ∨
          ∃ fault, read line = .error (.fault fault) ∧ fault.kind = .invalidSyntax) ∧
        (¬line.Spaced → ∃ (kind : BlockKind) (arguments : List Text),
          read line = .ok ⟨line.location, .call kind.keyword arguments⟩)) := by
  refine ⟨opens_header line, ?_⟩
  intro header
  have starts := Line.numbered_starts file 1 source.lines line member
  obtain ⟨kind, _, present⟩ := List.any_eq_true.mp header
  obtain ⟨subject, found⟩ := Option.isSome_iff_exists.mp present
  obtain ⟨c, rest, whole, blank⟩ := Boundary.header_blank kind line.text subject found starts
  by_cases space : c = ' '
  · have spaced : kind.keyword ++ [' '] <+: line.text := ⟨rest, by simp [whole, space]⟩
    exact ⟨fun _ => spaced_header line kind subject spaced found, fun bare => absurd ⟨kind, spaced⟩ bare⟩
  · have called := unspaced_header line kind c rest whole blank space header
    refine ⟨?_, fun _ => ⟨kind, Text.words rest, called⟩⟩
    intro spaced
    cases spaced_opens line _ spaced called

theorem headers_read_spaced :
    let line := Line.verbatim "main".toList 2 "function f g do".toList
    (∃ statement, read line = .ok statement ∧ statement.command.opens = true) ∨
      ∃ fault, read line = .error (.fault fault) ∧ fault.kind = .invalidSyntax :=
  ((headers_read "main".toList "end\nfunction f g do".toList _ (by decide)).2 (by decide)).1
    ⟨.function, by decide⟩

theorem tab_header_called :
    let line := Line.verbatim "main".toList 1 "while\tx is 1 do".toList
    Line.ofSource "main".toList "while\tx is 1 do".toList = [line] ∧ line.isBlank = false ∧
      Boundary.isHeader line.text = true ∧
      read line = .ok ⟨line.location,
        .call "while".toList ["x".toList, "is".toList, "1".toList, "do".toList]⟩ :=
  ⟨rfl, rfl, rfl, rfl⟩

end Statement

end BareBones
