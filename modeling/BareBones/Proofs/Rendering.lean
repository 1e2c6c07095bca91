import BareBones.Proofs.Blame
import BareBones.Proofs.Scanning

set_option autoImplicit false

namespace BareBones

namespace Text

theorem join_more (first second : Text) (others : List Text) :
    join [' '] (first :: second :: others) = first ++ ' ' :: join [' '] (second :: others) := by
  simp [join, List.intercalate_cons_cons]

theorem join_words (first : Text) (others : List Text) (whole : ∀ word ∈ first :: others, word.IsWord) :
    words (join [' '] (first :: others)) = first :: others := by
  induction others generalizing first with
  | nil => simpa [join] using words_word first (whole first List.mem_cons_self)
  | cons second others ih =>
      rw [join_more, words_blank first _ ' ' (whole first List.mem_cons_self) rfl,
        ih second fun word member => whole word (List.mem_cons_of_mem first member)]

theorem join_first (first : Text) (others : List Text) (word : first.IsWord) :
    firstWord (join [' '] (first :: others)) = first := by
  cases others with
  | nil => simpa [join] using only_word first word.solid
  | cons second others =>
      rw [join_more]
      exact (first_word first _ ' ' word.solid rfl).1

theorem join_phrase (first : Text) (others : List Text) (whole : ∀ word ∈ first :: others, word.IsWord) :
    (join [' '] (first :: others)).IsPhrase := by
  induction others generalizing first with
  | nil => simpa [join] using word_phrase first (whole first List.mem_cons_self)
  | cons second others ih =>
      have here := word_phrase first (whole first List.mem_cons_self)
      have behind := ih second fun word member => whole word (List.mem_cons_of_mem first member)
      rw [join_more]
      exact phrase_append first [' '] _ here behind

end Text

namespace Boundary

def header (kind : BlockKind) (subject : Text) : Text :=
  kind.keyword ++ ' ' :: (subject ++ " do".toList)

def elseClause (predicate : Option Text) : Text :=
  "else".toList ++ predicate.elim [] fun text => " if ".toList ++ (text ++ " do".toList)

theorem before_iff (word text front : Text) : before? word text = some front ↔ front ++ word = text := by
  rw [before?, Option.map_eq_some_iff]
  constructor
  · rintro ⟨backwards, found, rfl⟩
    rw [List.isPrefixOf?_eq_some_iff_append_eq] at found
    simpa using congrArg List.reverse found
  · rintro rfl
    exact ⟨front.reverse, by simp [List.isPrefixOf?_eq_some_iff_append_eq], List.reverse_reverse front⟩

theorem keyword_word (kind : BlockKind) : kind.keyword.IsWord := by
  cases kind <;> exact ⟨by decide, Text.solid_all _ (by decide)⟩

theorem header_phrase (kind : BlockKind) (subject : Text) : (header kind subject).IsPhrase := by
  have keyword := Text.word_phrase kind.keyword (keyword_word kind)
  have whole := Text.phrase_append kind.keyword (' ' :: (subject ++ [' '])) ['d', 'o'] keyword
    ⟨by decide, rfl, rfl⟩
  simpa [header] using whole

theorem subject_within (kind : BlockKind) (subject : Text) (c : Char) (member : c ∈ subject) :
    c ∈ header kind subject := by
  simp [header, member]

theorem subject_between (subject : Text) (phrase : subject.IsPhrase) (unbroken : '\n' ∉ subject) :
    subject? (' ' :: (subject ++ [' '])) = some subject := by
  have ends : endsBlank (' ' :: (subject ++ [' '])) = true := Text.ends_append (' ' :: subject) _ (by decide)
  have solid : Text.allBlank (' ' :: (subject ++ [' '])) = false := Text.phrase_solid subject _ phrase
  have starts : startsBlank (subject ++ [' ']) = false :=
    (Text.starts_append subject _ phrase.proper).trans phrase.starts
  have trimmed : Text.trim (' ' :: (subject ++ [' '])) = subject := by
    rw [Text.trim, Text.trim_start_blank ' ' _ rfl, Text.trim_start_kept _ starts,
      Text.trim_end_blank subject ' ' rfl, Text.trim_end_kept subject phrase.ends]
  simp [subject?, ends, solid, trimmed, unbroken, startsBlank, Text.isBlank]

theorem header_subject (kind : BlockKind) (subject : Text) (phrase : subject.IsPhrase)
    (unbroken : '\n' ∉ subject) : headerOf? kind (header kind subject) = some subject := by
  have starts : kind.keyword.isPrefixOf? (header kind subject).trim =
      some (' ' :: (subject ++ [' ']) ++ "do".toList) := by
    rw [List.isPrefixOf?_eq_some_iff_append_eq, Text.trim_kept _ (header_phrase kind subject)]
    simp [header]
  rw [headerOf?, starts, Option.bind_some, (before_iff _ _ _).mpr rfl, Option.bind_some]
  exact subject_between subject phrase unbroken

theorem condition_between (predicate : Text) (phrase : predicate.IsPhrase) (unbroken : '\n' ∉ predicate) :
    condition? (predicate ++ [' '] ++ "do".toList) = some predicate := by
  have ends : endsBlank (predicate ++ [' ']) = true := Text.ends_append predicate _ (by decide)
  have solid := Text.phrase_solid predicate [' '] phrase
  have trimmed : Text.trimEnd (predicate ++ [' ']) = predicate := by
    rw [Text.trim_end_blank predicate ' ' rfl, Text.trim_end_kept predicate phrase.ends]
  unfold condition?
  rw [(before_iff _ _ _).mpr rfl]
  simp [ends, solid, trimmed, unbroken]

theorem clause_phrase (predicate : Option Text) : (elseClause predicate).IsPhrase := by
  have word : Text.IsPhrase ['e', 'l', 's', 'e'] := ⟨by decide, rfl, rfl⟩
  cases predicate with
  | none => simpa [elseClause] using word
  | some predicate =>
      have whole := Text.phrase_append _ (" if ".toList ++ (predicate ++ [' '])) ['d', 'o'] word
        ⟨by decide, rfl, rfl⟩
      simpa [elseClause] using whole

theorem clause_predicate (predicate : Option Text) (phrase : ∀ text ∈ predicate, text.IsPhrase)
    (unbroken : '\n' ∉ elseClause predicate) : elseClause? (elseClause predicate) = some predicate := by
  rw [elseClause?, Text.trim_kept _ (clause_phrase predicate)]
  cases predicate with
  | none => rfl
  | some predicate =>
      have inner := phrase predicate rfl
      have condition := condition_between predicate inner (by simpa [elseClause] using unbroken)
      have whole : elseClause (some predicate) =
          "else".toList ++ ' ' :: 'i' :: 'f' :: ' ' :: (predicate ++ [' '] ++ "do".toList) := by
        simp [elseClause]
      have kept := Text.trim_start_kept (predicate ++ [' '] ++ "do".toList) (by
        rw [List.append_assoc, Text.starts_append predicate _ inner.proper]
        exact inner.starts)
      rw [whole]
      change (condition? (Text.trimStart (predicate ++ [' '] ++ "do".toList))).map some = some (some predicate)
      rw [kept, condition, Option.map_some]

theorem clause_first (text : Text) (clause : isElse text = true) : text.trim.firstWord = "else".toList := by
  obtain ⟨predicate, bound⟩ := Option.isSome_iff_exists.mp clause
  obtain ⟨rest, starts, rest_read⟩ := Option.bind_eq_some_iff.mp bound
  rw [List.isPrefixOf?_eq_some_iff_append_eq] at starts
  rw [← starts]
  have solid := Text.solid_all "else".toList (by decide)
  cases rest with
  | nil => rfl
  | cons c rest =>
      by_cases blank : Text.isBlank c = true
      · exact (Text.first_word "else".toList rest c solid blank).1
      · simp [startsBlank, blank] at rest_read

end Boundary

def Command.render : Command → Text
  | .clear name => "clear".toList ++ ' ' :: name
  | .count direction name => direction.keyword ++ ' ' :: name
  | .debug name => "debug".toList ++ ' ' :: name
  | .print format => "print".toList ++ ' ' :: format
  | .assign name format => "set".toList ++ ' ' :: (name ++ ' ' :: format)
  | .loop predicate => Boundary.header .loop predicate
  | .branch predicate => Boundary.header .branch predicate
  | .define name => Boundary.header .function name
  | .call name arguments => Text.join [' '] (name :: arguments)
  | .unsupported => []

namespace Statement

def keywords : List Text :=
  ["clear".toList, "incr".toList, "decr".toList, "debug".toList, "print".toList, "while".toList,
    "if".toList, "function".toList, "set".toList]

theorem command_call (line : Line) (free : ∀ keyword ∈ keywords, operand? keyword line.text = none) :
    readCommand line = readCall line := by
  unfold readCommand
  rw [free "clear".toList (by decide), free "incr".toList (by decide), free "decr".toList (by decide),
    free "debug".toList (by decide), free "print".toList (by decide), free "while".toList (by decide),
    free "if".toList (by decide), free "function".toList (by decide), free "set".toList (by decide)]
  rfl

theorem operand_first (keyword text rest : Text) (solid : ∀ c ∈ keyword, Text.isBlank c = false)
    (found : operand? keyword text = some rest) : text.firstWord = keyword := by
  rw [operand?, List.isPrefixOf?_eq_some_iff_append_eq] at found
  rw [← found, List.append_assoc]
  exact (Text.first_word keyword rest ' ' solid rfl).1

theorem keywords_solid (keyword : Text) (member : keyword ∈ keywords) :
    ∀ c ∈ keyword, Text.isBlank c = false := by
  have all : keywords.all (fun word => word.all (!Text.isBlank ·)) = true := by decide
  exact Text.solid_all keyword (List.all_eq_true.mp all keyword member)

theorem no_operand (keyword text : Text) (member : keyword ∈ keywords) (other : text.firstWord ≠ keyword) :
    operand? keyword text = none := by
  cases found : operand? keyword text with
  | none => rfl
  | some rest => exact absurd (operand_first keyword text rest (keywords_solid keyword member) found) other

theorem other_operand (text keyword other rest : Text) (found : operand? keyword text = some rest)
    (member : keyword ∈ keywords) (beside : other ∈ keywords) (different : other ≠ keyword) :
    operand? other text = none := by
  apply no_operand other text beside
  rw [operand_first keyword text rest (keywords_solid keyword member) found]
  exact different.symm

theorem command_debug (line : Line) (rest : Text) (found : operand? "debug".toList line.text = some rest)
    (phrase : rest.IsPhrase) : readCommand line = .ok (.debug rest) := by
  have other (keyword : Text) := other_operand line.text "debug".toList keyword rest found (by decide)
  unfold readCommand
  rw [other "clear".toList (by decide) (by decide), other "incr".toList (by decide) (by decide),
    other "decr".toList (by decide) (by decide), found]
  dsimp only
  rw [Text.trim_kept rest phrase]
  cases rest with
  | nil => exact absurd rfl phrase.proper
  | cons c rest => rfl

theorem command_assign (line : Line) (rest name format : Text)
    (found : operand? "set".toList line.text = some rest) (parts : assignment? rest = some (name, format)) :
    readCommand line = .ok (.assign name format) := by
  have other (keyword : Text) := other_operand line.text "set".toList keyword rest found (by decide)
  unfold readCommand
  rw [other "clear".toList (by decide) (by decide), other "incr".toList (by decide) (by decide),
    other "decr".toList (by decide) (by decide), other "debug".toList (by decide) (by decide),
    other "print".toList (by decide) (by decide), other "while".toList (by decide) (by decide),
    other "if".toList (by decide) (by decide), other "function".toList (by decide) (by decide), found]
  dsimp only [Option.isSome_none]
  rw [parts]
  rfl

end Statement

-- The parts of a command are such that its line can be told apart: names and arguments are words, messages
-- and predicates are phrases, and no word with a meaning of its own is called.
def Command.Canonical : Command → Prop
  | .clear name | .count _ name | .define name => name.IsWord
  | .assign name _ => name.IsWord
  | .debug phrase | .loop phrase | .branch phrase => phrase.IsPhrase
  | .print _ => True
  | .call name arguments =>
      name ∉ "end".toList :: "else".toList :: Statement.keywords ∧
        ∀ word ∈ name :: arguments, word.IsWord
  | .unsupported => False

theorem Command.render_begins (command : Command) (canonical : command.Canonical) :
    command.render ≠ [] ∧ Boundary.startsBlank command.render = false := by
  cases command with
  | count direction name => cases direction <;> exact ⟨List.cons_ne_nil _ _, rfl⟩
  | call name arguments =>
      have whole := Text.join_phrase name arguments canonical.2
      exact ⟨whole.proper, whole.starts⟩
  | unsupported => cases canonical
  | _ => exact ⟨List.cons_ne_nil _ _, rfl⟩

namespace Statement

theorem name_read (line : Line) (keyword name : Text) (word : name.IsWord) :
    readName line keyword name = .ok name := by
  have first : name.trimStart.firstWord = name := by
    rw [Text.trim_start_kept name (Text.word_starts name word.solid), Text.only_word name word.solid]
  rw [readName, first]
  cases name with
  | nil => exact absurd rfl word.proper
  | cons c rest => rfl

theorem header_command (location : Location) (kind : BlockKind) (subject : Text) (phrase : subject.IsPhrase)
    (unbroken : '\n' ∉ subject) :
    readCommand ⟨location, Boundary.header kind subject⟩ =
      match kind with
      | .loop => .ok (.loop subject)
      | .branch => .ok (.branch subject)
      | .function => functionOf ⟨location, Boundary.header kind subject⟩ subject := by
  have spaced : kind.keyword ++ [' '] <+: Boundary.header kind subject :=
    ⟨subject ++ " do".toList, by simp [Boundary.header]⟩
  have read : readHeader ⟨location, Boundary.header kind subject⟩ kind = .ok subject := by
    rw [readHeader, Boundary.header_subject kind subject phrase unbroken]
  rw [spaced_command _ kind spaced, read]
  rfl

theorem assignment_read (name format : Text) (word : name.IsWord) (unbroken : '\n' ∉ format) :
    assignment? (name ++ ' ' :: format) = some (name, format) := by
  have starts : Boundary.startsBlank (name ++ ' ' :: format) = false := by
    rw [Text.starts_append name _ word.proper]
    exact Text.word_starts name word.solid
  obtain ⟨first, behind⟩ := Text.first_word name format ' ' word.solid rfl
  simp [assignment?, Text.trim_start_kept _ starts, first, behind, Text.cut_absent '\n' format unbroken]

theorem call_read (line : Line) (name : Text) (arguments : List Text)
    (canonical : (Command.call name arguments).Canonical)
    (same : line.text = Text.join [' '] (name :: arguments)) :
    readCommand line = .ok (.call name arguments) := by
  obtain ⟨free, whole⟩ := canonical
  have first := Text.join_first name arguments (whole name List.mem_cons_self)
  have trimmed := Text.trim_kept _ (Text.join_phrase name arguments whole)
  rw [← same] at first trimmed
  have calls : readCommand line = readCall line := by
    refine command_call line fun keyword member => no_operand keyword line.text member ?_
    rw [first]
    rintro rfl
    exact free (List.mem_cons_of_mem _ (List.mem_cons_of_mem _ member))
  have noEnd : Boundary.isEnd line.text = false := by
    cases ends : Boundary.isEnd line.text with
    | false => rfl
    | true =>
        have whole : line.text.trim = "end".toList := eq_of_beq ends
        rw [← first, ← trimmed, whole] at free
        exact absurd List.mem_cons_self free
  have noElse : Boundary.isElse line.text = false := by
    cases clause : Boundary.isElse line.text with
    | false => rfl
    | true =>
        have whole := Boundary.clause_first line.text clause
        rw [trimmed, first] at whole
        exact absurd (List.mem_cons_of_mem _ (whole ▸ List.mem_cons_self)) free
  rw [calls, readCall, noEnd, noElse, same, Text.join_words name arguments whole]
  rfl

theorem render_command (location : Location) (command : Command) (canonical : command.Canonical)
    (unbroken : '\n' ∉ command.render) : readCommand ⟨location, command.render⟩ = .ok command := by
  cases command with
  | clear name =>
      change (readName _ "clear".toList name).map Command.clear = _
      rw [name_read _ _ name canonical]
      rfl
  | count direction name =>
      cases direction with
      | up =>
          change (readName _ "incr".toList name).map (Command.count .up) = _
          rw [name_read _ _ name canonical]
          rfl
      | down =>
          change (readName _ "decr".toList name).map (Command.count .down) = _
          rw [name_read _ _ name canonical]
          rfl
  | debug phrase => exact command_debug _ phrase rfl canonical
  | print format => rfl
  | assign name format =>
      change '\n' ∉ "set".toList ++ ' ' :: (name ++ ' ' :: format) at unbroken
      have within : '\n' ∉ format := fun member => unbroken (by simp [member])
      exact command_assign _ _ name format rfl (assignment_read name format canonical within)
  | loop predicate =>
      have within := fun member => unbroken (Boundary.subject_within .loop predicate '\n' member)
      exact header_command location .loop predicate canonical within
  | branch predicate =>
      have within := fun member => unbroken (Boundary.subject_within .branch predicate '\n' member)
      exact header_command location .branch predicate canonical within
  | define name =>
      have within := fun member => unbroken (Boundary.subject_within .function name '\n' member)
      have read := header_command location .function name (Text.word_phrase name canonical) within
      change readCommand ⟨location, Boundary.header .function name⟩ = _
      rw [read, functionOf, Text.words_word name canonical]
      rfl
  | call name arguments => exact call_read _ name arguments canonical rfl
  | unsupported => cases canonical

theorem render_read (location : Location) (command : Command) (canonical : command.Canonical)
    (unbroken : '\n' ∉ command.render) : read ⟨location, command.render⟩ = .ok ⟨location, command⟩ := by
  rw [read, render_command location command canonical unbroken]
  rfl

end Statement

theorem Line.written_read (file : Text) :
    (∀ command : Command, command.Canonical → command.render.Unbroken → command.render.Uncommented →
      (Line.ofSource file command.render).map Statement.read =
        [.ok ⟨⟨file, 1, command.render.trimEnd⟩, command⟩]) ∧
    (∀ predicate : Option Text, (∀ text ∈ predicate, text.IsPhrase) →
      (Boundary.elseClause predicate).Unbroken → (Boundary.elseClause predicate).Uncommented →
      (Line.ofSource file (Boundary.elseClause predicate)).map Boundary.readElse = [.ok predicate]) := by
  constructor
  · intro command canonical unbroken uncommented
    obtain ⟨proper, starts⟩ := command.render_begins canonical
    rw [Line.of_source_one file _ proper unbroken starts (Line.comment_kept _ uncommented)]
    exact congrArg (fun read => [read])
      (Statement.render_read _ command canonical (Text.unbroken_feed _ unbroken))
  · intro predicate phrase unbroken uncommented
    have whole := Boundary.clause_phrase predicate
    have lines := Line.of_source_one file _ whole.proper unbroken whole.starts
      (Line.comment_kept _ uncommented)
    rw [lines, List.map_singleton, Boundary.readElse, Line.verbatim,
      Boundary.clause_predicate predicate phrase (Text.unbroken_feed _ unbroken)]

theorem Line.written_read_nested :
    (Line.ofSource "main".toList "while do if x\\; do do".toList).map Statement.read =
        [.ok ⟨⟨"main".toList, 1, "while do if x\\; do do".toList⟩, .loop "do if x\\; do".toList⟩] ∧
      (Line.ofSource "main".toList "else if do do".toList).map Boundary.readElse =
        [.ok (some "do".toList)] :=
  ⟨(Line.written_read "main".toList).1 (.loop "do if x\\; do".toList) ⟨by decide, rfl, rfl⟩
    (by decide) (by decide),
    (Line.written_read "main".toList).2 (some "do".toList)
      (by rintro text ⟨rfl⟩; exact ⟨by decide, rfl, rfl⟩) (by decide) (by decide)⟩

end BareBones
