import BareBones.Proofs.Sequencing
import BareBones.Proofs.Tracking

set_option autoImplicit false

namespace BareBones

namespace Text

theorem lines_from_turn (current rest : Text) (c d : Char) (apart : ¬(c = '\r' ∧ d = '\n')) :
    linesFrom current (c :: d :: rest) =
      if isBreak c then current.reverse :: linesFrom [] (d :: rest)
      else linesFrom (c :: current) (d :: rest) := by
  rw [linesFrom.eq_def]
  split
  · contradiction
  · rename_i same
    cases same
    exact absurd ⟨rfl, rfl⟩ apart
  · rename_i same
    cases same
    rfl

theorem lines_from_alone (current : Text) : linesFrom current ['\n'] = [current.reverse] := by
  simp [linesFrom, isBreak]

theorem lines_from_feed : ∀ current front rest : Text,
    linesFrom current (front ++ '\n' :: rest) = linesFrom current (front ++ ['\n']) ++ rest.lines
  | current, [], rest => by simp [linesFrom, isBreak, lines]
  | current, [c], rest => by
      by_cases carriage : c = '\r'
      · simp [carriage, linesFrom, lines]
      · have apart : ∀ rest : Text, linesFrom current (c :: '\n' :: rest) = _ :=
          fun rest => lines_from_turn current rest c '\n' fun both => carriage both.1
        simp only [List.cons_append, List.nil_append, apart]
        split <;> simp [linesFrom, isBreak, lines]
  | current, c :: d :: front, rest => by
      have deeper := fun current => lines_from_feed current (d :: front) rest
      by_cases pair : c = '\r' ∧ d = '\n'
      · obtain ⟨rfl, rfl⟩ := pair
        simp only [List.cons_append, linesFrom, lines_from_feed [] front rest]
      · simp only [List.cons_append, lines_from_turn _ _ c d pair] at deeper ⊢
        split
        · rw [deeper, List.cons_append]
        · exact deeper _

theorem lines_from_fed : ∀ current text : Text,
    ∃ blanks, (blanks = [] ∨ blanks = [[]]) ∧
      linesFrom current (text ++ ['\n']) = linesFrom current text ++ blanks
  | current, [] => by
      cases current with
      | nil => exact ⟨[[]], .inr rfl, rfl⟩
      | cons c others => exact ⟨[], .inl rfl, by simp [linesFrom, lines_from_alone]⟩
  | current, [c] => by
      by_cases carriage : c = '\r'
      · exact ⟨[], .inl rfl, by simp [carriage, linesFrom, isBreak]⟩
      · have apart := lines_from_turn current [] c '\n' fun both => carriage both.1
        cases ends : isBreak c with
        | true => exact ⟨[[]], .inr rfl, by simp [apart, ends, linesFrom, lines_from_alone]⟩
        | false => exact ⟨[], .inl rfl, by simp [apart, ends, linesFrom, lines_from_alone]⟩
  | current, c :: d :: text => by
      by_cases pair : c = '\r' ∧ d = '\n'
      · obtain ⟨rfl, rfl⟩ := pair
        obtain ⟨blanks, kind, same⟩ := lines_from_fed [] text
        exact ⟨blanks, kind, by simp only [List.cons_append, linesFrom, same]⟩
      · cases ends : isBreak c with
        | true =>
            obtain ⟨blanks, kind, same⟩ := lines_from_fed [] (d :: text)
            refine ⟨blanks, kind, ?_⟩
            simp only [List.cons_append, lines_from_turn _ _ c d pair, ends, if_true] at same ⊢
            rw [same]
        | false =>
            obtain ⟨blanks, kind, same⟩ := lines_from_fed (c :: current) (d :: text)
            refine ⟨blanks, kind, ?_⟩
            simp only [List.cons_append, lines_from_turn _ _ c d pair, ends, Bool.false_eq_true, if_false]
              at same ⊢
            rw [same]

theorem lines_from_within (current text line : Text) (member : line ∈ linesFrom current text) :
    line <:+: current.reverse ++ text := by
  fun_induction linesFrom current text with
  | case1 current bare => cases member
  | case2 current solid =>
      rw [List.mem_singleton.mp member, List.append_nil]
  | case3 current rest ih =>
      rcases List.mem_cons.mp member with rfl | later
      · exact (List.prefix_append _ _).isInfix
      · have behind : rest <:+ current.reverse ++ '\r' :: '\n' :: rest :=
          ⟨current.reverse ++ ['\r', '\n'], by simp⟩
        exact (ih later).trans behind.isInfix
  | case4 current c rest _ ends ih =>
      rcases List.mem_cons.mp member with rfl | later
      · exact (List.prefix_append _ _).isInfix
      · have behind : rest <:+ current.reverse ++ c :: rest := ⟨current.reverse ++ [c], by simp⟩
        exact (ih later).trans behind.isInfix
  | case5 current c rest _ ends ih => simpa using ih member

theorem lines_within (text line : Text) (member : line ∈ text.lines) : line <:+: text :=
  lines_from_within [] text line member

end Text

namespace Line

theorem numbered_append (file : Text) (number : Nat) (first second : List Text) :
    numbered file number (first ++ second) =
      numbered file number first ++ numbered file (number + first.length) second := by
  induction first generalizing number with
  | nil => rfl
  | cons raw rest ih =>
      rw [List.cons_append, numbered, numbered, List.cons_append, ih, List.length_cons, Nat.add_right_comm,
        Nat.add_assoc]

theorem numbered_length (file : Text) (number : Nat) (raws : List Text) :
    (numbered file number raws).length = raws.length := by
  induction raws generalizing number with
  | nil => rfl
  | cons raw rest ih => rw [numbered, List.length_cons, List.length_cons, ih]

theorem numbered_pair (file : Text) (number place : Nat) (raws : List Text) (one other : Line)
    (member : (one, other) ∈ (numbered file number raws).zip (numbered file place raws)) :
    ∃ raw ∈ raws, ∃ first second, one = ofRaw file first raw ∧ other = ofRaw file second raw := by
  induction raws generalizing number place with
  | nil => cases member
  | cons raw rest ih =>
      rcases List.mem_cons.mp member with same | later
      · obtain ⟨rfl, rfl⟩ := Prod.mk.inj same
        exact ⟨raw, List.mem_cons_self, number, place, rfl, rfl⟩
      · obtain ⟨found, among, first, second, same⟩ := ih _ _ later
        exact ⟨found, List.mem_cons_of_mem raw among, first, second, same⟩

theorem raw_quiet (file : Text) (number : Nat) (raw text : Text) (within : raw <:+: text)
    (quiet : ¬text.AsksPath) : ¬(ofRaw file number raw).text.AsksPath := by
  obtain ⟨dropped, whole⟩ := withoutComment_append raw.trimStart
  have kept : (ofRaw file number raw).text <:+: raw.trimStart := ⟨[], dropped, whole⟩
  exact Text.quiet_part (kept.trans ((Text.trim_start_suffix raw).isInfix.trans within)) quiet

end Line

def joined (entries : List Text) : Text :=
  entries.flatMap (· ++ ['\n'])

-- The lines of the entries where they stand in the program, the first of them at `number`.
def pieces (file : Text) (number : Nat) : List Text → List Cursor
  | [] => []
  | entry :: rest =>
      Line.numbered file number entry.lines ::
        pieces file (number + (entry ++ ['\n']).lines.length) rest

def Renumbered (file : Text) (entries : List Text) (one other : Line) : Prop :=
  ∃ piece mate, (piece, mate) ∈ (pieces file 1 entries).zip (entries.map (Line.ofSource file)) ∧
    (one, other) ∈ piece.zip mate

theorem pieces_length (file : Text) (number : Nat) (entries : List Text) :
    (pieces file number entries).length = entries.length := by
  induction entries generalizing number with
  | nil => rfl
  | cons entry rest ih => rw [pieces, List.length_cons, List.length_cons, ih]

theorem pieces_pair (file : Text) (number : Nat) (entries : List Text) (piece mate : Cursor)
    (member : (piece, mate) ∈ (pieces file number entries).zip (entries.map (Line.ofSource file))) :
    ∃ entry ∈ entries, ∃ place, piece = Line.numbered file place entry.lines ∧
      mate = Line.ofSource file entry := by
  induction entries generalizing number with
  | nil => cases member
  | cons entry rest ih =>
      rcases List.mem_cons.mp member with same | later
      · obtain ⟨rfl, rfl⟩ := Prod.mk.inj same
        exact ⟨entry, List.mem_cons_self, number, rfl, rfl⟩
      · obtain ⟨found, among, place, same⟩ := ih _ later
        exact ⟨found, List.mem_cons_of_mem entry among, place, same⟩

theorem renumbered_raw (file : Text) (entries : List Text) (one other : Line)
    (renumbered : Renumbered file entries one other) :
    ∃ entry ∈ entries, ∃ raw ∈ entry.lines, ∃ first second,
      one = Line.ofRaw file first raw ∧ other = Line.ofRaw file second raw := by
  obtain ⟨piece, mate, member, pair⟩ := renumbered
  obtain ⟨entry, among, place, rfl, rfl⟩ := pieces_pair file 1 entries piece mate member
  exact ⟨entry, among, Line.numbered_pair file place 1 entry.lines one other pair⟩

theorem renumbered_faithful (file : Text) (entries : List Text)
    (quiet : ∀ entry ∈ entries, ¬Text.AsksPath entry) : Line.Faithful (Renumbered file entries) where
  text one other renumbered := by
    obtain ⟨_, _, _, _, _, _, rfl, rfl⟩ := renumbered_raw file entries one other renumbered
    rfl
  quiet one other renumbered := by
    obtain ⟨entry, among, raw, inside, _, _, rfl, rfl⟩ := renumbered_raw file entries one other renumbered
    exact Line.raw_quiet file _ raw entry (Text.lines_within entry raw inside) (quiet entry among)

theorem pieces_twins (file : Text) (entries : List Text) :
    List.Forall₂ (List.Forall₂ (Renumbered file entries)) (pieces file 1 entries)
      (entries.map (Line.ofSource file)) := by
  rw [List.forall₂_iff_zip]
  refine ⟨by rw [pieces_length, List.length_map], fun {piece mate} member => ?_⟩
  obtain ⟨entry, _, place, rfl, rfl⟩ := pieces_pair file 1 entries piece mate member
  rw [List.forall₂_iff_zip]
  refine ⟨by rw [Line.ofSource, Line.numbered_length, Line.numbered_length], ?_⟩
  exact fun {one other} pair => ⟨_, _, member, pair⟩

def labels (one other : Line) : List (Text × Text) :=
  let loop := (Machine.blockLabel .loop one.location, Machine.blockLabel .loop other.location)
  let branch := (Machine.blockLabel .branch one.location, Machine.blockLabel .branch other.location)
  (if (Boundary.headerOf? .loop one.text).isSome then [loop] else []) ++
    ((if (Boundary.headerOf? .branch one.text).isSome || Boundary.isElse one.text then [branch] else []) ++
      match Statement.read one with
      | .ok ⟨_, .call name _⟩ => [(name, name)]
      | _ => [])

def renamings (file : Text) (entries : List Text) : List (Text × Text) :=
  ((pieces file 1 entries).zip (entries.map (Line.ofSource file))).flatMap fun (piece, mate) =>
    (piece.zip mate).flatMap fun (one, other) => labels one other

theorem renamings_listed (file : Text) (entries : List Text) (label mate : Text)
    (renames : Renames (Renumbered file entries) label mate) : (label, mate) ∈ renamings file entries := by
  have among (one other : Line) (twins : Renumbered file entries one other)
      (here : (label, mate) ∈ labels one other) : (label, mate) ∈ renamings file entries := by
    obtain ⟨piece, counterpart, pieces, lines⟩ := twins
    exact List.mem_flatMap.mpr ⟨_, pieces, List.mem_flatMap.mpr ⟨_, lines, here⟩⟩
  cases renames with
  | loop twins header =>
      refine among _ _ twins ?_
      unfold labels
      rw [header]
      exact List.mem_append_left _ List.mem_cons_self
  | branch twins header =>
      refine among _ _ twins ?_
      unfold labels
      rw [header]
      exact List.mem_append_right _ (List.mem_append_left _ List.mem_cons_self)
  | clause twins stops =>
      refine among _ _ twins ?_
      unfold labels
      rw [stops, Bool.or_true]
      exact List.mem_append_right _ (List.mem_append_left _ List.mem_cons_self)
  | call twins reading =>
      refine among _ _ twins ?_
      unfold labels
      rw [reading]
      exact List.mem_append_right _ (List.mem_append_right _ List.mem_cons_self)

theorem complete_twin {twin : Line → Line → Prop} (faithful : Line.Faithful twin) {one other : Cursor}
    (complete : one.Complete) (twins : List.Forall₂ twin one other) : other.Complete := by
  induction complete generalizing other with
  | done =>
      cases twins
      exact .done
  | blank blank later ih =>
      cases twins with
      | cons both behind =>
          refine .blank ?_ (ih behind)
          rwa [Line.isBlank, ← faithful.text _ _ both]
  | plain solid plain later ih =>
      cases twins with
      | cons both behind =>
          have same := faithful.text _ _ both
          refine .plain ?_ (fun statement reading => ?_) (ih behind)
          · rwa [Line.isBlank, ← same]
          · have again := (Statement.read_elsewhere _ _ statement same.symm reading).2
            have closed := plain _ again
            exact closed
  | block solid reading opens closed later ih =>
      cases twins with
      | cons both behind =>
          have same := faithful.text _ _ both
          have again := (Statement.read_elsewhere _ _ _ same reading).2
          have carvings := Block.carve_twin faithful false 0 behind
          rw [closed] at carvings
          generalize carved : Block.carveFrom false 0 _ = counterpart at carvings
          cases carvings with
          | some twins =>
              refine .block ?_ again opens carved (ih twins.after)
              rwa [Line.isBlank, ← same]

end BareBones
