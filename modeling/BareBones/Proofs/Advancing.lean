import BareBones.Proofs.Closing
import BareBones.Proofs.Sharing

set_option autoImplicit false

namespace BareBones

theorem Line.numbered_places (file : Text) (number : Nat) (raws : List Text) :
    numbered file number raws = (raws.zipIdx number).map fun (raw, place) => ofRaw file place raw := by
  induction raws generalizing number with
  | nil => rfl
  | cons raw rest ih => rw [numbered, ih, List.zipIdx_cons, List.map_cons]

namespace Cursor

inductive Question where
  | peek
  | ended
  | number
  | advance
deriving DecidableEq

structure Query where
  question : Question
  settles : Bool

inductive Answer where
  | peeked (line : Option Line)
  | ended (exhausted : Bool)
  | numbered (number : Option Int)
  | advanced (outcome : Except Signal Line)

def ask (cursor : Cursor) (query : Query) : Answer × Cursor :=
  let settled := if query.settles then cursor.skipBlank else cursor
  match query.question with
  | .peek => (.peeked cursor.peek?, settled)
  | .ended => (.ended cursor.isExhausted, settled)
  | .number => (.numbered cursor.position?, settled)
  | .advance =>
      match cursor.advance with
      | .ok (line, rest) => (.advanced (.ok line), rest)
      | .error signal => (.advanced (.error signal), settled)

def askAll (cursor : Cursor) : List Query → List Answer × Cursor
  | [] => ([], cursor)
  | query :: later =>
      let (answer, next) := cursor.ask query
      let (answers, last) := askAll next later
      (answer :: answers, last)

def asked (queries : List Query) : List Question :=
  queries.map (·.question)

def taken (answers : List Answer) : List Line :=
  answers.filterMap fun
    | .advanced (.ok line) => some line
    | _ => none

def ahead (cursor : Cursor) : List Line :=
  cursor.filter (!Line.isBlank ·)

def offer : Option Line → Except Signal Line
  | some line => .ok line
  | none => .error .noLines

def reply (lines : List Line) : Question → Answer
  | .peek => .peeked lines.head?
  | .ended => .ended lines.isEmpty
  | .number => .numbered (lines.head?.map (·.location.line))
  | .advance => .advanced (offer lines.head?)

def replies (lines : List Line) : List Question → List Answer
  | [] => []
  | question :: later =>
      reply lines question :: replies (if question = .advance then lines.tail else lines) later

section

variable {line : Line}

theorem ahead_blank (rest : Cursor) (blank : line.isBlank = true) : ahead (line :: rest) = ahead rest :=
  List.filter_cons_of_neg (by simp [blank])

theorem ahead_solid (rest : Cursor) (solid : line.isBlank = false) : ahead (line :: rest) = line :: ahead rest :=
  List.filter_cons_of_pos (by simp [solid])

theorem skip_ahead (cursor : Cursor) : ahead (skipBlank cursor) = ahead cursor := by
  induction cursor with
  | nil => rfl
  | cons line rest ih =>
      cases blank : line.isBlank with
      | true =>
          rw [ahead_blank rest blank, ← ih, skipBlank, List.dropWhile_cons_of_pos blank]
          rfl
      | false => rw [skipBlank, List.dropWhile_cons_of_neg (by simp [blank])]

theorem settled_ahead (cursor : Cursor) (settles : Bool) :
    ahead (if settles then skipBlank cursor else cursor) = ahead cursor := by
  cases settles with
  | true => exact skip_ahead cursor
  | false => rfl

theorem peek_ahead (cursor : Cursor) : peek? cursor = (ahead cursor).head? :=
  List.head?_filter.symm

theorem exhausted_ahead (cursor : Cursor) : isExhausted cursor = (ahead cursor).isEmpty := by
  rw [isExhausted, peek_ahead]
  cases ahead cursor <;> rfl

theorem position_ahead (cursor : Cursor) : position? cursor = (ahead cursor).head?.map (·.location.line) := by
  rw [position?, peek_ahead]

theorem advance_spent {cursor : Cursor} (spent : ahead cursor = []) : advance cursor = .error .noLines := by
  induction cursor with
  | nil => rfl
  | cons line rest ih =>
      cases blank : line.isBlank with
      | true =>
          rw [ahead_blank rest blank] at spent
          rw [advance, next_blank line rest blank]
          exact ih spent
      | false => cases (ahead_solid rest blank).symm.trans spent

theorem advance_next {cursor : Cursor} {later : List Line} (coming : ahead cursor = line :: later) :
    ∃ rest, advance cursor = .ok (line, rest) ∧ ahead rest = later := by
  induction cursor with
  | nil => cases coming
  | cons first rest ih =>
      cases blank : first.isBlank with
      | true =>
          rw [ahead_blank rest blank] at coming
          rw [advance, next_blank first rest blank]
          exact ih coming
      | false =>
          obtain ⟨rfl, behind⟩ := List.cons.inj ((ahead_solid rest blank).symm.trans coming)
          rw [advance, next_solid first rest blank]
          exact ⟨rest, rfl, behind⟩

theorem ask_reply (cursor : Cursor) (query : Query) :
    (cursor.ask query).1 = reply (ahead cursor) query.question ∧
      ahead (cursor.ask query).2 =
        if query.question = .advance then (ahead cursor).tail else ahead cursor := by
  obtain ⟨question, settles⟩ := query
  have settled := settled_ahead cursor settles
  cases question with
  | peek => exact ⟨congrArg Answer.peeked (peek_ahead cursor), settled⟩
  | ended => exact ⟨congrArg Answer.ended (exhausted_ahead cursor), settled⟩
  | number => exact ⟨congrArg Answer.numbered (position_ahead cursor), settled⟩
  | advance =>
      cases coming : ahead cursor with
      | nil =>
          simp only [ask, advance_spent coming]
          exact ⟨rfl, settled.trans coming⟩
      | cons line later =>
          obtain ⟨rest, taking, behind⟩ := advance_next coming
          simp only [ask, taking]
          exact ⟨rfl, behind⟩

end

theorem ask_all_replies (cursor : Cursor) (queries : List Query) :
    (cursor.askAll queries).1 = replies (ahead cursor) (asked queries) := by
  induction queries generalizing cursor with
  | nil => rfl
  | cons query later ih =>
      obtain ⟨answer, next⟩ := cursor.ask_reply query
      simp only [askAll, asked, List.map_cons, replies]
      rw [answer, ih, next, asked]

theorem ask_all_ahead (cursor : Cursor) (queries : List Query) :
    ahead (cursor.askAll queries).2 = (ahead cursor).drop ((asked queries).count .advance) := by
  induction queries generalizing cursor with
  | nil => rfl
  | cons query later ih =>
      simp only [askAll]
      rw [ih, (cursor.ask_reply query).2, asked, asked, List.map_cons]
      by_cases taking : query.question = .advance
      · rw [if_pos taking, taking, List.count_cons_self, List.drop_tail]
      · rw [if_neg taking, List.count_cons_of_ne taking]

theorem replies_taken (lines : List Line) (questions : List Question) :
    taken (replies lines questions) = lines.take (questions.count .advance) := by
  induction questions generalizing lines with
  | nil => rfl
  | cons question later ih =>
      cases question with
      | peek | ended | number =>
          rw [List.count_cons_of_ne (by decide)]
          exact ih lines
      | advance =>
          rw [List.count_cons_self]
          cases lines with
          | nil => exact (ih []).trans List.take_nil
          | cons line rest => exact congrArg (line :: ·) (ih rest)

structure Walks (lines : List Line) (queries : List Query) (answers : List Answer) (cursor : Cursor) : Prop where
  given : taken answers = lines.take ((asked queries).count .advance)
  ascending : (taken answers).Pairwise fun first second => first.location.line < second.location.line
  foreseen : ∀ waiting : List Query, .advance ∉ asked waiting → ∀ settles,
    ((cursor.askAll waiting).2.ask ⟨.advance, settles⟩).1 = .advanced (offer cursor.peek?)
  ended : cursor.isExhausted = true ↔ cursor.peek? = none
  number : cursor.position? = cursor.peek?.map (·.location.line)
  unnumbered : cursor.position? = none ↔ cursor.peek? = none
  refused : ∀ signal, cursor.advance = .error signal ↔ signal = .noLines ∧ cursor.peek? = none
  still : cursor.peek? = none → ∀ settles later,
    ((cursor.ask ⟨.advance, settles⟩).2.askAll later).1 = (cursor.askAll later).1

theorem advance_foreseen (cursor : Cursor) {waiting : List Query} (patient : .advance ∉ asked waiting)
    (settles : Bool) :
    ((cursor.askAll waiting).2.ask ⟨.advance, settles⟩).1 = .advanced (offer cursor.peek?) := by
  have unmoved : ahead (cursor.askAll waiting).2 = ahead cursor := by
    rw [ask_all_ahead, List.count_eq_zero.mpr patient, List.drop_zero]
  rw [(ask_reply _ _).1, unmoved, peek_ahead, reply]

theorem advance_refused (cursor : Cursor) (signal : Signal) :
    cursor.advance = .error signal ↔ signal = .noLines ∧ cursor.peek? = none := by
  rw [peek_ahead]
  cases coming : ahead cursor with
  | nil =>
      rw [advance_spent coming]
      exact ⟨fun same => by cases same; exact ⟨rfl, rfl⟩, fun same => by rw [same.1]⟩
  | cons line later =>
      obtain ⟨rest, taking, _⟩ := advance_next coming
      rw [taking]
      exact ⟨nofun, nofun⟩

theorem refused_still (cursor : Cursor) (spent : cursor.peek? = none) (settles : Bool) (later : List Query) :
    ((cursor.ask ⟨.advance, settles⟩).2.askAll later).1 = (cursor.askAll later).1 := by
  have nothing : ahead cursor = [] := List.head?_eq_none_iff.mp (cursor.peek_ahead.symm.trans spent)
  rw [ask_all_replies, ask_all_replies, (ask_reply cursor _).2, if_pos rfl, nothing, List.tail_nil]

-- The lines of a program text that are not blank are given in their order, whatever else is asked in
-- between and wherever that leaves the cursor.
theorem lines_walked (file source : Text) (queries : List Query) :
    let cursor : Cursor := Line.ofSource file source
    let lines := ((source.lines.zipIdx 1).map fun (raw, number) => Line.ofRaw file number raw).filter
      (!Line.isBlank ·)
    Walks lines queries (cursor.askAll queries).1 (cursor.askAll queries).2 ∧
      ∀ others, asked others = asked queries → (cursor.askAll others).1 = (cursor.askAll queries).1 := by
  intro cursor lines
  have whole : lines = ahead cursor :=
    congrArg (List.filter (!Line.isBlank ·)) (Line.numbered_places file 1 source.lines).symm
  have given : taken (cursor.askAll queries).1 = lines.take ((asked queries).count .advance) := by
    rw [ask_all_replies, replies_taken, whole]
  have ordered : lines.Pairwise fun first second => first.location.line < second.location.line :=
    whole ▸ (Line.numbered_ordered file 1 source.lines).filter _
  refine ⟨?_, fun others same => by rw [ask_all_replies, ask_all_replies, same]⟩
  generalize (cursor.askAll queries).2 = last
  exact {
    given
    ascending := given ▸ ordered.sublist (List.take_sublist _ _)
    foreseen := fun waiting patient settles => last.advance_foreseen patient settles
    ended := Option.isNone_iff_eq_none
    number := rfl
    unnumbered := Option.map_eq_none_iff
    refused := last.advance_refused
    still := last.refused_still }

example : (taken (askAll (Line.ofSource [] "a\n\n ; b\n c".toList) [⟨.advance, false⟩, ⟨.peek, true⟩, ⟨.number, false⟩,
    ⟨.advance, true⟩, ⟨.ended, false⟩, ⟨.advance, false⟩]).1).map (·.location.line) = [1, 4] := by decide +kernel

end Cursor
end BareBones
