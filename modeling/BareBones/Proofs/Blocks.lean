import BareBones.Source.Block
import Mathlib.Data.List.Basic

set_option autoImplicit false

namespace BareBones

namespace Boundary

theorem header_keyword (text : Text) (header : isHeader text = true) :
    ∃ kind : BlockKind, kind.keyword <+: text.trim := by
  obtain ⟨kind, _, found⟩ := List.any_eq_true.mp header
  obtain ⟨subject, bound⟩ := Option.isSome_iff_exists.mp found
  obtain ⟨rest, starts, _⟩ := Option.bind_eq_some_iff.mp bound
  exact ⟨kind, rest, List.isPrefixOf?_eq_some_iff_append_eq.mp starts⟩

theorem else_keyword (text : Text) (clause : isElse text = true) : "else".toList <+: text.trim := by
  obtain ⟨predicate, bound⟩ := Option.isSome_iff_exists.mp clause
  obtain ⟨rest, starts, _⟩ := Option.bind_eq_some_iff.mp bound
  exact ⟨rest, List.isPrefixOf?_eq_some_iff_append_eq.mp starts⟩

theorem header_no_end (text : Text) (header : isHeader text = true) : isEnd text = false := by
  obtain ⟨kind, rest, starts⟩ := header_keyword text header
  rw [isEnd, ← starts]
  cases kind <;> rfl

theorem end_no_header (text : Text) (ends : isEnd text = true) : isHeader text = false := by
  cases header : isHeader text with
  | false => rfl
  | true =>
      rw [header_no_end text header] at ends
      cases ends

theorem else_no_end (text : Text) (clause : isElse text = true) : isEnd text = false := by
  obtain ⟨rest, starts⟩ := else_keyword text clause
  rw [isEnd, ← starts]
  rfl

theorem end_no_else (text : Text) (ends : isEnd text = true) : isElse text = false := by
  cases clause : isElse text with
  | false => rfl
  | true =>
      rw [else_no_end text clause] at ends
      cases ends

theorem else_no_header (text : Text) (clause : isElse text = true) : isHeader text = false := by
  cases header : isHeader text with
  | false => rfl
  | true =>
      obtain ⟨rest, starts⟩ := else_keyword text clause
      obtain ⟨kind, other, same⟩ := header_keyword text header
      rw [← starts] at same
      cases kind <;> cases same

end Boundary

namespace Block

structure Carving where
  body : List Line
  terminator : Line
  after : Cursor
deriving DecidableEq, Repr

def Carving.prepend (line : Line) (carving : Carving) : Carving :=
  { carving with body := line :: carving.body }

def Carving.rest (carving : Carving) : Cursor :=
  if Boundary.isElse carving.terminator.text then carving.terminator :: carving.after else carving.after

def carveFrom (elseEnds : Bool) (depth : Nat) : List Line → Option Carving
  | [] => none
  | line :: rest =>
      if line.isBlank then carveFrom elseEnds depth rest
      else if depth == 0 && elseEnds && Boundary.isElse line.text then some ⟨[], line, rest⟩
      else if Boundary.isHeader line.text then
        (carveFrom elseEnds (depth + 1) rest).map (Carving.prepend line)
      else if Boundary.isEnd line.text then
        match depth with
        | 0 => some ⟨[], line, rest⟩
        | outer + 1 => (carveFrom elseEnds outer rest).map (Carving.prepend line)
      else (carveFrom elseEnds depth rest).map (Carving.prepend line)

theorem carve_after_shorter (elseEnds : Bool) (depth : Nat) (lines : List Line) (carving : Carving)
    (carved : carveFrom elseEnds depth lines = some carving) :
    carving.after.length < lines.length := by
  induction lines generalizing depth carving with
  | nil => simp [carveFrom] at carved
  | cons line rest ih =>
    have step : ∀ outer, (carveFrom elseEnds outer rest).map (Carving.prepend line) = some carving →
        carving.after.length < (line :: rest).length := by
      intro outer mapped
      obtain ⟨inner, found, rfl⟩ := Option.map_eq_some_iff.mp mapped
      exact Nat.lt_succ_of_lt (ih outer inner found)
    unfold carveFrom at carved
    split at carved
    · exact Nat.lt_succ_of_lt (ih depth carving carved)
    · split at carved
      · cases carved
        exact Nat.lt_succ_self _
      · split at carved
        · exact step _ carved
        · split at carved
          · split at carved
            · cases carved
              exact Nat.lt_succ_self _
            · exact step _ carved
          · exact step _ carved

section

variable (keyword : Text) (header : Location)

def taken (body : List Line) : Option Carving → Except Fault Block × Cursor
  | none => (.error (.at header (.unterminated keyword)), [])
  | some carving => (.ok ⟨keyword, header, body.reverse ++ carving.body, carving.terminator⟩, carving.rest)

theorem taken_prepend (line : Line) (body : List Line) (carved : Option Carving) :
    taken keyword header (line :: body) carved =
      taken keyword header body (carved.map (Carving.prepend line)) := by
  cases carved with
  | none => rfl
  | some carving =>
      simp only [taken, Option.map_some, Carving.prepend, List.reverse_cons, List.append_assoc,
        List.singleton_append]
      rfl

theorem taken_clause {line : Line} (clause : Boundary.isElse line.text = true) (body rest : List Line) :
    taken keyword header body (some ⟨[], line, rest⟩) =
      (.ok ⟨keyword, header, body.reverse, line⟩, line :: rest) := by
  simp only [taken, Carving.rest, clause, if_true, List.append_nil]

theorem taken_end {line : Line} (ends : Boundary.isEnd line.text = true) (body rest : List Line) :
    taken keyword header body (some ⟨[], line, rest⟩) =
      (.ok ⟨keyword, header, body.reverse, line⟩, rest) := by
  simp only [taken, Carving.rest, Boundary.end_no_else line.text ends, List.append_nil]
  rfl

theorem take_from_carves (elseEnds : Bool) (depth : Nat) (body : List Line) (cursor : Cursor) :
    takeFrom keyword header elseEnds depth body cursor =
      taken keyword header body (carveFrom elseEnds depth cursor) := by
  induction cursor generalizing depth body with
  | nil => rfl
  | cons line rest ih =>
    have inside := fun deeper => (ih deeper (line :: body)).trans (taken_prepend keyword header line body _)
    unfold takeFrom carveFrom
    split
    · exact ih depth body
    · split
      · rename_i stops
        simp only [Bool.and_eq_true] at stops
        exact (taken_clause keyword header stops.2 body rest).symm
      · split
        · exact inside (depth + 1)
        · split
          · rename_i ends
            cases depth with
            | zero => exact (taken_end keyword header ends body rest).symm
            | succ outer => exact inside outer
          · exact inside depth

theorem take_carves (elseEnds : Bool) (cursor : Cursor) :
    take keyword header elseEnds cursor = taken keyword header [] (carveFrom elseEnds 0 cursor) :=
  take_from_carves keyword header elseEnds 0 [] cursor

theorem read_carves (elseEnds : Bool) (cursor : Cursor) :
    read keyword header elseEnds cursor =
      match carveFrom elseEnds 0 cursor with
      | none => .error (.at header (.unterminated keyword))
      | some carving =>
          let block : Block := ⟨keyword, header, carving.body, carving.terminator⟩
          .ok (block, if block.endsAtElse then carving.terminator :: carving.after else carving.after) := by
  rw [read, take_carves]
  cases carveFrom elseEnds 0 cursor <;> rfl

end

section

variable {keyword : Text} {header : Location} {elseEnds : Bool} {cursor : Cursor} {fault : Fault}
  (failed : read keyword header elseEnds cursor = .error fault)

include failed

theorem read_fails : carveFrom elseEnds 0 cursor = none ∧ fault = .at header (.unterminated keyword) := by
  rw [read_carves] at failed
  split at failed
  · rename_i uncarved
    cases failed
    exact ⟨uncarved, rfl⟩
  · cases failed

theorem take_unread : take keyword header elseEnds cursor = (.error fault, []) := by
  obtain ⟨uncarved, rfl⟩ := read_fails failed
  rw [take_carves, uncarved]
  rfl

end

end Block
end BareBones
