import BareBones.Failure
import BareBones.Source.Line

set_option autoImplicit false

namespace BareBones

abbrev Cursor := List Line

namespace Cursor

def skipBlank (cursor : Cursor) : Cursor :=
  cursor.dropWhile Line.isBlank

def peek? (cursor : Cursor) : Option Line :=
  cursor.find? (!Line.isBlank ·)

def next? (cursor : Cursor) : Option (Line × Cursor) :=
  match skipBlank cursor with
  | [] => none
  | line :: rest => some (line, rest)

def isExhausted (cursor : Cursor) : Bool :=
  (peek? cursor).isNone

def position? (cursor : Cursor) : Option Int :=
  (peek? cursor).map (·.location.line)

def advance (cursor : Cursor) : Except Signal (Line × Cursor) :=
  match next? cursor with
  | some taken => .ok taken
  | none => .error .noLines

theorem next_shorter (cursor rest : Cursor) (line : Line) (taken : next? cursor = some (line, rest)) :
    rest.length < cursor.length := by
  unfold next? at taken
  split at taken
  · simp at taken
  · rename_i first others skipped
    simp only [Option.some.injEq, Prod.mk.injEq] at taken
    obtain ⟨_, rfl⟩ := taken
    have bound := (List.dropWhile_sublist (l := cursor) Line.isBlank).length_le
    unfold skipBlank at skipped
    rw [skipped] at bound
    exact bound

end Cursor
end BareBones
