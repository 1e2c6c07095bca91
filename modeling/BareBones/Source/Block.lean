import BareBones.Source.Boundary
import BareBones.Source.Cursor

set_option autoImplicit false

namespace BareBones

structure Block where
  keyword : Text
  header : Location
  body : List Line
  terminator : Line
deriving DecidableEq, Repr

namespace Block

def endsAtElse (block : Block) : Bool :=
  Boundary.isElse block.terminator.text

-- Reads on with `depth` headers open and `body` read, its last line first. Every header inside the body
-- owns the next free end, and at depth zero an end closes the body, and so does a clause of else where it
-- may. The clause is left on the cursor.
def takeFrom (keyword : Text) (header : Location) (elseEnds : Bool) (depth : Nat) (body : List Line) :
    Cursor → Except Fault Block × Cursor
  | [] => (.error (.at header (.unterminated keyword)), [])
  | line :: rest =>
      if line.isBlank then takeFrom keyword header elseEnds depth body rest
      else if depth == 0 && elseEnds && Boundary.isElse line.text then
        (.ok ⟨keyword, header, body.reverse, line⟩, line :: rest)
      else if Boundary.isHeader line.text then
        takeFrom keyword header elseEnds (depth + 1) (line :: body) rest
      else if Boundary.isEnd line.text then
        match depth with
        | 0 => (.ok ⟨keyword, header, body.reverse, line⟩, rest)
        | outer + 1 => takeFrom keyword header elseEnds outer (line :: body) rest
      else takeFrom keyword header elseEnds depth (line :: body) rest

def take (keyword : Text) (header : Location) (elseEnds : Bool) (cursor : Cursor) :
    Except Fault Block × Cursor :=
  takeFrom keyword header elseEnds 0 [] cursor

def read (keyword : Text) (header : Location) (elseEnds : Bool) (cursor : Cursor) :
    Except Fault (Block × Cursor) :=
  match take keyword header elseEnds cursor with
  | (.ok block, rest) => .ok (block, rest)
  | (.error fault, _) => .error fault

section

variable {keyword : Text} {header : Location} {elseEnds : Bool} {cursor rest : Cursor} {block : Block}

theorem take_from_length (depth : Nat) (body : List Line) :
    (takeFrom keyword header elseEnds depth body cursor).2.length ≤ cursor.length := by
  induction cursor generalizing depth body with
  | nil => exact Nat.le_refl 0
  | cons line rest ih =>
    have later := fun depth body => Nat.le_succ_of_le (ih depth body)
    unfold takeFrom
    split
    · exact later depth body
    · split
      · exact Nat.le_refl _
      · split
        · exact later _ _
        · split
          · split
            · exact Nat.le_succ _
            · exact later _ _
          · exact later _ _

theorem take_length : (take keyword header elseEnds cursor).2.length ≤ cursor.length :=
  take_from_length 0 []

theorem take_read (reading : read keyword header elseEnds cursor = .ok (block, rest)) :
    take keyword header elseEnds cursor = (.ok block, rest) := by
  unfold read at reading
  generalize take keyword header elseEnds cursor = taken at reading ⊢
  obtain ⟨fault | made, left⟩ := taken <;> cases reading
  rfl

theorem read_rest_length (reading : read keyword header elseEnds cursor = .ok (block, rest)) :
    rest.length ≤ cursor.length := by
  have bound := @take_length keyword header elseEnds cursor
  rwa [take_read reading] at bound

end

end Block
end BareBones
