import BareBones.Machine.State
import BareBones.Proofs.Closing

set_option autoImplicit false

namespace BareBones

namespace Block

inductive Clause : Cursor → Line → Prop
  | next {cursor : Cursor} {carving : Carving} (carved : carveFrom true 0 cursor = some carving)
      (stops : Boundary.isElse carving.terminator.text = true) : Clause cursor carving.terminator
  | later {cursor : Cursor} {carving : Carving} {clause : Line}
      (carved : carveFrom true 0 cursor = some carving)
      (stops : Boundary.isElse carving.terminator.text = true)
      (further : Clause carving.after clause) : Clause cursor clause

def Chain (location : Location) (cursor : Cursor) (place : Location) : Prop :=
  place = location ∨ ∃ clause, Clause cursor clause ∧ place = clause.location

theorem chain_clause {location place : Location} {cursor : Cursor} {carving : Carving}
    (carved : carveFrom true 0 cursor = some carving)
    (stops : Boundary.isElse carving.terminator.text = true)
    (chain : Chain carving.terminator.location carving.after place) : Chain location cursor place := by
  rcases chain with rfl | ⟨clause, further, rfl⟩
  · exact .inr ⟨carving.terminator, .next carved stops, rfl⟩
  · exact .inr ⟨clause, .later carved stops further, rfl⟩

theorem carve_terminator (elseEnds : Bool) (depth : Nat) (lines : List Line) (carving : Carving)
    (carved : carveFrom elseEnds depth lines = some carving) :
    carving.terminator.isBlank = false ∧
      (Boundary.isElse carving.terminator.text = true → elseEnds = true) := by
  induction lines generalizing depth carving with
  | nil => cases carved
  | cons line rest ih =>
      have deeper (inner : Nat)
          (found : (carveFrom elseEnds inner rest).map (Carving.prepend line) = some carving) :
          carving.terminator.isBlank = false ∧
            (Boundary.isElse carving.terminator.text = true → elseEnds = true) := by
        obtain ⟨others, read, rfl⟩ := Option.map_eq_some_iff.mp found
        exact ih inner others read
      unfold carveFrom at carved
      split at carved
      · exact ih depth carving carved
      · rename_i solid
        have solid := eq_false_of_ne_true solid
        split at carved
        · rename_i stops
          cases carved
          refine ⟨solid, fun _ => ?_⟩
          simp only [Bool.and_eq_true] at stops
          exact stops.1.2
        · split at carved
          · exact deeper _ carved
          · split at carved
            · rename_i ends
              cases depth with
              | zero =>
                  cases carved
                  refine ⟨solid, fun clause => ?_⟩
                  rw [Boundary.else_no_end _ clause] at ends
                  cases ends
              | succ outer => exact deeper outer carved
            · exact deeper _ carved

theorem read_stops (keyword : Text) (header : Location) (elseEnds : Bool) (cursor rest : Cursor)
    (block : Block) (reading : read keyword header elseEnds cursor = .ok (block, rest))
    (stops : block.endsAtElse = true) :
    elseEnds = true ∧ ∃ carving, carveFrom elseEnds 0 cursor = some carving ∧
      carving.terminator = block.terminator ∧
      Cursor.next? rest = some (block.terminator, carving.after) := by
  rw [read_carves] at reading
  cases carved : carveFrom elseEnds 0 cursor with
  | none =>
      rw [carved] at reading
      cases reading
  | some carving =>
      rw [carved] at reading
      cases reading
      obtain ⟨solid, may⟩ := carve_terminator elseEnds 0 cursor carving carved
      refine ⟨may stops, carving, rfl, rfl, ?_⟩
      rw [if_pos stops]
      exact Cursor.next_solid _ _ solid

end Block

theorem Boundary.read_else (line : Line) (clause : isElse line.text = true) :
    ∃ predicate, readElse line = .ok predicate := by
  obtain ⟨predicate, found⟩ := Option.isSome_iff_exists.mp clause
  refine ⟨predicate, ?_⟩
  rw [readElse, found]

-- Where a branch has ended at a clause of `else`, the frame that took it stands at that clause.
def Awaited : Option Resume → Cursor → Prop
  | some (.branch _ terminator), cursor => Boundary.isElse terminator.text = true →
      ∃ rest, Cursor.next? cursor = some (terminator, rest)
  | _, _ => True

end BareBones
