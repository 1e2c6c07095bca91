import BareBones.Proofs.Conduct
import BareBones.Proofs.Pathless
import Mathlib.Data.List.Forall2

set_option autoImplicit false

namespace BareBones

structure Line.Faithful (twin : Line → Line → Prop) : Prop where
  text : ∀ one other, twin one other → one.text = other.text
  quiet : ∀ one other, twin one other → ¬one.text.AsksPath

theorem Line.faithful_flip {twin : Line → Line → Prop} (faithful : Line.Faithful twin) :
    Line.Faithful (flip twin) where
  text one other twins := (faithful.text other one twins).symm
  quiet one other twins := by
    rw [← faithful.text other one twins]
    exact faithful.quiet other one twins

namespace Statement

theorem command_elsewhere (text : Text) (place elsewhere : Location) :
    (readCommand ⟨place, text⟩).toOption = (readCommand ⟨elsewhere, text⟩).toOption := by
  have named (keyword rest : Text) (build : Text → Command) :
      ((readName ⟨place, text⟩ keyword rest).map build).toOption =
        ((readName ⟨elsewhere, text⟩ keyword rest).map build).toOption := by
    unfold readName
    split <;> rfl
  have headed (kind : BlockKind) (build : Text → Command) :
      ((readHeader ⟨place, text⟩ kind).map build).toOption =
        ((readHeader ⟨elsewhere, text⟩ kind).map build).toOption := by
    unfold readHeader
    dsimp only
    split <;> rfl
  unfold readCommand
  dsimp only
  split
  · exact named _ _ _
  split
  · exact named _ _ _
  split
  · exact named _ _ _
  split
  · split <;> rfl
  split
  · rfl
  split
  · exact headed _ _
  split
  · exact headed _ _
  split
  · unfold readHeader
    cases Boundary.headerOf? .function text with
    | none => rfl
    | some name =>
        change (functionOf ⟨place, text⟩ name).toOption = (functionOf ⟨elsewhere, text⟩ name).toOption
        unfold functionOf
        split <;> rfl
  split
  · split <;> rfl
  · unfold readCall
    dsimp only
    split
    · rfl
    · split <;> rfl

theorem read_elsewhere (one other : Line) (statement : Statement) (same : one.text = other.text)
    (reading : read one = .ok statement) :
    statement = ⟨one.location, statement.command⟩ ∧
      read other = .ok ⟨other.location, statement.command⟩ := by
  obtain ⟨command, found, rfl⟩ := map_ok reading
  refine ⟨rfl, ?_⟩
  have elsewhere := command_elsewhere one.text one.location other.location
  rw [found, same] at elsewhere
  unfold read
  cases again : readCommand other with
  | error failure =>
      rw [again] at elsewhere
      cases elsewhere
  | ok command =>
      rw [again] at elsewhere
      cases elsewhere
      rfl

end Statement

namespace Cursor

variable {twin : Line → Line → Prop} {one other : Cursor}

theorem next_twin (faithful : Line.Faithful twin) (twins : List.Forall₂ twin one other) :
    Option.Rel (fun first second => twin first.1 second.1 ∧ List.Forall₂ twin first.2 second.2)
      (next? one) (next? other) := by
  induction twins with
  | nil => exact .none
  | @cons line counterpart rest others both behind ih =>
      have blank : line.isBlank = counterpart.isBlank := by
        rw [Line.isBlank, Line.isBlank, faithful.text _ _ both]
      cases solid : line.isBlank with
      | true =>
          rw [next_blank line rest solid, next_blank counterpart others (blank ▸ solid)]
          exact ih
      | false =>
          rw [next_solid line rest solid, next_solid counterpart others (blank ▸ solid)]
          exact .some ⟨both, behind⟩

end Cursor

namespace Block

variable {twin : Line → Line → Prop}

structure Carving.Twin (twin : Line → Line → Prop) (one other : Carving) : Prop where
  body : List.Forall₂ twin one.body other.body
  terminator : twin one.terminator other.terminator
  after : List.Forall₂ twin one.after other.after

structure Twin (twin : Line → Line → Prop) (one other : Block) : Prop where
  body : List.Forall₂ twin one.body other.body
  terminator : twin one.terminator other.terminator

theorem prepend_twin {line counterpart : Line} {one other : Option Carving}
    (both : twin line counterpart) (carvings : Option.Rel (Carving.Twin twin) one other) :
    Option.Rel (Carving.Twin twin) (one.map (Carving.prepend line))
      (other.map (Carving.prepend counterpart)) := by
  cases carvings with
  | none => exact .none
  | some twins => exact .some ⟨.cons both twins.body, twins.terminator, twins.after⟩

theorem carve_twin (faithful : Line.Faithful twin) (elseEnds : Bool) (depth : Nat) {one other : Cursor}
    (twins : List.Forall₂ twin one other) :
    Option.Rel (Carving.Twin twin) (carveFrom elseEnds depth one) (carveFrom elseEnds depth other) := by
  induction twins generalizing depth with
  | nil => exact .none
  | @cons line counterpart rest others both behind ih =>
      rw [carveFrom.eq_def, carveFrom.eq_def]
      dsimp only
      rw [Line.isBlank, Line.isBlank, ← faithful.text _ _ both]
      split
      · exact ih depth
      split
      · exact .some ⟨.nil, both, behind⟩
      split
      · exact prepend_twin both (ih (depth + 1))
      split
      · cases depth with
        | zero => exact .some ⟨.nil, both, behind⟩
        | succ outer => exact prepend_twin both (ih outer)
      · exact prepend_twin both (ih depth)

theorem read_twin (faithful : Line.Faithful twin) (keyword : Text) (header place : Location)
    (elseEnds : Bool) {one other rest : Cursor} {block : Block} (twins : List.Forall₂ twin one other)
    (reading : read keyword header elseEnds one = .ok (block, rest)) :
    ∃ counterpart behind, read keyword place elseEnds other = .ok (counterpart, behind) ∧
      block.Twin twin counterpart ∧ List.Forall₂ twin rest behind := by
  have carvings := carve_twin faithful elseEnds 0 twins
  rw [read_carves] at reading ⊢
  generalize carveFrom elseEnds 0 one = first, carveFrom elseEnds 0 other = second at carvings reading
  cases carvings with
  | none => cases reading
  | @some carving counterpart twins =>
      cases reading
      refine ⟨_, _, rfl, ⟨twins.body, twins.terminator⟩, ?_⟩
      have ends : Block.endsAtElse ⟨keyword, place, counterpart.body, counterpart.terminator⟩ =
          Block.endsAtElse ⟨keyword, header, carving.body, carving.terminator⟩ :=
        congrArg Boundary.isElse (faithful.text _ _ twins.terminator).symm
      rw [ends]
      split
      · exact .cons twins.terminator twins.after
      · exact twins.after

end Block

-- The labels of scopes that belong together: those of the blocks of a header or of a clause of `else` at
-- its two places, and a name that is called.
inductive Renames (twin : Line → Line → Prop) : Text → Text → Prop
  | loop {one other : Line} {predicate : Text} (twins : twin one other)
      (header : Boundary.headerOf? .loop one.text = some predicate) :
      Renames twin (Machine.blockLabel .loop one.location) (Machine.blockLabel .loop other.location)
  | branch {one other : Line} {predicate : Text} (twins : twin one other)
      (header : Boundary.headerOf? .branch one.text = some predicate) :
      Renames twin (Machine.blockLabel .branch one.location) (Machine.blockLabel .branch other.location)
  | clause {one other : Line} (twins : twin one other) (stops : Boundary.isElse one.text = true) :
      Renames twin (Machine.blockLabel .branch one.location) (Machine.blockLabel .branch other.location)
  | call {one other : Line} {name : Text} {arguments : List Text} (twins : twin one other)
      (reading : Statement.read one = .ok ⟨one.location, .call name arguments⟩) : Renames twin name name

theorem renames_flip {twin : Line → Line → Prop} {label mate : Text} (faithful : Line.Faithful twin)
    (renames : Renames (flip twin) label mate) : Renames twin mate label := by
  cases renames with
  | loop twins header =>
      rw [← faithful.text _ _ twins] at header
      exact .loop twins header
  | branch twins header =>
      rw [← faithful.text _ _ twins] at header
      exact .branch twins header
  | clause twins stops =>
      rw [← faithful.text _ _ twins] at stops
      exact .clause twins stops
  | call twins reading =>
      have again := (Statement.read_elsewhere _ _ _ (faithful.text _ _ twins).symm reading).2
      exact .call twins again

end BareBones
