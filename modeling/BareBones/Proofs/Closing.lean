import BareBones.Proofs.Blocks
import BareBones.Statement

set_option autoImplicit false

namespace BareBones

def Line.Spaced (line : Line) : Prop :=
  ∃ kind : BlockKind, kind.keyword ++ [' '] <+: line.text

-- With `depth` headers open, the lines close them all, and no others; and their headers are spaced.
def Closes : Nat → List Line → Prop
  | depth, [] => depth = 0
  | depth, line :: rest =>
      if line.isBlank then Closes depth rest
      else if Boundary.isHeader line.text then line.Spaced ∧ Closes (depth + 1) rest
      else if Boundary.isEnd line.text then ∃ outer, depth = outer + 1 ∧ Closes outer rest
      else Closes depth rest

section

variable {depth : Nat} {line : Line} {rest : List Line}

theorem closes_blank (blank : line.isBlank = true) :
    Closes depth (line :: rest) ↔ Closes depth rest := by
  rw [Closes, if_pos blank]

theorem closes_header (solid : line.isBlank = false) (header : Boundary.isHeader line.text = true) :
    Closes depth (line :: rest) ↔ line.Spaced ∧ Closes (depth + 1) rest := by
  rw [Closes, solid, if_neg Bool.false_ne_true, if_pos header]

theorem closes_end (solid : line.isBlank = false) (ends : Boundary.isEnd line.text = true) :
    Closes depth (line :: rest) ↔ ∃ outer, depth = outer + 1 ∧ Closes outer rest := by
  have plain := ne_true_of_eq_false (Boundary.end_no_header line.text ends)
  rw [Closes, solid, if_neg Bool.false_ne_true, if_neg plain, if_pos ends]

theorem closes_plain (solid : line.isBlank = false) (plain : Boundary.isHeader line.text = false)
    (going : Boundary.isEnd line.text = false) : Closes depth (line :: rest) ↔ Closes depth rest := by
  rw [Closes, solid, if_neg Bool.false_ne_true, plain, if_neg Bool.false_ne_true, going,
    if_neg Bool.false_ne_true]

end

theorem Cursor.next_blank (line : Line) (rest : Cursor) (blank : line.isBlank = true) :
    Cursor.next? (line :: rest) = Cursor.next? rest := by
  simp [Cursor.next?, Cursor.skipBlank, blank]

theorem Cursor.next_solid (line : Line) (rest : Cursor) (solid : line.isBlank = false) :
    Cursor.next? (line :: rest) = some (line, rest) := by
  simp [Cursor.next?, Cursor.skipBlank, solid]

theorem closes_next (depth : Nat) (cursor rest : Cursor) (line : Line) (closes : Closes depth cursor)
    (taking : Cursor.next? cursor = some (line, rest)) :
    line.isBlank = false ∧ Closes depth (line :: rest) := by
  induction cursor with
  | nil => cases taking
  | cons first others ih =>
      cases blank : first.isBlank with
      | true =>
          rw [Cursor.next_blank first others blank] at taking
          exact ih ((closes_blank blank).mp closes) taking
      | false =>
          rw [Cursor.next_solid first others blank] at taking
          cases taking
          exact ⟨blank, closes⟩

structure Balanced (lines : List Line) : Prop where
  fronts : ∀ front, front <+: lines →
    front.countP (Boundary.isEnd ·.text) ≤ front.countP (Boundary.isHeader ·.text)
  totals : lines.countP (Boundary.isEnd ·.text) = lines.countP (Boundary.isHeader ·.text)

-- With `depth` headers open, no front of the lines ends more than are open, and all lines end them all.
structure Covers (depth : Nat) (lines : List Line) : Prop where
  fronts : ∀ front, front <+: lines →
    front.countP (Boundary.isEnd ·.text) ≤ depth + front.countP (Boundary.isHeader ·.text)
  totals : lines.countP (Boundary.isEnd ·.text) = depth + lines.countP (Boundary.isHeader ·.text)

theorem balanced_covers (lines : List Line) (balanced : Balanced lines) : Covers 0 lines := by
  refine ⟨?_, ?_⟩
  · intro front leads
    rw [Nat.zero_add]
    exact balanced.fronts front leads
  · rw [Nat.zero_add]
    exact balanced.totals

section

variable {depth : Nat} {line : Line} {rest : List Line}

theorem covers_header (header : Boundary.isHeader line.text = true)
    (covers : Covers depth (line :: rest)) : Covers (depth + 1) rest := by
  obtain ⟨fronts, totals⟩ := covers
  have going := Boundary.header_no_end line.text header
  refine ⟨?_, ?_⟩
  · intro front leads
    have bound := fronts (line :: front) (List.cons_prefix_cons.mpr ⟨rfl, leads⟩)
    simp only [List.countP_cons, header, going, if_true, Bool.false_eq_true, if_false] at bound
    omega
  · simp only [List.countP_cons, header, going, if_true, Bool.false_eq_true, if_false] at totals
    omega

theorem covers_end (ends : Boundary.isEnd line.text = true) (covers : Covers depth (line :: rest)) :
    ∃ outer, depth = outer + 1 ∧ Covers outer rest := by
  obtain ⟨fronts, totals⟩ := covers
  have plain := Boundary.end_no_header line.text ends
  have longer : ∀ front, front <+: rest →
      front.countP (Boundary.isEnd ·.text) + 1 ≤ depth + front.countP (Boundary.isHeader ·.text) := by
    intro front leads
    have bound := fronts (line :: front) (List.cons_prefix_cons.mpr ⟨rfl, leads⟩)
    simpa only [List.countP_cons, plain, ends, if_true, Bool.false_eq_true, if_false, Nat.add_zero]
      using bound
  -- The line alone is a front with an end and no header, so that one is open.
  have opened : 0 + 1 ≤ depth + 0 := longer [] List.nil_prefix
  obtain ⟨outer, rfl⟩ : ∃ outer, depth = outer + 1 := ⟨depth - 1, by omega⟩
  refine ⟨outer, rfl, ?_, ?_⟩
  · intro front leads
    have bound := longer front leads
    omega
  · simp only [List.countP_cons, plain, ends, if_true, Bool.false_eq_true, if_false] at totals
    omega

theorem covers_plain (plain : Boundary.isHeader line.text = false)
    (going : Boundary.isEnd line.text = false) (covers : Covers depth (line :: rest)) :
    Covers depth rest := by
  obtain ⟨fronts, totals⟩ := covers
  refine ⟨?_, ?_⟩
  · intro front leads
    have bound := fronts (line :: front) (List.cons_prefix_cons.mpr ⟨rfl, leads⟩)
    simpa only [List.countP_cons, plain, going, Bool.false_eq_true, if_false, Nat.add_zero] using bound
  · simpa only [List.countP_cons, plain, going, Bool.false_eq_true, if_false, Nat.add_zero] using totals

end

theorem covers_closes (depth : Nat) (lines : List Line)
    (covers : Covers depth (lines.filter (!Line.isBlank ·)))
    (spaced : ∀ line ∈ lines, Boundary.isHeader line.text = true → line.Spaced) :
    Closes depth lines := by
  induction lines generalizing depth with
  | nil =>
      have noneOpen : 0 = depth + 0 := covers.totals
      exact noneOpen.symm
  | cons line rest ih =>
      have others : ∀ other ∈ rest, Boundary.isHeader other.text = true → other.Spaced :=
        fun other member => spaced other (List.mem_cons_of_mem _ member)
      cases blank : line.isBlank with
      | true =>
          rw [List.filter_cons_of_neg] at covers
          · exact (closes_blank blank).mpr (ih depth covers others)
          · rw [blank]
            exact Bool.false_ne_true
      | false =>
          rw [List.filter_cons_of_pos] at covers
          · cases header : Boundary.isHeader line.text with
            | true =>
                have deeper := ih (depth + 1) (covers_header header covers) others
                exact (closes_header blank header).mpr
                  ⟨spaced line List.mem_cons_self header, deeper⟩
            | false =>
                cases ends : Boundary.isEnd line.text with
                | true =>
                    obtain ⟨outer, same, closed⟩ := covers_end ends covers
                    exact (closes_end blank ends).mpr ⟨outer, same, ih outer closed others⟩
                | false =>
                    have closed := ih depth (covers_plain header ends covers) others
                    exact (closes_plain blank header ends).mpr closed
          · rw [blank]
            rfl

theorem balanced_closes (lines : List Line) (balanced : Balanced (lines.filter (!Line.isBlank ·)))
    (spaced : ∀ line ∈ lines, Boundary.isHeader line.text = true → line.Spaced) : Closes 0 lines :=
  covers_closes 0 lines (balanced_covers _ balanced) spaced

namespace Block

def Carving.Sound (elseEnds : Bool) (carving : Carving) : Prop :=
  if Boundary.isElse carving.terminator.text then
    elseEnds = true ∧ carving.terminator.isBlank = false ∧ Closes 1 carving.after
  else Closes 0 carving.after

def Carves (elseEnds : Bool) (depth : Nat) (result : Option Carving) : Prop :=
  ∃ carving, result = some carving ∧ Closes depth carving.body ∧ carving.Sound elseEnds

section

variable {elseEnds : Bool} {line : Line} {rest : List Line}

theorem carves_prepend {depth inner : Nat} {result : Option Carving}
    (carves : Carves elseEnds inner result)
    (wraps : ∀ body, Closes inner body → Closes depth (line :: body)) :
    Carves elseEnds depth (result.map (Carving.prepend line)) := by
  obtain ⟨carving, rfl, body, sound⟩ := carves
  exact ⟨carving.prepend line, rfl, wraps carving.body body, sound⟩

theorem carves_end (ends : Boundary.isEnd line.text = true) (closed : Closes 0 rest) :
    Carves elseEnds 0 (some ⟨[], line, rest⟩) := by
  refine ⟨_, rfl, rfl, ?_⟩
  rw [Carving.Sound, if_neg]
  · exact closed
  · intro clause
    rw [Boundary.else_no_end line.text clause] at ends
    cases ends

theorem carves_else (may : elseEnds = true) (solid : line.isBlank = false)
    (clause : Boundary.isElse line.text = true) (closes : Closes 1 (line :: rest)) :
    Carves elseEnds 0 (some ⟨[], line, rest⟩) := by
  have plain := Boundary.else_no_header line.text clause
  have going := Boundary.else_no_end line.text clause
  refine ⟨_, rfl, rfl, ?_⟩
  rw [Carving.Sound, if_pos clause]
  exact ⟨may, solid, (closes_plain solid plain going).mp closes⟩

end

theorem carve_closes (elseEnds : Bool) (depth : Nat) (lines : List Line)
    (closes : Closes (depth + 1) lines) : Carves elseEnds depth (carveFrom elseEnds depth lines) := by
  induction lines generalizing depth with
  | nil => cases closes
  | cons line rest ih =>
      rw [carveFrom.eq_def]
      dsimp only
      cases blank : line.isBlank with
      | true =>
          rw [if_pos rfl]
          exact ih depth ((closes_blank blank).mp closes)
      | false =>
          rw [if_neg Bool.false_ne_true]
          split
          · rename_i stops
            obtain ⟨⟨rfl, may⟩, clause⟩ : (depth = 0 ∧ elseEnds = true) ∧
                Boundary.isElse line.text = true := by
              simpa only [Bool.and_eq_true, beq_iff_eq] using stops
            exact carves_else may blank clause closes
          · cases header : Boundary.isHeader line.text with
            | true =>
                rw [if_pos rfl]
                obtain ⟨spaced, deeper⟩ := (closes_header blank header).mp closes
                apply carves_prepend (ih (depth + 1) deeper)
                exact fun body inner => (closes_header blank header).mpr ⟨spaced, inner⟩
            | false =>
                rw [if_neg Bool.false_ne_true]
                cases ends : Boundary.isEnd line.text with
                | true =>
                    rw [if_pos rfl]
                    obtain ⟨outer, same, closed⟩ := (closes_end blank ends).mp closes
                    cases same
                    cases depth with
                    | zero => exact carves_end ends closed
                    | succ outer =>
                        apply carves_prepend (ih outer closed)
                        exact fun body inner => (closes_end blank ends).mpr ⟨outer, rfl, inner⟩
                | false =>
                    rw [if_neg Bool.false_ne_true]
                    apply carves_prepend (ih depth ((closes_plain blank header ends).mp closes))
                    exact fun body inner => (closes_plain blank header ends).mpr inner

def Ended (terminator : Line) (rest : Cursor) : Prop :=
  if Boundary.isElse terminator.text then
    ∃ after, Cursor.next? rest = some (terminator, after) ∧ Closes 1 after
  else Closes 0 rest

theorem read_closes (keyword : Text) (header : Location) (elseEnds : Bool) (cursor : Cursor)
    (closes : Closes 1 cursor) :
    ∃ block rest, read keyword header elseEnds cursor = .ok (block, rest) ∧ Closes 0 block.body ∧
      Ended block.terminator rest ∧ (elseEnds = false → Closes 0 rest) := by
  obtain ⟨carving, carved, body, sound⟩ := carve_closes elseEnds 0 cursor closes
  rw [read_carves, carved]
  refine ⟨_, _, rfl, body, ?_⟩
  rw [Carving.Sound] at sound
  cases clause : Boundary.isElse carving.terminator.text with
  | true =>
      rw [if_pos clause] at sound
      obtain ⟨may, solid, pending⟩ := sound
      have stops : endsAtElse ⟨keyword, header, carving.body, carving.terminator⟩ = true := clause
      rw [if_pos stops, Ended, if_pos clause]
      refine ⟨⟨carving.after, Cursor.next_solid _ _ solid, pending⟩, ?_⟩
      rintro rfl
      cases may
  | false =>
      rw [clause, if_neg Bool.false_ne_true] at sound
      have whole : endsAtElse ⟨keyword, header, carving.body, carving.terminator⟩ = false := clause
      rw [if_neg (ne_true_of_eq_false whole), Ended, clause, if_neg Bool.false_ne_true]
      exact ⟨sound, fun _ => sound⟩

end Block
end BareBones
