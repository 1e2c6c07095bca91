import BareBones.Proofs.Agreement
import BareBones.Proofs.Clauses

set_option autoImplicit false

namespace BareBones

namespace Block

def surplus (lines : List Line) : Int :=
  (lines.countP (Boundary.isHeader ·.text) : Int) - lines.countP (Boundary.isEnd ·.text)

def Bounds (elseEnds : Bool) (line : Line) : Prop :=
  Boundary.isEnd line.text = true ∨ elseEnds = true ∧ Boundary.isElse line.text = true

-- The line at `place` can end a body, and of the headers before it, and of the `depth` that are open before
-- the first line, none is open there.
def Stops (elseEnds : Bool) (depth : Int) (lines : List Line) (place : Nat) : Prop :=
  depth + surplus (lines.take place) = 0 ∧ ∃ line ∈ lines[place]?, Bounds elseEnds line

instance (elseEnds : Bool) (line : Line) : Decidable (Bounds elseEnds line) :=
  inferInstanceAs (Decidable (_ ∨ _ ∧ _))

instance (elseEnds : Bool) (depth : Int) (lines : List Line) (place : Nat) :
    Decidable (Stops elseEnds depth lines place) :=
  inferInstanceAs (Decidable (_ ∧ ∃ line ∈ lines[place]?, Bounds elseEnds line))

structure StopsFirst (elseEnds : Bool) (lines : List Line) (place : Nat) : Prop where
  stops : Stops elseEnds 0 lines place
  earlier : ∀ before, before < place → ¬ Stops elseEnds 0 lines before

theorem first_unique {elseEnds : Bool} {lines : List Line} {one other : Nat}
    (first : StopsFirst elseEnds lines one) (second : StopsFirst elseEnds lines other) : one = other := by
  rcases Nat.lt_trichotomy one other with less | same | more
  · exact absurd first.stops (second.earlier one less)
  · exact same
  · exact absurd second.stops (first.earlier other more)

theorem surplus_append (front rest : List Line) :
    surplus (front ++ rest) = surplus front + surplus rest := by
  simp only [surplus, List.countP_append]
  omega

theorem surplus_cons (line : Line) (rest : List Line) :
    surplus (line :: rest) = surplus [line] + surplus rest :=
  surplus_append [line] rest

section

variable {elseEnds : Bool} {line : Line} {rest : List Line}

theorem surplus_header (header : Boundary.isHeader line.text = true) : surplus [line] = 1 := by
  simp [surplus, header, Boundary.header_no_end line.text header]

theorem surplus_end (ends : Boundary.isEnd line.text = true) : surplus [line] = -1 := by
  simp [surplus, ends, Boundary.end_no_header line.text ends]

theorem surplus_plain (plain : Boundary.isHeader line.text = false)
    (going : Boundary.isEnd line.text = false) : surplus [line] = 0 := by
  simp [surplus, plain, going]

theorem stops_here {depth : Int} : Stops elseEnds depth (line :: rest) 0 ↔ depth = 0 ∧ Bounds elseEnds line := by
  simp [Stops, surplus]

theorem stops_later {depth : Int} {place : Nat} :
    Stops elseEnds depth (line :: rest) (place + 1) ↔
      Stops elseEnds (depth + surplus [line]) rest place := by
  simp only [Stops, List.take_succ_cons, List.getElem?_cons_succ, surplus_cons line (rest.take place),
    Int.add_assoc]

theorem header_unbounded (header : Boundary.isHeader line.text = true) : ¬ Bounds elseEnds line := by
  rintro (ends | ⟨_, clause⟩)
  · rw [Boundary.header_no_end line.text header] at ends
    cases ends
  · rw [Boundary.else_no_header line.text clause] at header
    cases header

end

inductive Meets (elseEnds : Bool) (depth : Nat) (line : Line) (rest : List Line) : Option Carving → Prop
  | blank (blank : line.isBlank = true) :
      Meets elseEnds depth line rest (carveFrom elseEnds depth rest)
  | stop (solid : line.isBlank = false) (closed : depth = 0) (bounds : Bounds elseEnds line) :
      Meets elseEnds depth line rest (some ⟨[], line, rest⟩)
  | inner {deeper : Nat} (solid : line.isBlank = false) (going : ¬(depth = 0 ∧ Bounds elseEnds line))
      (counted : (deeper : Int) = depth + surplus [line]) :
      Meets elseEnds depth line rest ((carveFrom elseEnds deeper rest).map (Carving.prepend line))

theorem carve_meets (elseEnds : Bool) (depth : Nat) (line : Line) (rest : List Line) :
    Meets elseEnds depth line rest (carveFrom elseEnds depth (line :: rest)) := by
  rw [carveFrom.eq_def]
  dsimp only
  by_cases blank : line.isBlank = true
  · rw [if_pos blank]
    exact .blank blank
  rw [if_neg blank]
  have solid := eq_false_of_ne_true blank
  by_cases stops : (depth == 0 && elseEnds && Boundary.isElse line.text) = true
  · rw [if_pos stops]
    simp only [Bool.and_eq_true, beq_iff_eq] at stops
    exact .stop solid stops.1.1 (.inr ⟨stops.1.2, stops.2⟩)
  rw [if_neg stops]
  by_cases header : Boundary.isHeader line.text = true
  · rw [if_pos header]
    refine .inner solid (fun bounded => header_unbounded header bounded.2) ?_
    rw [surplus_header header]
    rfl
  rw [if_neg header]
  have plain := eq_false_of_ne_true header
  by_cases ends : Boundary.isEnd line.text = true
  · rw [if_pos ends]
    cases depth with
    | zero => exact .stop solid rfl (.inl ends)
    | succ outer =>
        refine .inner solid (fun bounded => Nat.succ_ne_zero outer bounded.1) ?_
        rw [surplus_end ends]
        omega
  · rw [if_neg ends]
    have going : ¬(depth = 0 ∧ Bounds elseEnds line) := by
      rintro ⟨closed, ended | ⟨may, clause⟩⟩
      · exact ends ended
      · exact stops (by simp [closed, may, clause])
    refine .inner solid going ?_
    rw [surplus_plain plain (eq_false_of_ne_true ends)]
    omega

-- What is carved: a body in which as many headers as ends stand beside those that were open, no front of it
-- has more ends than that, and none of its lines could have ended it.
structure Carved (elseEnds : Bool) (depth : Nat) (carving : Carving) : Prop where
  bounds : Bounds elseEnds carving.terminator
  closed : depth + surplus carving.body = 0
  fronts : ∀ front, front <+: carving.body → 0 ≤ depth + surplus front
  going : ∀ place, ¬ Stops elseEnds depth carving.body place

theorem carved_prepend {elseEnds : Bool} {depth deeper : Nat} {line : Line} {carving : Carving}
    (going : ¬(depth = 0 ∧ Bounds elseEnds line)) (counted : (deeper : Int) = depth + surplus [line])
    (inside : Carved elseEnds deeper carving) : Carved elseEnds depth (carving.prepend line) := by
  have shifted : ∀ lines, depth + surplus (line :: lines) = deeper + surplus lines := by
    intro lines
    rw [counted, Int.add_assoc, ← surplus_cons]
  refine ⟨inside.bounds, ?_, ?_, ?_⟩
  · exact (shifted carving.body).trans inside.closed
  · intro front leads
    cases front with
    | nil => simp [surplus]
    | cons first others =>
        obtain ⟨rfl, further⟩ := List.cons_prefix_cons.mp leads
        rw [shifted]
        exact inside.fronts others further
  · intro place stops
    cases place with
    | zero =>
        obtain ⟨closed, bounds⟩ := stops_here.mp stops
        exact going ⟨Int.natCast_eq_zero.mp closed, bounds⟩
    | succ place =>
        have later := stops_later.mp stops
        rw [← counted] at later
        exact inside.going place later

theorem carve_carved (elseEnds : Bool) (depth : Nat) (lines : List Line) (carving : Carving)
    (carved : carveFrom elseEnds depth lines = some carving) : Carved elseEnds depth carving := by
  induction lines generalizing depth carving with
  | nil => cases carved
  | cons line rest ih =>
      have meets := carve_meets elseEnds depth line rest
      rw [carved] at meets
      generalize found : some carving = result at meets
      cases meets with
      | blank blank => exact ih depth carving found.symm
      | stop solid closed bounds =>
          cases found
          subst closed
          refine ⟨bounds, rfl, ?_, ?_⟩
          · intro front leads
            rw [List.prefix_nil.mp leads]
            exact Int.le_refl 0
          · rintro place ⟨_, line, member, _⟩
            cases member
      | inner solid going counted =>
          obtain ⟨inside, read, rfl⟩ := Option.map_eq_some_iff.mp found.symm
          exact carved_prepend going counted (ih _ inside read)

theorem carve_split (elseEnds : Bool) (depth : Nat) (lines : List Line) (carving : Carving)
    (carved : carveFrom elseEnds depth lines = some carving) :
    ∃ front, lines = front ++ carving.terminator :: carving.after ∧
      front.filter (!Line.isBlank ·) = carving.body := by
  induction lines generalizing depth carving with
  | nil => cases carved
  | cons line rest ih =>
      have meets := carve_meets elseEnds depth line rest
      rw [carved] at meets
      generalize found : some carving = result at meets
      cases meets with
      | blank blank =>
          obtain ⟨front, whole, body⟩ := ih depth carving found.symm
          exact ⟨line :: front, by rw [whole]; rfl, by simpa [blank] using body⟩
      | stop solid closed bounds =>
          cases found
          exact ⟨[], rfl, rfl⟩
      | inner solid going counted =>
          obtain ⟨inside, read, rfl⟩ := Option.map_eq_some_iff.mp found.symm
          obtain ⟨front, whole, body⟩ := ih _ inside read
          exact ⟨line :: front, by rw [whole]; rfl, by simp [solid, body, Carving.prepend]⟩

theorem uncarved_goes (elseEnds : Bool) (depth : Nat) (lines : List Line)
    (uncarved : carveFrom elseEnds depth lines = none) (place : Nat) :
    ¬ Stops elseEnds depth (lines.filter (!Line.isBlank ·)) place := by
  induction lines generalizing depth place with
  | nil =>
      rintro ⟨_, line, member, _⟩
      cases member
  | cons line rest ih =>
      have meets := carve_meets elseEnds depth line rest
      rw [uncarved] at meets
      generalize found : none = result at meets
      cases meets with
      | blank blank =>
          rw [List.filter_cons_of_neg (by simp [blank])]
          exact ih depth found.symm place
      | stop solid closed bounds => cases found
      | inner solid going counted =>
          rw [List.filter_cons_of_pos (by simp [solid])]
          have inside := Option.map_eq_none_iff.mp found.symm
          intro stops
          cases place with
          | zero =>
              obtain ⟨closed, bounds⟩ := stops_here.mp stops
              exact going ⟨Int.natCast_eq_zero.mp closed, bounds⟩
          | succ place =>
              have later := stops_later.mp stops
              rw [← counted] at later
              exact ih _ inside place later

theorem carve_first {elseEnds : Bool} {cursor : Cursor} {carving : Carving}
    (carved : carveFrom elseEnds 0 cursor = some carving) :
    StopsFirst elseEnds (cursor.filter (!Line.isBlank ·)) carving.body.length ∧
      (cursor.filter (!Line.isBlank ·)).take carving.body.length = carving.body ∧
      (cursor.filter (!Line.isBlank ·))[carving.body.length]? = some carving.terminator := by
  have made := carve_carved elseEnds 0 cursor carving carved
  have solid := (carve_terminator elseEnds 0 cursor carving carved).1
  obtain ⟨front, whole, body⟩ := carve_split elseEnds 0 cursor carving carved
  have lines : cursor.filter (!Line.isBlank ·) =
      carving.body ++ carving.terminator :: carving.after.filter (!Line.isBlank ·) := by
    rw [whole, List.filter_append, body, List.filter_cons_of_pos (by simp [solid])]
  rw [lines, List.take_left, List.getElem?_append_right (Nat.le_refl _), Nat.sub_self]
  refine ⟨⟨?_, ?_⟩, rfl, rfl⟩
  · refine ⟨?_, carving.terminator, ?_, made.bounds⟩
    · rw [List.take_left]
      exact made.closed
    · rw [List.getElem?_append_right (Nat.le_refl _), Nat.sub_self]
      rfl
  · rintro before less ⟨level, line, member, bounds⟩
    rw [List.take_append_of_le_length (Nat.le_of_lt less)] at level
    rw [List.getElem?_append_left less] at member
    exact made.going before ⟨level, line, member, bounds⟩

theorem carved_balanced {elseEnds : Bool} {carving : Carving} (made : Carved elseEnds 0 carving) :
    Balanced carving.body := by
  obtain ⟨_, closed, fronts, _⟩ := made
  unfold surplus at closed fronts
  refine ⟨fun front leads => ?_, by omega⟩
  have bound := fronts front leads
  omega

end Block

namespace Machine

variable {σ α : Type}

def Spent (fault : Fault) (done : Except Failure α × Machine σ) : Prop :=
  done.1 = .error (.fault fault) ∧ ∀ frame ∈ done.2.stack.head?, Cursor.isExhausted frame.cursor = true

theorem spent_cursor (fault : Fault) (machine : Machine σ) :
    Spent fault ((.error (.fault fault), machine.setCursor []) : Except Failure α × Machine σ) := by
  refine ⟨rfl, fun frame top => ?_⟩
  unfold setCursor at top
  cases stands : machine.stack with
  | nil =>
      simp only [stands] at top
      cases top
  | cons first below =>
      simp only [stands, List.head?_cons, Option.mem_def, Option.some.injEq] at top
      rw [← top]
      rfl

theorem block_spent (kind : BlockKind) (header : Location) (cursor : Cursor) (machine : Machine σ)
    (uncarved : Block.carveFrom false 0 cursor = none) :
    Spent (.at header (.unterminated kind.keyword)) (readBlock kind header cursor machine) := by
  unfold readBlock
  rw [Block.take_carves, uncarved]
  exact spent_cursor _ machine

theorem branch_spent (settings : Settings σ) (frame : Frame) (predicate : Option Text) (header : Location)
    (cursor : Cursor) (machine : Machine σ) (uncarved : Block.carveFrom true 0 cursor = none) :
    Spent (.at header (.unterminated BlockKind.branch.keyword))
      (chooseBranch settings frame predicate header cursor machine) := by
  have taking : Block.take BlockKind.branch.keyword header true cursor =
      (.error (.at header (.unterminated BlockKind.branch.keyword)), []) := by
    rw [Block.take_carves, uncarved]
    rfl
  rw [choose_branch_unread settings frame predicate taking]
  exact spent_cursor _ machine

end Machine

namespace Block

open Machine (readBlock chooseBranch Spent block_spent branch_spent)

-- A body ends at the first line at which it can, and the cursor is left after an `end` and at a clause of
-- `else`. If there is no such line the header is at fault, and the lines are used up.
theorem read_first {σ : Type} (keyword : Text) (header : Location) (elseEnds : Bool) (cursor : Cursor) :
    let lines := cursor.filter (!Line.isBlank ·)
    (∀ place, StopsFirst elseEnds lines place → ∃ terminator front after,
      let block : Block := ⟨keyword, header, lines.take place, terminator⟩
      lines[place]? = some terminator ∧ cursor = front ++ terminator :: after ∧
        front.filter (!Line.isBlank ·) = block.body ∧ Balanced block.body ∧
        (Boundary.isEnd terminator.text = true ∧ block.endsAtElse = false ∧
            take keyword header elseEnds cursor = (.ok block, after) ∨
          Boundary.isElse terminator.text = true ∧ block.endsAtElse = true ∧
            take keyword header elseEnds cursor = (.ok block, terminator :: after))) ∧
    (take keyword header elseEnds cursor = (.error (.at header (.unterminated keyword)), []) ↔
      ∀ place, ¬ Stops elseEnds 0 lines place) ∧
    ((∀ place, ¬ Stops elseEnds 0 lines place) →
      ∀ (settings : Settings σ) (frame : Frame) (predicate : Option Text) (machine : Machine σ),
        (elseEnds = false → ∀ kind : BlockKind,
          Spent (.at header (.unterminated kind.keyword)) (readBlock kind header cursor machine)) ∧
        (elseEnds = true → Spent (.at header (.unterminated BlockKind.branch.keyword))
          (chooseBranch settings frame predicate header cursor machine))) := by
  intro lines
  cases carved : carveFrom elseEnds 0 cursor with
  | none =>
      have goes := uncarved_goes elseEnds 0 cursor carved
      refine ⟨fun place first => absurd first.stops (goes place), ?_, ?_⟩
      · rw [take_carves, carved]
        exact ⟨fun _ => goes, fun _ => rfl⟩
      · intro _ settings frame predicate machine
        refine ⟨?_, ?_⟩
        · rintro rfl kind
          exact block_spent kind header cursor machine carved
        · rintro rfl
          exact branch_spent settings frame predicate header cursor machine carved
  | some carving =>
      have made := carve_carved elseEnds 0 cursor carving carved
      obtain ⟨ends, body, terminator⟩ := carve_first carved
      obtain ⟨front, whole, solid⟩ := carve_split elseEnds 0 cursor carving carved
      have stopped : ¬ ∀ place, ¬ Stops elseEnds 0 lines place := fun goes => goes _ ends.stops
      refine ⟨fun place first => ?_, ⟨fun failed => ?_, fun goes => absurd goes stopped⟩,
        fun goes => absurd goes stopped⟩
      · cases first_unique first ends
        refine ⟨carving.terminator, front, carving.after, terminator, whole, solid.trans body.symm, ?_, ?_⟩
        · rw [body]
          exact carved_balanced made
        · rw [body, take_carves, carved]
          rcases made.bounds with ended | ⟨_, clause⟩
          · have plain := Boundary.end_no_else _ ended
            exact .inl ⟨ended, plain, by simp [taken, Carving.rest, plain]⟩
          · exact .inr ⟨clause, clause, by simp [taken, Carving.rest, clause]⟩
      · rw [take_carves, carved] at failed
        cases failed

def branching : Text :=
  "while X not 0 do\nprint a\nend\n\nelse\nprint b\nend".toList

theorem read_first_branching :
    let cursor := Line.ofSource "f.bb".toList branching
    let lines := cursor.filter (!Line.isBlank ·)
    let header : Location := ⟨"f.bb".toList, 0, "if X is 1 do".toList⟩
    let frame : Frame := ⟨"f".toList, ["f".toList], [], 0, none, cursor.take 6, none⟩
    let machine : Machine Unit := { Machine.fresh (.empty 5) () with stack := [frame] }
    StopsFirst true lines 3 ∧ take "if".toList header false (cursor.take 6) =
        (.error (.at header (.unterminated "if".toList)), []) ∧
      (∃ terminator front after,
        let block : Block := ⟨"if".toList, header, lines.take 3, terminator⟩
        lines[3]? = some terminator ∧ cursor = front ++ terminator :: after ∧
          front.filter (!Line.isBlank ·) = block.body ∧ Balanced block.body ∧
          (Boundary.isEnd terminator.text = true ∧ block.endsAtElse = false ∧
              take "if".toList header true cursor = (.ok block, after) ∨
            Boundary.isElse terminator.text = true ∧ block.endsAtElse = true ∧
              take "if".toList header true cursor = (.ok block, terminator :: after))) ∧
      Spent (.at header (.unterminated "if".toList))
        (readBlock .branch header (cursor.take 6) machine) := by
  intro cursor lines header frame machine
  have stops : Stops true 0 lines 3 := by decide +kernel
  have earlier : ∀ before, before < 3 → ¬ Stops true 0 lines before := by decide +kernel
  have failed : take "if".toList header false (cursor.take 6) =
      (.error (.at header (.unterminated "if".toList)), []) := by decide +kernel
  have unended := read_first (σ := Unit) "if".toList header false (cursor.take 6)
  have spent := unended.2.2 (unended.2.1.mp failed)
    ⟨"f.bb".toList, "f".toList, false, [], .atMost 2, .empty⟩
    frame none machine
  exact ⟨⟨stops, earlier⟩, failed,
    (read_first (σ := Unit) "if".toList header true cursor).1 3 ⟨stops, earlier⟩, spent.1 rfl .branch⟩

end Block
end BareBones
