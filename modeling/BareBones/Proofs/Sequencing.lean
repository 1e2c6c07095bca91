import BareBones.Proofs.Blame
import BareBones.Proofs.Clauses
import BareBones.Proofs.Conduct
import BareBones.Proofs.Refinement

set_option autoImplicit false

namespace BareBones

namespace Block

theorem carve_append (elseEnds : Bool) (depth : Nat) (lines tail : List Line) (carving : Carving)
    (carved : carveFrom elseEnds depth lines = some carving) :
    carveFrom elseEnds depth (lines ++ tail) = some { carving with after := carving.after ++ tail } := by
  induction lines generalizing depth carving with
  | nil => cases carved
  | cons line rest ih =>
      have deeper (inner : Nat)
          (found : (carveFrom elseEnds inner rest).map (Carving.prepend line) = some carving) :
          (carveFrom elseEnds inner (rest ++ tail)).map (Carving.prepend line) =
            some { carving with after := carving.after ++ tail } := by
        obtain ⟨within, read, rfl⟩ := Option.map_eq_some_iff.mp found
        rw [ih inner within read]
        rfl
      rw [carveFrom.eq_def] at carved
      rw [List.cons_append, carveFrom.eq_def]
      dsimp only at carved ⊢
      split at carved
      · rw [if_pos ‹_›]
        exact ih depth carving carved
      rw [if_neg ‹_›]
      split at carved
      · rw [if_pos ‹_›]
        cases carved
        rfl
      rw [if_neg ‹_›]
      split at carved
      · rw [if_pos ‹_›]
        exact deeper _ carved
      rw [if_neg ‹_›]
      split at carved
      · rw [if_pos ‹_›]
        cases depth with
        | zero =>
            cases carved
            rfl
        | succ outer => exact deeper outer carved
      · rw [if_neg ‹_›]
        exact deeper _ carved

theorem read_append (keyword : Text) (header : Location) (elseEnds : Bool) (cursor rest tail : Cursor)
    (block : Block) (reading : read keyword header elseEnds cursor = .ok (block, rest)) :
    read keyword header elseEnds (cursor ++ tail) = .ok (block, rest ++ tail) := by
  rw [read_carves] at reading ⊢
  cases carved : carveFrom elseEnds 0 cursor with
  | none =>
      rw [carved] at reading
      cases reading
  | some carving =>
      rw [carve_append elseEnds 0 cursor tail carving carved]
      rw [carved] at reading
      cases reading
      dsimp only
      split <;> rfl

theorem read_whole (keyword : Text) (header : Location) (cursor : Cursor) (whole : Carving)
    (closed : carveFrom false 0 cursor = some whole) :
    read keyword header false cursor = .ok (⟨keyword, header, whole.body, whole.terminator⟩, whole.after) := by
  have plain : Boundary.isElse whole.terminator.text = false := by
    cases clause : Boundary.isElse whole.terminator.text with
    | false => rfl
    | true => cases (carve_terminator false 0 cursor whole closed).2 clause
  rw [read_carves, closed]
  simp only [endsAtElse, plain, Bool.false_eq_true, if_false]

structure Rejoins (whole carving : Carving) : Prop where
  plain : Boundary.isElse carving.terminator.text = false → carving.after = whole.after
  clause : Boundary.isElse carving.terminator.text = true →
    ∃ others, carveFrom false 0 carving.after = some others ∧ others.after = whole.after

theorem carve_rejoins (depth : Nat) (lines : List Line) (whole : Carving)
    (carved : carveFrom false depth lines = some whole) :
    ∃ carving, carveFrom true depth lines = some carving ∧ Rejoins whole carving := by
  induction lines generalizing depth whole with
  | nil => cases carved
  | cons line rest ih =>
      have deeper (inner : Nat)
          (found : (carveFrom false inner rest).map (Carving.prepend line) = some whole) :
          ∃ carving, (carveFrom true inner rest).map (Carving.prepend line) = some carving ∧
            Rejoins whole carving := by
        obtain ⟨within, read, rfl⟩ := Option.map_eq_some_iff.mp found
        obtain ⟨carving, carves, rejoins⟩ := ih inner within read
        exact ⟨carving.prepend line, by rw [carves]; rfl, rejoins.plain, rejoins.clause⟩
      rw [carveFrom.eq_def] at carved
      rw [carveFrom.eq_def]
      simp only [Bool.and_false, Bool.false_and, Bool.false_eq_true, if_false, Bool.and_true] at carved ⊢
      by_cases blank : line.isBlank = true
      · rw [if_pos blank] at carved ⊢
        exact ih depth whole carved
      rw [if_neg blank] at carved ⊢
      by_cases stops : (depth == 0 && Boundary.isElse line.text) = true
      · rw [if_pos stops]
        obtain ⟨outermost, clause⟩ := Bool.and_eq_true_iff.mp stops
        rw [if_neg (ne_true_of_eq_false (Boundary.else_no_header _ clause)),
          if_neg (ne_true_of_eq_false (Boundary.else_no_end _ clause))] at carved
        obtain ⟨others, read, rfl⟩ := Option.map_eq_some_iff.mp carved
        cases beq_iff_eq.mp outermost
        refine ⟨_, rfl, fun plain => ?_, fun _ => ⟨others, read, rfl⟩⟩
        cases clause.symm.trans plain
      rw [if_neg stops]
      by_cases header : Boundary.isHeader line.text = true
      · rw [if_pos header] at carved ⊢
        exact deeper _ carved
      rw [if_neg header] at carved ⊢
      by_cases ends : Boundary.isEnd line.text = true
      · rw [if_pos ends] at carved ⊢
        cases depth with
        | zero =>
            cases carved
            refine ⟨_, rfl, fun _ => rfl, fun clause => ?_⟩
            rw [Boundary.else_no_end _ clause] at ends
            cases ends
        | succ outer => exact deeper outer carved
      · rw [if_neg ends] at carved ⊢
        exact deeper _ carved

end Block

namespace Deed

variable {α : Type} {here : Activation} {before after : World}

def Leaves (left : Cursor) : Option (Block × Location) × Cursor → Prop
  | (none, rest) => rest = left
  | (some (block, _), rest) => ∀ tail, skip block.terminator (rest ++ tail) = pure (left ++ tail)

def lengthen (tail : Cursor) (choice : Option (Block × Location) × Cursor) :
    Option (Block × Location) × Cursor :=
  (choice.1, choice.2 ++ tail)

theorem carve_pure {kind : BlockKind} {header : Location} {cursor : Cursor} {carved : Block × Cursor}
    (reading : Block.read kind.keyword header false cursor = .ok carved) :
    carve kind header cursor = pure carved := by
  funext world
  exact carve_done reading

theorem choose_step (predicate : Option Text) (location : Location) (cursor : Cursor)
    (carving : Block.Carving) (carved : Block.carveFrom true 0 cursor = some carving) :
    let block : Block := ⟨BlockKind.branch.keyword, location, carving.body, carving.terminator⟩
    choose here predicate location cursor = (do
      let taken ← admits here location predicate
      match Boundary.isElse carving.terminator.text with
      | false => return if taken then (some (block, location), carving.after) else (none, carving.after)
      | true =>
          if taken then return (some (block, location), carving.terminator :: carving.after)
          else
            match Boundary.readElse carving.terminator with
            | .error fault => settled (.error (.fault fault))
            | .ok next => choose here next carving.terminator.location carving.after) := by
  intro block
  have reading : Block.read BlockKind.branch.keyword location true cursor = .ok (block,
      if block.endsAtElse then carving.terminator :: carving.after else carving.after) := by
    rw [Block.read_carves, carved]
  have solid := (Block.carve_terminator true 0 cursor carving carved).1
  have ends : block.endsAtElse = Boundary.isElse carving.terminator.text := rfl
  rw [choose_read here predicate location cursor _ block reading]
  congr 1
  funext taken
  cases stops : Boundary.isElse carving.terminator.text with
  | false =>
      rw [stops] at ends
      simp only [ends]
      cases taken <;> rfl
  | true =>
      rw [stops] at ends
      simp only [ends, if_true]
      cases taken with
      | true => rfl
      | false =>
          rw [Cursor.next_solid _ _ solid]
          rfl

theorem choose_whole (predicate : Option Text) (location : Location) (cursor tail : Cursor)
    (whole : Block.Carving) (closed : Block.carveFrom false 0 cursor = some whole) :
    choose here predicate location (cursor ++ tail) =
        lengthen tail <$> choose here predicate location cursor ∧
      ∀ world choice after, choose here predicate location cursor world = (.ok choice, after) →
        Leaves whole.after choice := by
  obtain ⟨carving, carved, rejoins⟩ := Block.carve_rejoins 0 cursor whole closed
  have longer := Block.carve_append true 0 cursor tail carving carved
  rw [choose_step predicate location _ _ longer, choose_step predicate location _ _ carved, map_bind]
  dsimp only
  cases stops : Boundary.isElse carving.terminator.text with
  | false =>
      dsimp only
      refine ⟨?_, ?_⟩
      · congr 1
        funext taken
        cases taken <;> rfl
      · intro world choice after done
        obtain ⟨taken, _, _, going⟩ := bind_answers done
        cases taken with
        | false =>
            cases going
            exact rejoins.plain stops
        | true =>
            cases going
            intro behind
            rw [skip, if_neg (ne_true_of_eq_false stops), rejoins.plain stops]
  | true =>
      dsimp only
      obtain ⟨others, closes, same⟩ := rejoins.clause stops
      obtain ⟨next, clause⟩ := Boundary.read_else carving.terminator stops
      have later := choose_whole next carving.terminator.location carving.after tail others closes
      rw [same] at later
      rw [clause]
      refine ⟨?_, ?_⟩
      · congr 1
        funext taken
        cases taken with
        | true => rfl
        | false => exact later.1
      · intro world choice after done
        obtain ⟨taken, _, _, going⟩ := bind_answers done
        cases taken with
        | false => exact later.2 _ choice after going
        | true =>
            cases going
            intro behind
            have solid := (Block.carve_terminator true 0 cursor carving carved).1
            have reading : Block.read BlockKind.branch.keyword carving.terminator.location false
                (carving.after ++ behind) = .ok (⟨BlockKind.branch.keyword, carving.terminator.location,
                  others.body, others.terminator⟩, whole.after ++ behind) := by
              apply Block.read_append
              rw [← same]
              exact Block.read_whole _ _ _ _ closes
            rw [skip, if_pos stops, List.cons_append, Cursor.next_solid _ _ solid]
            dsimp only
            rw [carve_pure reading]
            rfl
termination_by cursor.length
decreasing_by exact Block.carve_after_shorter true 0 cursor carving carved

end Deed

-- Lines after which no block is open: every statement that opens a block finds the end of it among them.
inductive Cursor.Complete : Cursor → Prop
  | done : Complete []
  | blank {line : Line} {rest : Cursor} (blank : line.isBlank = true) (later : Complete rest) :
      Complete (line :: rest)
  | plain {line : Line} {rest : Cursor} (solid : line.isBlank = false)
      (plain : ∀ statement, Statement.read line = .ok statement → statement.command.opens = false)
      (later : Complete rest) : Complete (line :: rest)
  | block {line : Line} {rest : Cursor} {statement : Statement} {whole : Block.Carving}
      (solid : line.isBlank = false) (reading : Statement.read line = .ok statement)
      (opens : statement.command.opens = true) (closed : Block.carveFrom false 0 rest = some whole)
      (later : Complete whole.after) : Complete (line :: rest)

namespace Cursor

def closed (fuel : Nat) (cursor : Cursor) : Bool :=
  match fuel, cursor with
  | _, [] => true
  | 0, _ => false
  | fuel + 1, line :: rest =>
      if line.isBlank then closed fuel rest
      else
        match Statement.read line with
        | .error _ => closed fuel rest
        | .ok statement =>
            if statement.command.opens then
              match Block.carveFrom false 0 rest with
              | some whole => closed fuel whole.after
              | none => false
            else closed fuel rest

theorem closed_complete (fuel : Nat) (cursor : Cursor) (closes : closed fuel cursor = true) :
    cursor.Complete := by
  induction fuel generalizing cursor with
  | zero =>
      cases cursor with
      | nil => exact .done
      | cons line rest => cases closes
  | succ fuel ih =>
      cases cursor with
      | nil => exact .done
      | cons line rest =>
          rw [closed] at closes
          cases solid : line.isBlank with
          | true =>
              rw [if_pos solid] at closes
              exact .blank solid (ih rest closes)
          | false =>
              rw [if_neg (ne_true_of_eq_false solid)] at closes
              cases reading : Statement.read line with
              | error failure =>
                  rw [reading] at closes
                  refine .plain solid (fun statement reads => ?_) (ih rest closes)
                  cases reading.symm.trans reads
              | ok statement =>
                  simp only [reading] at closes
                  cases opens : statement.command.opens with
                  | false =>
                      rw [opens] at closes
                      refine .plain solid (fun other reads => ?_) (ih rest closes)
                      cases reading.symm.trans reads
                      exact opens
                  | true =>
                      rw [opens, if_pos rfl] at closes
                      cases carved : Block.carveFrom false 0 rest with
                      | none =>
                          rw [carved] at closes
                          cases closes
                      | some whole =>
                          rw [carved] at closes
                          exact .block solid reading opens carved (ih whole.after closes)

theorem complete_closed {cursor : Cursor} (complete : cursor.Complete) (fuel : Nat)
    (enough : cursor.length ≤ fuel) : closed fuel cursor = true := by
  induction fuel generalizing cursor with
  | zero =>
      rw [List.length_eq_zero_iff.mp (Nat.le_zero.mp enough)]
      rfl
  | succ fuel ih =>
      cases complete with
      | done => rfl
      | blank blank later =>
          rw [closed, if_pos blank]
          exact ih later (Nat.le_of_succ_le_succ enough)
      | @plain line rest solid plain later =>
          have behind := ih later (Nat.le_of_succ_le_succ enough)
          rw [closed, if_neg (ne_true_of_eq_false solid)]
          cases reading : Statement.read line with
          | error failure => exact behind
          | ok statement =>
              dsimp only
              rw [plain statement reading]
              exact behind
      | @block line rest statement whole solid reading opens carved later =>
          have shorter := Block.carve_after_shorter false 0 rest whole carved
          have behind := ih later (Nat.le_of_lt_succ (Nat.lt_of_lt_of_le (Nat.lt_succ_of_lt shorter) enough))
          rw [closed, if_neg (ne_true_of_eq_false solid), reading]
          dsimp only
          rw [opens, if_pos rfl, carved]
          exact behind

instance (cursor : Cursor) : Decidable cursor.Complete :=
  decidable_of_iff (closed cursor.length cursor = true)
    ⟨closed_complete cursor.length cursor, fun complete => complete_closed complete _ (Nat.le_refl _)⟩

end Cursor

namespace Nested

variable {σ α β : Type} {settings : Settings σ} {here : Activation}

theorem lines_blank (fuel : Nat) (line : Line) (rest : Cursor) (blank : line.isBlank = true) :
    lines settings fuel here (line :: rest) = lines settings fuel here rest := by
  cases fuel with
  | zero => rfl
  | succ fuel => rw [lines, lines, Cursor.next_blank line rest blank]

theorem deed_congr {deed : Deed α} {next other : α → Nested β}
    (same : ∀ world a after, deed world = (.ok a, after) → next a = other a) :
    (liftM deed >>= next : Nested β) = liftM deed >>= other := by
  funext world
  rw [nested_bind, nested_bind, lift_apply]
  rcases done : deed world with ⟨failure | a, after⟩
  · rfl
  · dsimp only
    rw [same world a after done]

theorem lift_map (change : α → β) (deed : Deed α) :
    (liftM (change <$> deed) : Nested β) = change <$> (liftM deed : Nested α) := by
  rw [← bind_pure_comp, lift_bind, ← bind_pure_comp]
  rfl

def Appends (settings : Settings σ) (count : Nat) (cursor : Cursor) : Prop :=
  ∀ fuel here tail, lines settings (fuel + count) here (cursor ++ tail) = (do
    lines settings (fuel + count) here cursor
    lines settings fuel here tail)

theorem appends_done : Appends settings 0 [] := by
  intro fuel here tail
  cases fuel with
  | zero => rfl
  | succ fuel => rfl

theorem appends_plain {count : Nat} {line : Line} {rest : Cursor} (solid : line.isBlank = false)
    (plain : ∀ statement, Statement.read line = .ok statement → statement.command.opens = false)
    (appends : Appends settings count rest) : Appends settings (count + 1) (line :: rest) := by
  intro fuel here tail
  rw [List.cons_append, ← Nat.add_assoc, lines, lines, Cursor.next_solid line _ solid,
    Cursor.next_solid line rest solid, bind_assoc]
  apply deed_congr
  intro world statement after answered
  cases Deed.still_answers (Deed.still_settled _) answered
  have closed := plain statement (Deed.read_answers line statement world answered)
  rw [bind_assoc]
  congr 1
  funext _
  cases asked : statement.command with
  | define _ | loop _ | branch _ =>
      rw [asked] at closed
      cases closed
  | _ => simp only [bind_assoc, appends fuel here tail]

theorem appends_block {count : Nat} {line : Line} {rest : Cursor} {statement : Statement}
    {whole : Block.Carving} (solid : line.isBlank = false)
    (reading : Statement.read line = .ok statement) (opens : statement.command.opens = true)
    (closed : Block.carveFrom false 0 rest = some whole)
    (appends : Appends settings count whole.after) : Appends settings (count + 1) (line :: rest) := by
  intro fuel here tail
  rw [List.cons_append, ← Nat.add_assoc, lines, lines, Cursor.next_solid line _ solid,
    Cursor.next_solid line rest solid, bind_assoc]
  apply deed_congr
  intro world statement after answered
  cases Deed.still_answers (Deed.still_settled _) answered
  cases reading.symm.trans (Deed.read_answers line statement world answered)
  rw [bind_assoc]
  congr 1
  funext _
  have carves (kind : BlockKind) (header : Location) :
      Deed.carve kind header rest =
          pure (⟨kind.keyword, header, whole.body, whole.terminator⟩, whole.after) ∧
        Deed.carve kind header (rest ++ tail) =
          pure (⟨kind.keyword, header, whole.body, whole.terminator⟩, whole.after ++ tail) := by
    have reads := Block.read_whole kind.keyword header rest whole closed
    exact ⟨Deed.carve_pure reads, Deed.carve_pure (Block.read_append _ _ _ _ _ tail _ reads)⟩
  cases asked : statement.command with
  | define name =>
      dsimp only
      rw [(carves _ _).1, (carves _ _).2]
      simp only [lift_pure, pure_bind, bind_assoc, appends fuel here tail]
  | loop predicate =>
      dsimp only
      rw [(carves _ _).1, (carves _ _).2]
      simp only [lift_pure, pure_bind, bind_assoc, appends fuel here tail]
  | branch predicate =>
      dsimp only
      obtain ⟨longer, leaves⟩ := @Deed.choose_whole here (some predicate) statement.location rest tail
        whole closed
      rw [longer, lift_map, bind_map_left, bind_assoc]
      apply deed_congr
      intro world choice after chosen
      have left := leaves world choice after chosen
      rcases choice with ⟨_ | ⟨block, clause⟩, behind⟩
      · cases left
        exact appends fuel here tail
      · have ends := left []
        rw [List.append_nil, List.append_nil] at ends
        simp only [Deed.lengthen, left tail, ends, lift_pure, pure_bind, bind_assoc, appends fuel here tail]
  | _ =>
      rw [asked] at opens
      cases opens

theorem lines_append {cursor : Cursor} (complete : cursor.Complete) :
    ∃ count, Appends settings count cursor := by
  induction complete with
  | done => exact ⟨0, appends_done⟩
  | @blank line rest blank _ ih =>
      obtain ⟨count, appends⟩ := ih
      refine ⟨count, fun fuel here tail => ?_⟩
      rw [List.cons_append, lines_blank _ line _ blank, lines_blank _ line rest blank, appends]
  | plain solid plain _ ih =>
      obtain ⟨count, appends⟩ := ih
      exact ⟨count + 1, appends_plain solid plain appends⟩
  | block solid reading opens closed _ ih =>
      obtain ⟨count, appends⟩ := ih
      exact ⟨count + 1, appends_block solid reading opens closed appends⟩

def Below (first second : Nested α) : Prop :=
  ∀ world done, first world = some done → second world = some done

theorem below_same (first : Nested α) : Below first first :=
  fun _ _ done => done

theorem below_bind {first second : Nested α} {next later : α → Nested β} (below : Below first second)
    (goesOn : ∀ a, Below (next a) (later a)) : Below (first >>= next) (second >>= later) := by
  intro world done computed
  rw [nested_bind]
  rcases nested_bind_some first next world done computed with
    ⟨a, after, ran, going⟩ | ⟨failure, after, ran, rfl⟩
  · rw [below world _ ran]
    exact goesOn a after done going
  · rw [below world _ ran]

theorem below_after (first : Nested α) {next later : α → Nested β} (goesOn : ∀ a, Below (next a) (later a)) :
    Below (first >>= next) (first >>= later) :=
  below_bind (below_same first) goesOn

theorem recursion_more (settings : Settings σ) (fuel : Nat) :
    (∀ here cursor, Below (lines settings fuel here cursor) (lines settings (fuel + 1) here cursor)) ∧
      ∀ here location predicate block, Below (loop settings fuel here location predicate block)
        (loop settings (fuel + 1) here location predicate block) := by
  induction fuel with
  | zero =>
      refine ⟨fun here cursor before done computed => ?_, fun here location predicate block => ?_⟩
      · cases computed
      · rw [loop, loop]
        refine below_after _ fun taken => ?_
        cases taken with
        | false => exact below_same _
        | true =>
            refine below_after _ fun _ _ _ computed => ?_
            cases computed
  | succ fuel ih =>
      obtain ⟨linesMore, loopMore⟩ := ih
      refine ⟨fun here cursor => ?_, fun here location predicate block => ?_⟩
      · rw [lines, lines]
        cases Cursor.next? cursor with
        | none => exact below_same _
        | some taken =>
            refine below_after _ fun statement => below_after _ fun _ => ?_
            cases statement.command with
            | define name =>
                exact below_after _ fun _ => below_after _ fun _ => linesMore here _
            | loop predicate =>
                refine below_after _ fun _ => below_after _ fun _ => ?_
                exact below_bind (loopMore here _ predicate _) fun _ => linesMore here _
            | branch predicate =>
                refine below_after _ fun choice => ?_
                rcases choice with ⟨_ | ⟨block, clause⟩, behind⟩
                · exact linesMore here behind
                · refine below_after _ fun _ => below_after _ fun _ => below_bind (linesMore _ _) fun _ => ?_
                  exact below_after _ fun _ => below_after _ fun _ => linesMore here _
            | call name arguments =>
                refine below_after _ fun _ => below_after _ fun _ => below_after _ fun _ => ?_
                exact below_bind (linesMore _ _) fun _ => below_after _ fun _ => linesMore here _
            | _ => exact below_after _ fun _ => linesMore here _
      · rw [loop, loop]
        refine below_after _ fun taken => ?_
        cases taken with
        | false => exact below_same _
        | true =>
            refine below_after _ fun _ => below_bind (linesMore _ _) fun _ => ?_
            exact below_after _ fun _ => loopMore here location predicate block

theorem below_more (compute : Nat → Nested α)
    (stepwise : ∀ fuel, Below (compute fuel) (compute (fuel + 1))) (less more : Nat) (bound : less ≤ more) :
    Below (compute less) (compute more) := by
  induction more with
  | zero =>
      rw [Nat.le_zero.mp bound]
      exact below_same _
  | succ more ih =>
      rcases Nat.le_succ_iff.mp bound with lower | rfl
      · exact fun world done computed => stepwise more world done (ih lower world done computed)
      · exact below_same _

theorem lines_more (less more : Nat) (bound : less ≤ more) (here : Activation) (cursor : Cursor) :
    Below (lines settings less here cursor) (lines settings more here cursor) :=
  below_more (lines settings · here cursor) (fun fuel => (recursion_more settings fuel).1 here cursor)
    less more bound

theorem loop_more (less more : Nat) (bound : less ≤ more) (here : Activation) (location : Location)
    (predicate : Text) (block : Block) :
    Below (loop settings less here location predicate block)
      (loop settings more here location predicate block) :=
  below_more (loop settings · here location predicate block)
    (fun fuel => (recursion_more settings fuel).2 here location predicate block) less more bound

def Does (settings : Settings σ) (here : Activation) (cursor : Cursor) (before after : World) : Prop :=
  ∃ fuel, lines settings fuel here cursor before = some (.ok (), after)

theorem does_append {cursor : Cursor} (tail : Cursor) (before after : World) (complete : cursor.Complete) :
    Does settings here (cursor ++ tail) before after ↔
      ∃ middle, Does settings here cursor before middle ∧ Does settings here tail middle after := by
  obtain ⟨count, appends⟩ := @lines_append σ settings cursor complete
  constructor
  · rintro ⟨fuel, computed⟩
    have more := lines_more fuel (fuel + count) (Nat.le_add_right fuel count) here _ before _ computed
    rw [appends] at more
    rcases nested_bind_some _ _ before _ more with ⟨_, middle, ran, going⟩ | ⟨failure, _, _, failed⟩
    · exact ⟨middle, ⟨_, ran⟩, ⟨_, going⟩⟩
    · cases failed
  · rintro ⟨middle, ⟨first, ran⟩, second, going⟩
    refine ⟨max first second + count, ?_⟩
    have enough := lines_more first (max first second + count)
      (Nat.le_trans (Nat.le_max_left first second) (Nat.le_add_right _ count)) here cursor before _ ran
    have further := lines_more second (max first second) (Nat.le_max_right first second) here tail middle _
      going
    rw [appends, nested_bind, enough]
    exact further

theorem does_arrives (unobserved : settings.Unobserved) (machine : Machine σ) (frame : Frame) {after : World}
    (stands : machine.stack = [frame])
    (does : Does settings (frame.activation 1) frame.cursor machine.world after) :
    ∃ last cursor, machine.Reaches settings last ∧ last.stack = [frame.moved cursor] ∧
      Cursor.next? cursor = none ∧ last.world = after := by
  obtain ⟨fuel, computed⟩ := does
  obtain ⟨last, path, same, cursor, stack, taken⟩ :=
    (recursion_arrives unobserved fuel).1 machine frame [] _ stands computed
  exact ⟨last, cursor, path, stack, taken, same⟩

theorem drive_does (unobserved : settings.Unobserved) (machine last : Machine σ) (frame : Frame)
    (count : Nat) (stands : machine.stack = [frame])
    (driven : machine.drive settings count = some (.ok (), last)) :
    Does settings (frame.activation 1) frame.cursor machine.world last.world ∧
      ∃ cursor, last.stack = [frame.moved cursor] := by
  have answers := (recursion_answers unobserved count).1 machine frame [] _ (2 * count) stands driven
    (Nat.le_refl _)
  generalize computed : lines settings (2 * count) _ _ _ = done at answers
  cases answers with
  | @answered _ ended less bound met driven =>
      obtain ⟨left, stack, taken⟩ := met
      cases less with
      | zero => cases driven
      | succ less =>
          rw [Machine.drive_over settings less ended _ stack taken] at driven
          cases driven
          exact ⟨⟨_, computed⟩, left, stack⟩
  | failed ends => cases ends

theorem does_drives (unobserved : settings.Unobserved) (machine : Machine σ) (frame : Frame) {after : World}
    (stands : machine.stack = [frame])
    (does : Does settings (frame.activation 1) frame.cursor machine.world after) :
    ∃ count last cursor, machine.drive settings count = some (.ok (), last) ∧
      last.stack = [frame.moved cursor] ∧ last.world = after := by
  obtain ⟨last, cursor, path, stack, taken, same⟩ := does_arrives unobserved machine frame stands does
  obtain ⟨count, driven⟩ := Machine.drive_reaches settings 1 machine last _ path
    (Machine.drive_over settings 0 last _ stack taken)
  exact ⟨count, last, cursor, driven, stack, same⟩

end Nested

end BareBones
