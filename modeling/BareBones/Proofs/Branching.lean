import BareBones.Proofs.Enclosure
import BareBones.Proofs.Sequencing

set_option autoImplicit false

namespace BareBones

namespace Block

structure Arm where
  predicate : Option Text
  location : Location
  body : List Line
deriving DecidableEq, Repr

namespace Arm

def extend (line : Line) (arm : Arm) : Arm :=
  { arm with body := arm.body ++ [line] }

def Holds (env : Env) (arm : Arm) : Prop :=
  ∀ text ∈ arm.predicate, env.test text = .ok true

def Fails (env : Env) (arm : Arm) : Prop :=
  ∃ text ∈ arm.predicate, env.test text = .ok false

end Arm

def Arm.of (line : Line) : Arm :=
  ⟨(Boundary.elseClause? line.text).join, line.location, []⟩

-- The clauses of an `if` in their order, from the lines of the clause `arm` on, of which `depth` headers
-- are open. A clause that nothing ends is not among them.
def armsFrom (arm : Arm) (depth : Nat) : List Line → List Arm
  | [] => []
  | line :: rest =>
      if line.isBlank then armsFrom arm depth rest
      else if depth == 0 && Boundary.isElse line.text then arm :: armsFrom (.of line) 0 rest
      else if Boundary.isHeader line.text then armsFrom (arm.extend line) (depth + 1) rest
      else if Boundary.isEnd line.text then
        match depth with
        | 0 => [arm]
        | outer + 1 => armsFrom (arm.extend line) outer rest
      else armsFrom (arm.extend line) depth rest

inductive Selects (env : Env) : List Arm → Option Arm → Prop
  | spent : Selects env [] none
  | here {arm : Arm} {later : List Arm} (holds : arm.Holds env) : Selects env (arm :: later) (some arm)
  | later {arm : Arm} {arms : List Arm} {choice : Option Arm} (fails : arm.Fails env)
      (chosen : Selects env arms choice) : Selects env (arm :: arms) choice

theorem Arm.holds_fails {env : Env} {arm : Arm} (holds : arm.Holds env) : ¬ arm.Fails env := by
  rintro ⟨text, asked, fails⟩
  cases (holds text asked).symm.trans fails

theorem selects_unique {env : Env} {arms : List Arm} {one other : Option Arm} (first : Selects env arms one)
    (second : Selects env arms other) : one = other := by
  induction first with
  | spent =>
      cases second
      rfl
  | here holds =>
      cases second with
      | here _ => rfl
      | later fails _ => exact absurd fails (Arm.holds_fails holds)
  | later fails _ ih =>
      cases second with
      | here holds => exact absurd fails (Arm.holds_fails holds)
      | later _ further => exact ih further

def armsCarved (arm : Arm) : Option Carving → List Arm
  | none => []
  | some carving =>
      { arm with body := arm.body ++ carving.body } ::
        if Boundary.isElse carving.terminator.text then
          armsFrom (.of carving.terminator) 0 carving.after
        else []

theorem arms_prepend (arm : Arm) (line : Line) (carved : Option Carving) :
    armsCarved (arm.extend line) carved = armsCarved arm (carved.map (Carving.prepend line)) := by
  cases carved with
  | none => rfl
  | some carving => simp [armsCarved, Arm.extend, Carving.prepend]

theorem arms_carved (arm : Arm) (depth : Nat) (lines : List Line) :
    armsFrom arm depth lines = armsCarved arm (carveFrom true depth lines) := by
  induction lines generalizing arm depth with
  | nil => rfl
  | cons line rest ih =>
      rw [armsFrom.eq_def, carveFrom.eq_def]
      simp only [Bool.and_true]
      by_cases blank : line.isBlank = true
      · rw [if_pos blank, if_pos blank, ih]
      rw [if_neg blank, if_neg blank]
      by_cases stops : (depth == 0 && Boundary.isElse line.text) = true
      · have clause := (Bool.and_eq_true_iff.mp stops).2
        rw [if_pos stops, if_pos stops]
        simp [armsCarved, clause]
      rw [if_neg stops, if_neg stops]
      by_cases header : Boundary.isHeader line.text = true
      · rw [if_pos header, if_pos header, ih, arms_prepend]
      rw [if_neg header, if_neg header]
      by_cases ends : Boundary.isEnd line.text = true
      · rw [if_pos ends, if_pos ends]
        cases depth with
        | zero =>
            have plain : Boundary.isElse line.text = false := by simpa using stops
            simp [armsCarved, plain]
        | succ outer => exact (ih (arm.extend line) outer).trans (arms_prepend arm line _)
      · rw [if_neg ends, if_neg ends, ih, arms_prepend]

theorem carve_rejoined (depth : Nat) (lines : List Line) (carving : Carving)
    (carved : carveFrom true depth lines = some carving)
    (closes : Boundary.isElse carving.terminator.text = true → ∃ others,
      carveFrom false 0 carving.after = some others) :
    ∃ whole, carveFrom false depth lines = some whole := by
  induction lines generalizing depth carving with
  | nil => cases carved
  | cons line rest ih =>
      have deeper (inner : Nat)
          (found : (carveFrom true inner rest).map (Carving.prepend line) = some carving) :
          ∃ whole, (carveFrom false inner rest).map (Carving.prepend line) = some whole := by
        obtain ⟨within, read, rfl⟩ := Option.map_eq_some_iff.mp found
        obtain ⟨whole, closed⟩ := ih inner within read closes
        exact ⟨whole.prepend line, by rw [closed]; rfl⟩
      rw [carveFrom.eq_def] at carved
      rw [carveFrom.eq_def]
      simp only [Bool.and_false, Bool.false_and, Bool.false_eq_true, if_false, Bool.and_true] at carved ⊢
      by_cases blank : line.isBlank = true
      · rw [if_pos blank] at carved ⊢
        exact ih depth carving carved closes
      rw [if_neg blank] at carved ⊢
      by_cases stops : (depth == 0 && Boundary.isElse line.text) = true
      · rw [if_pos stops] at carved
        cases carved
        obtain ⟨outermost, clause⟩ := Bool.and_eq_true_iff.mp stops
        obtain ⟨others, closed⟩ := closes clause
        cases beq_iff_eq.mp outermost
        rw [if_neg (ne_true_of_eq_false (Boundary.else_no_header _ clause)),
          if_neg (ne_true_of_eq_false (Boundary.else_no_end _ clause)), closed]
        exact ⟨others.prepend line, rfl⟩
      rw [if_neg stops] at carved
      by_cases header : Boundary.isHeader line.text = true
      · rw [if_pos header] at carved ⊢
        exact deeper _ carved
      rw [if_neg header] at carved ⊢
      by_cases ends : Boundary.isEnd line.text = true
      · rw [if_pos ends] at carved ⊢
        cases depth with
        | zero => exact ⟨_, rfl⟩
        | succ outer => exact deeper outer carved
      · rw [if_neg ends] at carved ⊢
        exact deeper _ carved

theorem read_carved {keyword : Text} {header : Location} {elseEnds : Bool} {cursor rest : Cursor}
    {block : Block} (reading : read keyword header elseEnds cursor = .ok (block, rest)) :
    ∃ carving, carveFrom elseEnds 0 cursor = some carving := by
  cases carved : carveFrom elseEnds 0 cursor with
  | none =>
      rw [read_carves, carved] at reading
      cases reading
  | some carving => exact ⟨carving, rfl⟩

end Block

namespace Deed

open Block (Arm Selects armsFrom armsCarved arms_carved)

variable {here : Activation} {before after world final : World}

theorem holds_answers {location : Location} {text : Text} {taken : Bool}
    (done : holds here text location before = (.ok taken, after)) :
    (here.env before).test text = .ok taken := by
  have result := congrArg Prod.fst done
  change placed location ((here.env before).test text) = .ok taken at result
  cases tested : (here.env before).test text with
  | error failure =>
      rw [tested] at result
      cases result
  | ok found =>
      rw [tested] at result
      cases result
      rfl

theorem admits_answers {arm : Arm} {location : Location} {taken : Bool}
    (done : admits here location arm.predicate before = (.ok taken, after)) :
    if taken then arm.Holds (here.env before) else arm.Fails (here.env before) := by
  cases asked : arm.predicate with
  | none =>
      rw [asked] at done
      cases done
      intro text member
      cases asked.symm.trans member
  | some text =>
      rw [asked] at done
      have tested := holds_answers done
      cases taken with
      | false => exact ⟨text, asked, tested⟩
      | true =>
          rintro other member
          cases asked.symm.trans member
          exact tested

theorem admits_done {arm : Arm} {taken : Bool} (location : Location)
    (decides : if taken then arm.Holds (here.env before) else arm.Fails (here.env before)) :
    admits here location arm.predicate before = (.ok taken, before) := by
  cases taken with
  | false =>
      obtain ⟨text, asked, tested⟩ := decides
      rw [Option.mem_def.mp asked]
      exact evaluate_answered here location (·.test text) before false tested
  | true =>
      cases asked : arm.predicate with
      | none => rfl
      | some text => exact evaluate_answered here location (·.test text) before true (decides text asked)

def Fits (choice : Option (Block × Location)) (chosen : Option Arm) : Prop :=
  choice.map (fun taken => (taken.1.body, taken.2)) = chosen.map fun arm => (arm.body, arm.location)

theorem read_else_of (line : Line) (next : Option Text) (reading : Boundary.readElse line = .ok next) :
    Arm.of line = ⟨next, line.location, []⟩ := by
  unfold Boundary.readElse at reading
  cases clause : Boundary.elseClause? line.text with
  | none =>
      rw [clause] at reading
      cases reading
  | some predicate =>
      rw [clause] at reading
      cases reading
      rw [Arm.of, clause]
      rfl

theorem choose_uncarved (predicate : Option Text) (location : Location) (cursor : Cursor)
    (open_ : Block.carveFrom true 0 cursor = none) :
    choose here predicate location cursor =
      settled (.error (.fault (.at location (.unterminated BlockKind.branch.keyword)))) := by
  apply choose_unread
  rw [Block.read_carves, open_]

theorem choose_chosen (predicate : Option Text) (location : Location) (cursor left : Cursor)
    (choice : Option (Block × Location))
    (done : choose here predicate location cursor before = (.ok (choice, left), after)) :
    ∃ chosen, Selects (here.env before) (armsFrom ⟨predicate, location, []⟩ 0 cursor) chosen ∧
      Fits choice chosen := by
  cases carved : Block.carveFrom true 0 cursor with
  | none =>
      rw [choose_uncarved predicate location cursor carved] at done
      cases done
  | some carving =>
      rw [choose_step predicate location cursor carving carved] at done
      obtain ⟨taken, middle, tested, going⟩ := bind_answers done
      rw [still_answers (still_admits here location predicate) tested] at going
      let arm : Arm := ⟨predicate, location, carving.body⟩
      have decides : if taken then arm.Holds (here.env before) else arm.Fails (here.env before) :=
        admits_answers tested
      rw [arms_carved, carved, armsCarved]
      cases taken with
      | true =>
          refine ⟨some arm, .here decides, ?_⟩
          cases stops : Boundary.isElse carving.terminator.text with
          | false =>
              rw [stops] at going
              cases going
              rfl
          | true =>
              rw [stops] at going
              cases going
              rfl
      | false =>
          cases stops : Boundary.isElse carving.terminator.text with
          | false =>
              rw [stops] at going
              cases going
              exact ⟨none, .later decides .spent, rfl⟩
          | true =>
              rw [stops] at going
              obtain ⟨next, clause⟩ := Boundary.read_else carving.terminator stops
              rw [clause] at going
              obtain ⟨chosen, further, fits⟩ :=
                choose_chosen next carving.terminator.location carving.after left choice going
              rw [if_pos rfl, read_else_of carving.terminator next clause]
              exact ⟨chosen, .later decides further, fits⟩
termination_by cursor.length
decreasing_by exact Block.carve_after_shorter true 0 cursor carving carved

theorem choose_first (predicate : Option Text) (location : Location) (cursor : Cursor) (arm : Arm)
    (chosen : Selects (here.env before) (armsFrom ⟨predicate, location, []⟩ 0 cursor) (some arm)) :
    ∃ block left, choose here predicate location cursor before =
      (.ok (some (block, arm.location), left), before) ∧ block.body = arm.body := by
  rw [arms_carved] at chosen
  cases carved : Block.carveFrom true 0 cursor with
  | none =>
      rw [carved] at chosen
      cases chosen
  | some carving =>
      rw [carved, armsCarved] at chosen
      rw [choose_step predicate location cursor carving carved]
      let first : Arm := ⟨predicate, location, carving.body⟩
      cases chosen with
      | here holds =>
          have tested : admits here location first.predicate before = (.ok true, before) :=
            admits_done location holds
          rw [bind_done tested]
          refine ⟨⟨BlockKind.branch.keyword, location, carving.body, carving.terminator⟩, ?_⟩
          cases Boundary.isElse carving.terminator.text with
          | false => exact ⟨_, rfl, rfl⟩
          | true => exact ⟨_, rfl, rfl⟩
      | later fails further =>
          have tested : admits here location first.predicate before = (.ok false, before) :=
            admits_done location fails
          rw [bind_done tested]
          cases stops : Boundary.isElse carving.terminator.text with
          | false =>
              rw [stops] at further
              cases further
          | true =>
              rw [stops, if_pos rfl] at further
              obtain ⟨next, clause⟩ := Boundary.read_else carving.terminator stops
              rw [read_else_of carving.terminator next clause] at further
              rw [clause]
              exact choose_first next carving.terminator.location carving.after arm further
termination_by cursor.length
decreasing_by exact Block.carve_after_shorter true 0 cursor carving carved

def behind (choice : Option (Block × Location)) (left : Cursor) : Deed Cursor :=
  match choice with
  | some (block, _) => skip block.terminator left
  | none => return left

theorem choose_closed (predicate : Option Text) (location : Location) (cursor left rest : Cursor)
    (choice : Option (Block × Location))
    (done : choose here predicate location cursor before = (.ok (choice, left), after))
    (skipped : behind choice left world = (.ok rest, final)) :
    ∃ whole, Block.carveFrom false 0 cursor = some whole := by
  cases carved : Block.carveFrom true 0 cursor with
  | none =>
      rw [choose_uncarved predicate location cursor carved] at done
      cases done
  | some carving =>
      refine Block.carve_rejoined 0 cursor carving carved fun stops => ?_
      rw [choose_step predicate location cursor carving carved] at done
      obtain ⟨taken, middle, tested, going⟩ := bind_answers done
      rw [stops, still_answers (still_admits here location predicate) tested] at going
      cases taken with
      | true =>
          cases going
          have solid := (Block.carve_terminator true 0 cursor carving carved).1
          rw [behind, skip, if_pos stops, Cursor.next_solid _ _ solid] at skipped
          obtain ⟨⟨block, others⟩, _, carving, _⟩ := bind_answers skipped
          exact Block.read_carved (carve_answers carving).2
      | false =>
          obtain ⟨next, clause⟩ := Boundary.read_else carving.terminator stops
          rw [clause] at going
          exact choose_closed next carving.terminator.location carving.after left rest choice going skipped
termination_by cursor.length
decreasing_by exact Block.carve_after_shorter true 0 cursor carving carved

theorem choose_leaves (predicate : Option Text) (location : Location) (cursor left rest : Cursor)
    (choice : Option (Block × Location))
    (done : choose here predicate location cursor before = (.ok (choice, left), after))
    (skipped : behind choice left world = (.ok rest, final)) :
    ∃ block, Block.read BlockKind.branch.keyword location false cursor = .ok (block, rest) := by
  obtain ⟨whole, closed⟩ := choose_closed predicate location cursor left rest choice done skipped
  have leaves := (choose_whole predicate location cursor [] whole closed).2 before (choice, left) after done
  refine ⟨⟨BlockKind.branch.keyword, location, whole.body, whole.terminator⟩, ?_⟩
  rw [Block.read_whole _ location cursor whole closed]
  cases choice with
  | none =>
      cases skipped
      rw [show left = whole.after from leaves]
  | some taken =>
      have same := leaves []
      rw [List.append_nil, List.append_nil] at same
      rw [behind, same] at skipped
      cases skipped
      rfl

end Deed

namespace Machine

open Block (Arm Selects armsFrom)

variable {σ : Type} {settings : Settings σ} {before after : Machine σ} {frame : Frame} {below : List Frame}

def Bears (body under : Frame) (below : List Frame) (machine : Machine σ) : Prop :=
  ∃ upper cursor, machine.stack = upper ++ body.moved cursor :: under :: below

section

variable {body under : Frame} {statement : Statement} {terminator : Line}

theorem bears_top (stack : after.stack = body :: under :: below) : Bears body under below after :=
  ⟨[], body.cursor, stack⟩

theorem bears_goes (unobserved : settings.Unobserved)
    (resumes : body.resume = some (.branch statement terminator)) (goes : Goes settings before after) (bears : Bears body under below before) :
    (Bears body under below after ∧ below.length + 1 < after.stack.length) ∨
      ∃ left world final, Deed.skip terminator under.cursor world = (.ok left, final) ∧
        after.stack = under.moved left :: below := by
  obtain ⟨upper, cursor, stands⟩ := bears
  obtain ⟨actor, lower, deed, next, turn, done, stack⟩ := goes_turn settings before after unobserved goes
  rw [stands] at turn
  rcases turn_bears turn with stays | ⟨rfl, same, rfl⟩
  · obtain ⟨upper, cursor, stood⟩ := stays next.1
    rw [stood, ← List.append_assoc] at stack
    refine .inl ⟨⟨next.2.toList ++ upper, cursor, stack⟩, ?_⟩
    rw [stack]
    simp only [List.length_append, List.length_cons]
    omega
  · cases same
    obtain ⟨_, world, _, completing⟩ := Deed.bind_answers done
    rw [resumes] at completing
    obtain ⟨left, _, skipping, ⟨⟩⟩ := Deed.bind_answers completing
    exact .inr ⟨left, world, _, skipping, stack⟩

end

def Aloft (settings : Settings σ) (height : Nat) : Machine σ → Machine σ → Prop :=
  Relation.ReflTransGen fun before after => Goes settings before after ∧ height < after.stack.length

section

variable {body under : Frame} {statement : Statement} {terminator : Line}

theorem aloft_bears (unobserved : settings.Unobserved)
    (resumes : body.resume = some (.branch statement terminator)) (bears : Bears body under below before)
    (aloft : Aloft settings (below.length + 1) before after) : Bears body under below after := by
  induction aloft with
  | refl => exact bears
  | tail _ turn ih =>
      rcases bears_goes unobserved resumes turn.1 ih with ⟨bears, _⟩ | ⟨left, _, _, _, stack⟩
      · exact bears
      · have deep := turn.2
        rw [stack] at deep
        exact absurd deep (Nat.lt_irrefl _)

theorem completes_bears (unobserved : settings.Unobserved)
    (resumes : body.resume = some (.branch statement terminator)) (bears : Bears body under below before)
    (completes : Completes settings (below.length + 1) before after) :
    ∃ left world final, Deed.skip terminator under.cursor world = (.ok left, final) ∧
      after.stack = under.moved left :: below := by
  induction completes with
  | done goes level =>
      rcases bears_goes unobserved resumes goes bears with ⟨_, deep⟩ | returned
      · exact absurd level (Nat.not_le_of_lt deep)
      · exact returned
  | onward goes deep _ ih =>
      rcases bears_goes unobserved resumes goes bears with ⟨bears, _⟩ | ⟨left, _, _, _, stack⟩
      · exact ih bears
      · rw [stack] at deep
        exact absurd deep (Nat.lt_irrefl _)

end

def armFrame (before : Machine σ) (frame : Frame) (statement : Statement) (arm : Arm) (terminator : Line) :
    Frame :=
  let label := blockLabel .branch arm.location
  ⟨label, frame.path ++ [label], frame.arguments, before.created, some arm.location, arm.body,
    some (.branch statement terminator)⟩

-- What the turn of an `if` comes to: nothing is spawned, or the body of one clause, and as long as that is
-- under way no other frame stands on the one that runs the `if`.
inductive Branches (settings : Settings σ) (frame : Frame) (below : List Frame) (statement : Statement)
    (before after : Machine σ) : Option Arm → Prop
  | passed {left : Cursor} (stack : after.stack = frame.moved left :: below)
      (kept : after.store = before.store ∧ after.written = before.written) :
      Branches settings frame below statement before after none
  | taken {arm : Arm} {terminator : Line} {left : Cursor}
      (stack : after.stack = armFrame before frame statement arm terminator :: frame.moved left :: below)
      (kept : after.store = before.store.enter (frame.path ++ [blockLabel .branch arm.location]) ∧
        after.written = before.written)
      (alone : ∀ middle, Aloft settings (below.length + 1) after middle → ∃ upper cursor,
        middle.stack =
          upper ++ (armFrame before frame statement arm terminator).moved cursor :: frame.moved left :: below) :
      Branches settings frame below statement before after (some arm)

section

variable {line : Line} {rest : Cursor} {predicate : Text}

inductive Picks (frame : Frame) (below : List Frame) (line : Line) (rest : Cursor) (predicate : Text)
    (before after : Machine σ) : Prop
  | passed {left : Cursor} {journal : Journal Nat}
      (chosen : Deed.choose (frame.activation (below.length + 1)) (some predicate) line.location rest
        { before.world with journal := journal } =
          (.ok (none, left), { before.world with journal := journal }))
      (stack : after.stack = frame.moved left :: below)
      (kept : after.store = before.store ∧ after.written = before.written) :
      Picks frame below line rest predicate before after
  | taken {block : Block} {place : Location} {left : Cursor} {journal : Journal Nat}
      (chosen : Deed.choose (frame.activation (below.length + 1)) (some predicate) line.location rest
        { before.world with journal := journal } =
          (.ok (some (block, place), left), { before.world with journal := journal }))
      (stack : after.stack = armFrame before frame ⟨line.location, .branch predicate⟩
        ⟨none, place, block.body⟩ block.terminator :: frame.moved left :: below)
      (kept : after.store = before.store.enter (frame.path ++ [blockLabel .branch place]) ∧
        after.written = before.written) :
      Picks frame below line rest predicate before after

theorem goes_picks (unobserved : settings.Unobserved) (stands : before.stack = frame :: below)
    (taking : Cursor.next? frame.cursor = some (line, rest))
    (reading : Statement.read line = .ok ⟨line.location, .branch predicate⟩)
    (goes : Goes settings before after) : Picks frame below line rest predicate before after := by
  obtain ⟨actor, lower, deed, next, turn, done, stack⟩ := goes_turn settings before after unobserved goes
  rw [stands] at turn
  rcases turn_top settings frame actor below lower deed turn with
    ⟨found, left, rfl, rfl, taken, rfl⟩ | ⟨_, spent, _⟩
  · cases taking.symm.trans taken
    obtain ⟨statement, snapshot, read, performs⟩ := Deed.launch_answers done
    cases reading.symm.trans read
    generalize world : after.world = final at performs
    cases performs with
    | atOnce done => cases done
    | defined asked _ => cases asked
    | looped asked _ _ => cases asked
    | called asked _ _ => cases asked
    | passed asked chosen =>
        cases asked
        exact .passed chosen stack ⟨congrArg World.store world, congrArg World.written world⟩
    | branched asked chosen allowed =>
        cases asked
        exact .taken chosen stack ⟨congrArg World.store world, congrArg World.written world⟩
  · cases taking.symm.trans spent

theorem picks_branches (unobserved : settings.Unobserved)
    (picks : Picks frame below line rest predicate before after) :
    ∃ choice, Selects (before.env frame) (armsFrom ⟨some predicate, line.location, []⟩ 0 rest) choice ∧
      Branches settings frame below ⟨line.location, .branch predicate⟩ before after choice := by
  cases picks with
  | passed chosen stack kept =>
      obtain ⟨choice, first, fits⟩ := Deed.choose_chosen _ _ _ _ _ chosen
      cases choice with
      | none => exact ⟨none, first, .passed stack kept⟩
      | some arm => cases fits
  | @taken block place left _ chosen stack kept =>
      obtain ⟨choice, first, fits⟩ := Deed.choose_chosen _ _ _ _ _ chosen
      cases choice with
      | none => cases fits
      | some arm =>
          obtain ⟨body, located⟩ := Prod.mk.inj (Option.some.inj fits)
          dsimp only at body located
          subst located
          rw [armFrame, body] at stack
          refine ⟨some arm, first, .taken stack kept fun middle aloft => ?_⟩
          exact aloft_bears unobserved rfl (bears_top stack) aloft

theorem picks_leaves (unobserved : settings.Unobserved)
    (picks : Picks frame below line rest predicate before after) :
    (∃ block left, Block.read BlockKind.branch.keyword line.location false rest = .ok (block, left) ∧
        after.stack = frame.moved left :: below) ∨
      below.length + 1 < after.stack.length ∧
        ∀ last, Completes settings (below.length + 1) after last →
          ∃ block left, Block.read BlockKind.branch.keyword line.location false rest = .ok (block, left) ∧
            last.stack = frame.moved left :: below := by
  cases picks with
  | @passed left _ chosen stack kept =>
      have skipped : Deed.behind none left before.world = (.ok left, before.world) := rfl
      obtain ⟨block, reading⟩ := Deed.choose_leaves _ _ rest left left none chosen skipped
      exact .inl ⟨block, left, reading, stack⟩
  | @taken block place left _ chosen stack kept =>
      right
      refine ⟨by rw [stack]; exact Nat.lt_succ_self _, fun last completes => ?_⟩
      obtain ⟨cursor, world, final, skipped, stood⟩ :=
        completes_bears unobserved rfl (bears_top stack) completes
      obtain ⟨whole, reading⟩ := Deed.choose_leaves _ _ rest left cursor (some (block, place)) chosen skipped
      exact ⟨whole, cursor, reading, stood⟩

def Recordable (settings : Settings σ) (before : Machine σ) (frame : Frame) : Prop :=
  settings.verbose = true → ∃ snapshot, before.store.snapshot frame.path = .ok snapshot

theorem recordable_records (statement : Statement) (depth : Nat)
    (recordable : Recordable settings before frame) :
    ∃ journal, Deed.record settings (frame.activation depth) statement before.world =
      (.ok (), { before.world with journal := journal }) := by
  unfold Deed.record
  cases verbose : settings.verbose with
  | false => exact ⟨_, rfl⟩
  | true =>
      obtain ⟨snapshot, taken⟩ := recordable verbose
      have settled : Env.orBreakdown (before.world.store.snapshot (frame.activation depth).path) =
          .ok snapshot := congrArg Env.orBreakdown taken
      simp only [if_true, effect_bind, effect_get, effect_map, settled, Deed.settled]
      exact ⟨_, rfl⟩

theorem chosen_goes {arm : Arm} (unobserved : settings.Unobserved) (stands : before.stack = frame :: below)
    (taking : Cursor.next? frame.cursor = some (line, rest))
    (reading : Statement.read line = .ok ⟨line.location, .branch predicate⟩)
    (recordable : Recordable settings before frame)
    (allowed : settings.maxDepth.allow (below.length + 1) arm.location = .ok ())
    (chosen : Selects (before.env frame) (armsFrom ⟨some predicate, line.location, []⟩ 0 rest) (some arm)) :
    ∃ after, Goes settings before after := by
  let statement : Statement := ⟨line.location, .branch predicate⟩
  let here := frame.activation (below.length + 1)
  have read : Deed.read line before.world = (.ok statement, before.world) := by
    unfold Deed.read
    rw [reading]
    rfl
  obtain ⟨journal, recorded⟩ := recordable_records statement (below.length + 1) recordable
  have first : Selects (here.env { before.world with journal := journal })
    (armsFrom ⟨some predicate, line.location, []⟩ 0 rest) (some arm) := chosen
  obtain ⟨block, left, chooses, _⟩ := Deed.choose_first _ _ rest arm first
  have bounded : settings.maxDepth.allow here.depth arm.location = .ok () := allowed
  have performs : Deed.Performs settings here statement rest _ _ _ := .branched rfl chooses bounded
  have started : Deed.start settings here statement rest before.world = _ :=
    (Deed.bind_done recorded).trans (Deed.perform_done performs)
  have launched : Deed.launch settings here line rest before.world = _ := (Deed.bind_done read).trans started
  obtain ⟨after, goes, _⟩ := goes_line before frame below line rest _ _ unobserved stands taking launched
  exact ⟨after, goes⟩

end

-- Of the clauses of an `if`, the first that holds is the one whose body is run, if there is one, and the
-- others have no part in it. The frame stands behind the whole `if` when it is done.
theorem branch_taken (settings : Settings σ) (before : Machine σ) (frame : Frame) (below : List Frame)
    (line : Line) (rest : Cursor) (predicate : Text) (unobserved : settings.Unobserved)
    (stands : before.stack = frame :: below) (taking : Cursor.next? frame.cursor = some (line, rest))
    (reading : Statement.read line = .ok ⟨line.location, .branch predicate⟩) :
    let statement : Statement := ⟨line.location, .branch predicate⟩
    let arms := armsFrom ⟨some predicate, line.location, []⟩ 0 rest
    (∀ after, Goes settings before after → ∃ choice, Selects (before.env frame) arms choice ∧
      Branches settings frame below statement before after choice) ∧
    (∀ arm, Selects (before.env frame) arms (some arm) → Recordable settings before frame →
      settings.maxDepth.allow (below.length + 1) arm.location = .ok () →
        ∃ after, Goes settings before after ∧
          Branches settings frame below statement before after (some arm)) ∧
    (∀ failure after, step settings before = (.error failure, after) →
      ∃ cursor, after.stack = frame.moved cursor :: below) ∧
    ∀ after, Completes settings (below.length + 1) before after → ∃ block left,
      Block.read BlockKind.branch.keyword line.location false rest = .ok (block, left) ∧
        after.stack = frame.moved left :: below := by
  intro statement arms
  have turns : ∀ after, Goes settings before after → ∃ choice, Selects (before.env frame) arms choice ∧
      Branches settings frame below statement before after choice :=
    fun after goes => picks_branches unobserved (goes_picks unobserved stands taking reading goes)
  refine ⟨turns, ?_, ?_, ?_⟩
  · intro arm chosen recordable allowed
    obtain ⟨after, goes⟩ := chosen_goes unobserved stands taking reading recordable allowed chosen
    obtain ⟨choice, first, branches⟩ := turns after goes
    rw [Block.selects_unique first chosen] at branches
    exact ⟨after, goes, branches⟩
  · intro failure after failed
    obtain ⟨actor, lower, deed, cursor, turn, _, stack⟩ :=
      fails_turn settings before after failure unobserved failed
    rw [stands] at turn
    rcases turn_top settings frame actor below lower deed turn with
      ⟨_, _, rfl, rfl, _, _⟩ | ⟨_, spent, _⟩
    · exact ⟨cursor, stack⟩
    · cases taking.symm.trans spent
  · intro after completes
    cases completes with
    | done goes level =>
        rcases picks_leaves unobserved (goes_picks unobserved stands taking reading goes) with left | ⟨deep, _⟩
        · exact left
        · exact absurd level (Nat.not_le_of_lt deep)
    | onward goes deep further =>
        rcases picks_leaves unobserved (goes_picks unobserved stands taking reading goes) with
          ⟨_, _, _, stack⟩ | ⟨_, ends⟩
        · rw [stack] at deep
          exact absurd deep (Nat.lt_irrefl _)
        · exact ends after further

def choosing : Text :=
  ("if 1 is 2 do\nprint a\nelse if 1 is 1 do\nif 1 is 2 do\nelse if 2 is 3\nend\nprint b\n" ++
   "else if oops do\nend\nprint z").toList

theorem branch_taken_second :
    let start := opening quiet choosing (fresh (.empty 5) ())
    let after := ahead quiet 4 start
    let frame := outermost quiet choosing
    let line := Line.ofRaw quiet.filename 1 "if 1 is 2 do".toList
    let rest := (Line.ofSource quiet.filename choosing).drop 1
    quiet.Unobserved ∧ start.stack = [frame] ∧ Cursor.next? frame.cursor = some (line, rest) ∧
      Statement.read line = .ok ⟨line.location, .branch "1 is 2".toList⟩ ∧ Completes quiet 1 start after ∧
      ((start.env frame).test "oops".toList).isOk = false ∧
      (∃ choice, Selects (start.env frame) (armsFrom ⟨some "1 is 2".toList, line.location, []⟩ 0 rest) choice ∧
        Branches quiet frame [] ⟨line.location, .branch "1 is 2".toList⟩ start (ahead quiet 1 start) choice) ∧
      ∃ block left, Block.read BlockKind.branch.keyword line.location false rest = .ok (block, left) ∧
        after.stack = [frame.moved left] := by
  intro start after frame line rest
  have turns : ∀ count, count < 4 → (step quiet (ahead quiet count start)).1 = .ok true := by
    decide +kernel
  have goes : ∀ count, count < 4 →
      Goes quiet (ahead quiet count start) (ahead quiet (count + 1) start) :=
    fun count bound => ahead_goes quiet count start (turns count bound)
  have higher : ∀ count, count < 3 → 1 < (ahead quiet (count + 1) start).stack.length := by
    decide +kernel
  have level : after.stack.length ≤ 1 := by decide +kernel
  have completes : Completes quiet 1 start after :=
    .onward (goes 0 (by decide)) (higher 0 (by decide)) (.onward (goes 1 (by decide))
      (higher 1 (by decide)) (.onward (goes 2 (by decide)) (higher 2 (by decide))
        (.done (goes 3 (by decide)) level)))
  have taking : Cursor.next? frame.cursor = some (line, rest) := by decide +kernel
  have reading : Statement.read line = .ok ⟨line.location, .branch "1 is 2".toList⟩ := by decide +kernel
  have untestable : ((start.env frame).test "oops".toList).isOk = false := by decide +kernel
  have taken := branch_taken quiet start frame [] line rest "1 is 2".toList quiet_unobserved rfl taking reading
  exact ⟨quiet_unobserved, rfl, taking, reading, completes, untestable, taken.1 _ (goes 0 (by decide)),
    taken.2.2.2 after completes⟩

end Machine
end BareBones
