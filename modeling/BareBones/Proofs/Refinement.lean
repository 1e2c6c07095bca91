import BareBones.Proofs.Course
import BareBones.Proofs.Nested

set_option autoImplicit false

namespace BareBones
namespace Nested

variable {σ α β : Type}

theorem lift_apply (deed : Deed α) (world : World) :
    (liftM deed : Nested α) world = some (deed world) := rfl

theorem nested_bind (first : Nested α) (next : α → Nested β) (world : World) :
    (first >>= next) world =
      match first world with
      | some (.ok a, after) => next a after
      | some (.error failure, after) => some (.error failure, after)
      | none => none := by
  change (first world).bind (fun done => ExceptT.bindCont next done.1 done.2) = _
  rcases first world with _ | ⟨result | result, after⟩ <;> rfl

theorem nested_bind_some (first : Nested α) (next : α → Nested β) (world : World)
    (done : Except Failure β × World) (computed : (first >>= next) world = some done) :
    (∃ a after, first world = some (.ok a, after) ∧ next a after = some done) ∨
      ∃ failure after, first world = some (.error failure, after) ∧ done = (.error failure, after) := by
  rw [nested_bind] at computed
  cases ran : first world with
  | none =>
      rw [ran] at computed
      cases computed
  | some middle =>
      rw [ran] at computed
      rcases middle with ⟨failure | a, after⟩
      · cases computed
        exact .inr ⟨failure, after, rfl, rfl⟩
      · exact .inl ⟨a, after, rfl, computed⟩

theorem lift_bind (first : Deed α) (next : α → Deed β) :
    (liftM (first >>= next) : Nested β) = liftM first >>= fun a => liftM (next a) := by
  funext world
  rw [nested_bind, lift_apply, lift_apply, effect_bind]
  rcases first world with ⟨result | result, after⟩ <;> rfl

theorem lift_pure (a : α) : (liftM (pure a : Deed α) : Nested α) = pure a := rfl

def finish (settings : Settings σ) (fuel : Nat) (here : Activation) (cursor : Cursor) :
    Option Resume → Nested Cursor
  | some (.loop statement predicate block) => do
      loop settings fuel here statement.location predicate block
      return cursor
  | some (.branch _ terminator) => do Deed.skip terminator cursor
  | some (.call _ _ _) | none => return cursor

def Loops (pending : Option Resume) : Prop :=
  ∃ statement predicate block, pending = some (.loop statement predicate block)

def outlast (settings : Settings σ) (fuel : Nat) (here : Activation) (cursor : Cursor)
    (body : Frame) : Nested Cursor := do
  lines settings fuel (body.activation (here.depth + 1)) body.cursor
  Deed.leave body.id
  finish settings fuel here cursor body.resume

-- A round of a loop runs one call deeper than any other body.
def spare (fuel : Nat) (body : Frame) : Nat :=
  match body.resume with
  | some (.loop _ _ _) => fuel - 1
  | _ => fuel

theorem spare_bounds (fuel : Nat) (body : Frame) :
    fuel - 1 ≤ spare fuel body ∧ spare fuel body ≤ fuel := by
  unfold spare
  split <;> omega

theorem spare_round (fuel : Nat) (body : Frame) (loops : Loops body.resume) :
    spare fuel body = fuel - 1 := by
  obtain ⟨statement, predicate, block, resumes⟩ := loops
  rw [spare, resumes]

def follow (settings : Settings σ) (fuel : Nat) (here : Activation) :
    Cursor × Option Frame → Nested Cursor
  | (cursor, none) => return cursor
  | (cursor, some body) => outlast settings (spare fuel body) here cursor body

theorem loop_follow (settings : Settings σ) (fuel : Nat) (here : Activation) (cursor : Cursor)
    (statement : Statement) (predicate : Text) (block : Block) :
    (do
      loop settings fuel here statement.location predicate block
      return cursor : Nested Cursor) = (do
      let next ← Deed.round settings here statement predicate block
      follow settings fuel here (cursor, next)) := by
  rw [loop]
  simp only [Deed.round, lift_bind, bind_assoc]
  congr 1
  funext holds
  cases holds with
  | false => rfl
  | true =>
      simp only [if_true, lift_bind, bind_assoc]
      congr 1
      funext body
      cases fuel with
      | zero => rfl
      | succ fuel =>
        simp only [lift_pure, pure_bind, follow, outlast, spare, finish, bind_assoc]
        rfl

theorem lines_follow (settings : Settings σ) (fuel : Nat) (here : Activation) (cursor rest : Cursor)
    (line : Line) (taking : Cursor.next? cursor = some (line, rest)) :
    lines settings (fuel + 1) here cursor = (do
      let next ← Deed.launch settings here line rest
      let cursor ← follow settings fuel here next
      lines settings fuel here cursor) := by
  rw [lines, taking]
  simp only [Deed.launch, Deed.start, Deed.perform, lift_bind, bind_assoc]
  congr 1
  funext statement
  congr 1
  funext _
  rcases statement with ⟨location, command⟩
  cases command with
  | define name =>
      simp only [lift_bind, bind_assoc, lift_pure, pure_bind, follow]
  | loop predicate =>
      simp only [lift_bind, bind_assoc, lift_pure, pure_bind]
      congr 1
      funext carved
      congr 1
      funext _
      have rounds := loop_follow settings fuel here carved.2 ⟨location, .loop predicate⟩ predicate
        carved.1
      have whole := congrArg (fun first => first >>= fun next => lines settings fuel here next) rounds
      simpa only [bind_assoc, pure_bind] using whole
  | branch predicate =>
      simp only [lift_bind, bind_assoc]
      congr 1
      funext chosen
      rcases chosen with ⟨_ | ⟨block, clause⟩, rest⟩
      · rfl
      · simp only [lift_bind, bind_assoc, lift_pure, pure_bind, follow, outlast, spare, finish]
        rfl
  | call name arguments =>
      simp only [lift_bind, bind_assoc, lift_pure, pure_bind, follow, outlast, spare, finish]
      rfl
  | clear name => simp only [lift_bind, bind_assoc, lift_pure, pure_bind, follow]
  | _ => simp only [lift_bind, bind_assoc, lift_pure, pure_bind, follow]

theorem finish_follow (settings : Settings σ) (fuel : Nat) (here : Activation) (cursor : Cursor)
    (pending : Option Resume) :
    finish settings fuel here cursor pending = (do
      let next ← Deed.complete settings here cursor pending
      follow settings fuel here next) := by
  rcases pending with _ | _ | _ | _
  · rfl
  · simp only [finish, Deed.complete, lift_bind, bind_assoc, lift_pure, pure_bind]
    exact loop_follow ..
  · simp only [finish, Deed.complete, lift_bind, bind_assoc, lift_pure, pure_bind, follow, bind_pure]
  · rfl

theorem leave_first (id : Nat) (next : Deed α) (world : World) :
    (Deed.leave id >>= fun _ => next) world =
      next { world with journal := world.journal.forget id } := rfl

theorem complete_spawns (settings : Settings σ) (here : Activation) (cursor rest : Cursor)
    (pending : Option Resume) (body : Frame) (world after : World)
    (answered : Deed.complete settings here cursor pending world = (.ok (rest, some body), after)) :
    Loops pending := by
  rcases pending with _ | ⟨statement, predicate, block⟩ | ⟨statement, terminator⟩ | _
  · cases answered
  · exact ⟨statement, predicate, block, rfl⟩
  · simp only [Deed.complete, effect_bind] at answered
    split at answered
    · cases answered
    · cases answered
  · cases answered

section

variable {settings : Settings σ}

def Arrives (settings : Settings σ) (machine : Machine σ) (meets : α → List Frame → Prop) :
    Except Failure α × World → Prop
  | (.ok a, world) =>
      ∃ after, machine.Reaches settings after ∧ after.world = world ∧ meets a after.stack
  | (.error failure, world) =>
      ∃ last after, machine.Reaches settings last ∧
        Machine.step settings last = (.error failure, after) ∧ after.world = world

theorem arrives_after {machine next : Machine σ} {meets : α → List Frame → Prop}
    {done : Except Failure α × World} (path : machine.Reaches settings next)
    (arrives : Arrives settings next meets done) : Arrives settings machine meets done := by
  rcases done with ⟨failure | a, world⟩
  · obtain ⟨last, after, further, failed, same⟩ := arrives
    exact ⟨last, after, path.trans further, failed, same⟩
  · obtain ⟨after, further, same, met⟩ := arrives
    exact ⟨after, path.trans further, same, met⟩

def Spent (frame : Frame) (below stack : List Frame) : Prop :=
  ∃ cursor, stack = frame.moved cursor :: below ∧ Cursor.next? cursor = none

def LinesArrive (settings : Settings σ) (fuel : Nat) : Prop :=
  ∀ (machine : Machine σ) (frame : Frame) (below : List Frame) (done : Except Failure Unit × World),
    machine.stack = frame :: below →
    lines settings fuel (frame.activation (below.length + 1)) frame.cursor machine.world = some done →
    Arrives settings machine (fun _ stack => Spent frame below stack) done

def FollowArrives (settings : Settings σ) (fuel : Nat) : Prop :=
  ∀ (machine : Machine σ) (frame : Frame) (below : List Frame) (next : Cursor × Option Frame)
    (done : Except Failure Cursor × World),
    machine.stack = next.2.toList ++ frame.moved next.1 :: below →
    follow settings fuel (frame.activation (below.length + 1)) next machine.world = some done →
    Arrives settings machine (fun cursor stack => stack = frame.moved cursor :: below) done

theorem follow_none_arrives (fuel : Nat) (machine : Machine σ) (frame : Frame) (below : List Frame)
    (cursor : Cursor) (done : Except Failure Cursor × World)
    (stands : machine.stack = frame.moved cursor :: below)
    (computed : follow settings fuel (frame.activation (below.length + 1)) (cursor, none)
      machine.world = some done) :
    Arrives settings machine (fun cursor stack => stack = frame.moved cursor :: below) done := by
  cases computed
  exact ⟨machine, .refl, rfl, stands⟩

theorem outlast_arrives (fuel : Nat) (machine : Machine σ) (frame body : Frame)
    (below : List Frame) (cursor : Cursor) (done : Except Failure Cursor × World)
    (unobserved : settings.Unobserved) (linesArrive : LinesArrive settings fuel)
    (followArrives : Loops body.resume → FollowArrives settings fuel)
    (stands : machine.stack = body :: frame.moved cursor :: below)
    (computed : outlast settings fuel (frame.activation (below.length + 1)) cursor body
      machine.world = some done) :
    Arrives settings machine (fun cursor stack => stack = frame.moved cursor :: below) done := by
  unfold outlast at computed
  rw [finish_follow, ← bind_assoc (liftM (Deed.leave body.id) : Nested Unit), ← lift_bind] at computed
  rcases nested_bind_some _ _ _ _ computed with ⟨_, world, ran, left⟩ | ⟨failure, world, ran, rfl⟩
  · obtain ⟨spent, path, rfl, last, stack, taken⟩ :=
      linesArrive machine body (frame.moved cursor :: below) _ stands ran
    apply arrives_after path
    have returned := Machine.step_return settings spent (body.moved last) (frame.moved cursor) below
      (Machine.unobserved_discreet unobserved) stack taken
    rw [nested_bind, lift_apply] at left
    change Machine.Outcomes _ _ _ _ _ (Deed.complete settings (frame.activation (below.length + 1)) cursor
      body.resume { spent.world with journal := spent.world.journal.forget body.id }) at returned
    rw [leave_first] at left
    generalize stepped : Machine.step settings spent = left, completed : Deed.complete settings _ _ _ _ =
      expected at returned left
    cases returned with
    | @answered going next after met =>
        obtain ⟨rfl, stack⟩ := met
        apply arrives_after (.single stepped)
        rcases next with ⟨rest, _ | body⟩
        · exact follow_none_arrives fuel after frame below rest done stack left
        · have loops := complete_spawns settings _ _ _ _ _ _ _ completed
          exact followArrives loops after frame below _ done stack left
    | @failed failure after moved stack =>
        cases left
        exact ⟨spent, after, .refl, stepped, rfl⟩
  · exact linesArrive machine body (frame.moved cursor :: below) _ stands ran

theorem lines_arrive (fuel : Nat) (unobserved : settings.Unobserved)
    (linesArrive : LinesArrive settings fuel) (followArrives : FollowArrives settings fuel) :
    LinesArrive settings (fuel + 1) := by
  intro machine frame below done stands computed
  cases taking : Cursor.next? frame.cursor with
  | none =>
      rw [lines, taking] at computed
      cases computed
      exact ⟨machine, .refl, rfl, frame.cursor, stands, taking⟩
  | some taken =>
      obtain ⟨line, rest⟩ := taken
      rw [lines_follow settings fuel _ _ rest line taking, nested_bind, lift_apply] at computed
      have launched := Machine.step_line settings machine frame below line rest
        (Machine.unobserved_discreet unobserved) stands taking
      generalize stepped : Machine.step settings machine = outcome,
        Deed.launch settings _ line rest machine.world = expected at launched computed
      cases launched with
      | @answered going next after met =>
          obtain ⟨rfl, stack⟩ := met
          apply arrives_after (.single stepped)
          rcases nested_bind_some _ _ _ _ computed with ⟨cursor, world, ran, left⟩ |
            ⟨failure, world, ran, rfl⟩
          · obtain ⟨followed, path, rfl, stack⟩ := followArrives after frame below next _ stack ran
            exact arrives_after path (linesArrive followed (frame.moved cursor) below done stack left)
          · exact followArrives after frame below next _ stack ran
      | @failed failure after moved stack =>
          cases computed
          exact ⟨machine, after, .refl, stepped, rfl⟩

theorem follow_arrives (fuel : Nat) (unobserved : settings.Unobserved)
    (linesArrive : ∀ less, less ≤ fuel → LinesArrive settings less)
    (followArrives : ∀ less, less < fuel → FollowArrives settings less) :
    FollowArrives settings fuel := by
  intro machine frame below next done stands computed
  rcases next with ⟨cursor, _ | body⟩
  · exact follow_none_arrives fuel machine frame below cursor done stands computed
  · rw [follow] at computed
    cases fuel with
    | zero =>
        have empty : spare 0 body = 0 := Nat.le_zero.mp (spare_bounds 0 body).2
        rw [empty] at computed
        cases computed
    | succ fuel =>
        have lines := linesArrive (spare (fuel + 1) body) (spare_bounds (fuel + 1) body).2
        -- A round runs on less fuel than the loop, so that the next round may be taken as followed.
        have rounds : Loops body.resume → FollowArrives settings (spare (fuel + 1) body) := by
          intro loops
          rw [spare_round (fuel + 1) body loops]
          exact followArrives fuel (Nat.lt_succ_self fuel)
        exact outlast_arrives _ machine frame body below cursor done unobserved lines rounds stands
          computed

theorem recursion_arrives (unobserved : settings.Unobserved) (fuel : Nat) :
    LinesArrive settings fuel ∧ FollowArrives settings fuel := by
  induction fuel using Nat.strongRecOn with
  | ind fuel ih =>
      have linesArrive : LinesArrive settings fuel := by
        cases fuel with
        | zero =>
            intro machine frame below done stands computed
            cases computed
        | succ fuel =>
            obtain ⟨linesArrive, followArrives⟩ := ih fuel (Nat.lt_succ_self fuel)
            exact lines_arrive fuel unobserved linesArrive followArrives
      have upToFuel : ∀ less, less ≤ fuel → LinesArrive settings less := by
        intro less bound
        rcases Nat.lt_or_eq_of_le bound with lower | rfl
        · exact (ih less lower).1
        · exact linesArrive
      have followArrives : FollowArrives settings fuel :=
        follow_arrives fuel unobserved upToFuel fun less lower => (ih less lower).2
      exact ⟨linesArrive, followArrives⟩

inductive Answers (settings : Settings σ) (count : Nat) (ending : Machine.Ending σ)
    (meets : α → List Frame → Prop) : Option (Except Failure α × World) → Prop
  | answered {a : α} {after : Machine σ} (less : Nat) (bound : less ≤ count)
      (met : meets a after.stack) (driven : Machine.drive settings less after = some ending) :
      Answers settings count ending meets (some (.ok a, after.world))
  | failed {failure : Failure} {after : Machine σ} (ends : ending = (.error failure, after)) :
      Answers settings count ending meets (some (.error failure, after.world))

theorem answers_bind {count more : Nat} {ending : Machine.Ending σ} {link : α → List Frame → Prop}
    {meets : β → List Frame → Prop} {first : Nested α} {next : α → Nested β} {world : World}
    (answers : Answers settings count ending link (first world))
    (goesOn : ∀ a after less, less ≤ count → link a (Machine.stack after) →
      Machine.drive settings less after = some ending →
      Answers settings more ending meets (next a after.world)) :
    Answers settings more ending meets ((first >>= next) world) := by
  rw [nested_bind]
  generalize first world = done at answers
  cases answers with
  | answered less bound met driven => exact goesOn _ _ less bound met driven
  | failed ends => exact .failed ends

theorem answers_more {count more : Nat} {ending : Machine.Ending σ} {meets : α → List Frame → Prop}
    {done : Option (Except Failure α × World)} (bound : count ≤ more)
    (answers : Answers settings count ending meets done) : Answers settings more ending meets done := by
  cases answers with
  | answered less lower met driven => exact .answered less (Nat.le_trans lower bound) met driven
  | failed ends => exact .failed ends

theorem answers_step {count : Nat} {ending : Machine.Ending σ} {meets : α → List Frame → Prop}
    {machine : Machine σ} {frame : Frame} {below : List Frame} {deed : Deed (Cursor × Option Frame)}
    {next : Cursor × Option Frame → Nested α} {world : World}
    (stepped : Machine.Outcomes id frame below (Machine.Going frame below)
      (Machine.step settings machine) (deed world))
    (driven : Machine.drive settings (count + 1) machine = some ending)
    (goesOn : ∀ carried after,
      Machine.stack after = carried.2.toList ++ frame.moved carried.1 :: below →
      Machine.drive settings count after = some ending →
      Answers settings count ending meets (next carried after.world)) :
    Answers settings count ending meets ((liftM deed >>= next : Nested α) world) := by
  rw [nested_bind, lift_apply]
  rw [Machine.drive] at driven
  generalize Machine.step settings machine = outcome, deed world = expected at stepped driven
  cases stepped with
  | answered met =>
      obtain ⟨rfl, stack⟩ := met
      exact goesOn _ _ stack driven
  | failed moved stack =>
      cases driven
      exact .failed rfl

-- Two calls for each turn suffice, one for the line and one for a round of a loop.
def LinesAnswer (settings : Settings σ) (count : Nat) : Prop :=
  ∀ (machine : Machine σ) (frame : Frame) (below : List Frame) (ending : Machine.Ending σ) (fuel : Nat),
    machine.stack = frame :: below → Machine.drive settings count machine = some ending →
    2 * count ≤ fuel →
    Answers settings count ending (fun _ stack => Spent frame below stack)
      (lines settings fuel (frame.activation (below.length + 1)) frame.cursor machine.world)

def FollowAnswers (settings : Settings σ) (count : Nat) : Prop :=
  ∀ (machine : Machine σ) (frame : Frame) (below : List Frame) (next : Cursor × Option Frame)
    (ending : Machine.Ending σ) (fuel : Nat),
    machine.stack = next.2.toList ++ frame.moved next.1 :: below →
    Machine.drive settings count machine = some ending → 2 * count + 1 ≤ fuel →
    Answers settings count ending (fun cursor stack => stack = frame.moved cursor :: below)
      (follow settings fuel (frame.activation (below.length + 1)) next machine.world)

theorem lines_answer (count : Nat) (unobserved : settings.Unobserved)
    (linesAnswer : ∀ less, less ≤ count → LinesAnswer settings less)
    (followAnswers : FollowAnswers settings count) : LinesAnswer settings (count + 1) := by
  intro machine frame below ending fuel stands driven enough
  obtain ⟨fuel, rfl⟩ : ∃ less, fuel = less + 1 := ⟨fuel - 1, by omega⟩
  cases taking : Cursor.next? frame.cursor with
  | none =>
      rw [lines, taking]
      exact .answered (count + 1) (Nat.le_refl _) ⟨frame.cursor, stands, taking⟩ driven
  | some taken =>
      obtain ⟨line, rest⟩ := taken
      rw [lines_follow settings fuel _ _ rest line taking]
      have launched := Machine.step_line settings machine frame below line rest
        (Machine.unobserved_discreet unobserved) stands taking
      refine answers_more (Nat.le_succ count) (answers_step launched driven ?_)
      intro next after stack driven
      have spared : 2 * count + 1 ≤ fuel := by omega
      apply answers_bind (followAnswers after frame below next ending fuel stack driven spared)
      intro cursor followed less bound stack driven
      have left : 2 * less ≤ fuel := by omega
      apply answers_more bound
      exact linesAnswer less bound followed (frame.moved cursor) below ending fuel stack driven left

theorem outlast_answers (count fuel : Nat) (machine : Machine σ) (frame body : Frame)
    (below : List Frame) (cursor : Cursor) (ending : Machine.Ending σ)
    (unobserved : settings.Unobserved) (linesAnswer : LinesAnswer settings count)
    (followAnswers : ∀ less, less < count → FollowAnswers settings less)
    (stands : machine.stack = body :: frame.moved cursor :: below)
    (driven : Machine.drive settings count machine = some ending) (enough : 2 * count ≤ fuel) :
    Answers settings count ending (fun cursor stack => stack = frame.moved cursor :: below)
      (outlast settings fuel (frame.activation (below.length + 1)) cursor body machine.world) := by
  unfold outlast
  rw [finish_follow, ← bind_assoc (liftM (Deed.leave body.id) : Nested Unit), ← lift_bind]
  refine answers_bind
    (linesAnswer machine body (frame.moved cursor :: below) ending fuel stands driven enough) ?_
  rintro _ spent less bound ⟨last, stack, taken⟩ driven
  have returned := Machine.step_return settings spent (body.moved last) (frame.moved cursor) below
    (Machine.unobserved_discreet unobserved) stack taken
  cases less with
  | zero => cases driven
  | succ less =>
      refine answers_more (Nat.le_of_succ_le bound) (answers_step returned driven ?_)
      intro next after stack driven
      have spared : 2 * less + 1 ≤ fuel := by omega
      exact followAnswers less bound after frame below next ending fuel stack driven spared

theorem follow_answers (count : Nat) (unobserved : settings.Unobserved)
    (linesAnswer : LinesAnswer settings count)
    (followAnswers : ∀ less, less < count → FollowAnswers settings less) :
    FollowAnswers settings count := by
  intro machine frame below next ending fuel stands driven enough
  rcases next with ⟨cursor, _ | body⟩
  · exact .answered count (Nat.le_refl count) stands driven
  · have spared := (spare_bounds fuel body).1
    have enough : 2 * count ≤ spare fuel body := by omega
    exact outlast_answers count _ machine frame body below cursor ending unobserved linesAnswer
      followAnswers stands driven enough

theorem recursion_answers (unobserved : settings.Unobserved) (count : Nat) :
    LinesAnswer settings count ∧ FollowAnswers settings count := by
  induction count using Nat.strongRecOn with
  | ind count ih =>
      have linesAnswer : LinesAnswer settings count := by
        cases count with
        | zero =>
            intro machine frame below ending fuel stands driven
            cases driven
        | succ count =>
            exact lines_answer count unobserved (fun less bound => (ih less (Nat.lt_succ_of_le bound)).1)
              (ih count (Nat.lt_succ_self count)).2
      have followAnswers : FollowAnswers settings count :=
        follow_answers count unobserved linesAnswer fun less lower => (ih less lower).2
      exact ⟨linesAnswer, followAnswers⟩

end

end Nested

def Diverges {α : Type} (compute : Nat → Option α) : Prop :=
  ∀ fuel, compute fuel = none

def Yields {α : Type} (compute : Nat → Option α) (done : α) : Prop :=
  (∃ enough, ∀ fuel, enough ≤ fuel → compute fuel = some done) ∧
    ∀ fuel other, compute fuel = some other → other = done

theorem yields_of_more {α : Type} (compute : Nat → Option α) (fuel : Nat) (done : α)
    (kept : ∀ less more done, less ≤ more → compute less = some done → compute more = some done)
    (computed : compute fuel = some done) : Yields compute done := by
  refine ⟨⟨fuel, fun more bound => kept fuel more done bound computed⟩, ?_⟩
  intro other found answered
  have whole := kept fuel (max fuel other) done (Nat.le_max_left ..) computed
  rw [kept other (max fuel other) found (Nat.le_max_right ..) answered] at whole
  exact Option.some.inj whole

namespace Machine

variable {σ : Type}

theorem run_more (settings : Settings σ) (source : Text) (machine : Machine σ)
    (unobserved : settings.Unobserved) (less more : Nat) (ending : Ending σ) (bound : less ≤ more)
    (ran : run settings less source machine = some ending) :
    run settings more source machine = some ending := by
  rw [run_unobserved settings _ _ _ unobserved] at ran ⊢
  obtain ⟨driven, drives, rfl⟩ := Option.map_eq_some_iff.mp ran
  rw [drive_more settings less more _ driven bound drives]
  rfl

end Machine
end BareBones
