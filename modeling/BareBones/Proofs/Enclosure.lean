import BareBones.Proofs.Layering

set_option autoImplicit false

namespace BareBones

namespace Store

theorem stored_bound {here : Path} {spawns : Bool} {before after : Store} (place : Path)
    (stored : Stored here spawns before after) (outside : spawns = true ∨ here ≠ place)
    (present : (before.scopeAt? place).isSome) : after.bound? place = before.bound? place := by
  have apart : spawns = false → here ≠ place := by
    rintro rfl
    exact outside.resolve_left Bool.false_ne_true
  cases stored with
  | kept => rfl
  | entered label => exact enter_bound before _ place present
  | written name value plain => exact write_bound before here place name value (apart plain)
  | defined name block plain => exact define_bound before here place name block (apart plain)

end Store

namespace Machine

variable {σ : Type} {settings : Settings σ}

theorem stacked_deeper {world : World} {stack : List Frame} (stacked : Stacked settings world stack) :
    stack.Pairwise fun above below => below.path.length < above.path.length := by
  induction stacked with
  | program frame _ _ _ _ _ _ _ => exact List.pairwise_singleton _ frame
  | body body caller below _ path _ _ _ _ _ ih =>
      have deeper : caller.path.length < body.path.length := by
        rw [path, List.length_append]
        exact Nat.lt_succ_self _
      refine List.pairwise_cons.mpr ⟨?_, ih⟩
      intro lower member
      rcases List.mem_cons.mp member with rfl | further
      · exact deeper
      · exact Nat.lt_trans ((List.pairwise_cons.mp ih).1 lower further) deeper

theorem stacked_suffix {world : World} {above stack : List Frame} (proper : stack ≠ [])
    (stacked : Stacked settings world (above ++ stack)) : Stacked settings world stack := by
  induction above with
  | nil => exact stacked
  | cons frame above ih =>
      cases rest : above ++ stack with
      | nil => exact absurd (List.append_eq_nil_iff.mp rest).2 proper
      | cons caller below =>
          rw [List.cons_append, rest] at stacked
          rw [rest] at ih
          exact ih (stacked_tail stacked)

theorem stacked_reaches {world : World} {frame : Frame} {below : List Frame} (place : Path)
    (stacked : Stacked settings world (frame :: below)) (leads : place <+: frame.path) :
    (world.store.scopeAt? place).isSome := by
  by_cases root : place = []
  · rw [root]
    rfl
  · have member := Path.chain_member frame.path place root leads
    rw [stacked_chain stacked] at member
    obtain ⟨live, found, rfl⟩ := List.mem_map.mp member
    exact stacked_present stacked found

theorem above_deeper {world : World} {above below : List Frame} {actor frame : Frame} (place : Path)
    (stacked : Stacked settings world (actor :: (above ++ frame :: below)))
    (leads : place <+: frame.path) : actor.path ≠ place := by
  have member : frame ∈ above ++ frame :: below := List.mem_append_right _ List.mem_cons_self
  have deeper := (List.pairwise_cons.mp (stacked_deeper stacked)).1 frame member
  rintro rfl
  exact Nat.lt_irrefl _ (Nat.lt_of_lt_of_le deeper leads.length_le)

def Within (frame : Frame) (below : List Frame) (before after : Machine σ) (upper : List Frame)
    (cursor : Cursor) : Prop :=
  after.stack = upper ++ frame.moved cursor :: below ∧
    ∀ place, place <+: frame.path → after.store.bound? place = before.store.bound? place

theorem goes_above {before after : Machine σ} {above below : List Frame} {frame : Frame}
    (unobserved : settings.Unobserved) (goes : Goes settings before after) (proper : above ≠ [])
    (standing : Standing settings before.world before.stack)
    (stands : before.stack = above ++ frame :: below) :
    ∃ upper cursor, Within frame below before after upper cursor := by
  obtain ⟨actor, lower, deed, next, turn, done, stack⟩ :=
    goes_turn settings before after unobserved goes
  have stacked := standing.stacked
  rw [stands] at turn stacked
  have present : ∀ place, place <+: frame.path → (before.store.scopeAt? place).isSome :=
    fun place leads => stacked_reaches place (stacked_suffix (List.cons_ne_nil _ _) stacked) leads
  cases above with
  | nil => exact absurd rfl proper
  | cons top rest =>
      rcases turn_top settings top actor (rest ++ frame :: below) lower deed turn with
        ⟨line, left, rfl, rfl, _, rfl⟩ | ⟨same, _, rfl⟩
      · obtain ⟨_, statement, _, footprint⟩ :=
          Deed.ensures_answered (Deed.launch_footprint settings _ line left before.world) done
        refine ⟨next.2.toList ++ actor.moved next.1 :: rest, frame.cursor, ?_, ?_⟩
        · rw [stack, List.append_assoc]
          rfl
        · intro place leads
          exact Store.stored_bound place footprint.stored (.inr (above_deeper place stacked leads))
            (present place leads)
      · rw [List.cons_append, same] at stacked
        obtain ⟨store, _, _⟩ := Deed.ensures_answered (return_footprint _ stacked) done
        have kept : ∀ place, place <+: frame.path →
            after.store.bound? place = before.store.bound? place := by
          intro place _
          change after.store = before.store at store
          rw [store]
        cases rest with
        | nil =>
            cases same
            exact ⟨next.2.toList, next.1, stack, kept⟩
        | cons caller rest =>
            cases same
            refine ⟨next.2.toList ++ actor.moved next.1 :: rest, frame.cursor, ?_, kept⟩
            rw [stack, List.append_assoc]
            rfl

inductive Completes (settings : Settings σ) (height : Nat) : Machine σ → Machine σ → Prop
  | done {before after : Machine σ} (goes : Goes settings before after)
      (level : after.stack.length ≤ height) : Completes settings height before after
  | onward {before middle after : Machine σ} (goes : Goes settings before middle)
      (deep : height < middle.stack.length) (rest : Completes settings height middle after) :
      Completes settings height before after

theorem within_level {before after : Machine σ} {upper below : List Frame} {frame : Frame}
    {cursor : Cursor} (within : Within frame below before after upper cursor)
    (level : after.stack.length ≤ below.length + 1) :
    ∃ cursor, Within frame below before after [] cursor := by
  cases upper with
  | nil => exact ⟨cursor, within⟩
  | cons top upper =>
      rw [within.1] at level
      simp only [List.length_append, List.length_cons] at level
      omega

theorem within_onward {before middle after : Machine σ} {upper below : List Frame} {frame : Frame}
    {cursor : Cursor} (within : Within frame below before middle upper cursor)
    (deep : below.length + 1 < middle.stack.length)
    (rest : upper ≠ [] → ∃ last, Within (frame.moved cursor) below middle after [] last) :
    ∃ cursor, Within frame below before after [] cursor := by
  have higher : upper ≠ [] := by
    rintro rfl
    rw [within.1] at deep
    exact Nat.lt_irrefl _ deep
  obtain ⟨last, stack, later⟩ := rest higher
  exact ⟨last, stack, fun place leads => (later place leads).trans (within.2 place leads)⟩

-- The induction is on the turns, and a frame below others is what each of them keeps.
theorem completes_above {before after : Machine σ} {above below : List Frame} {frame : Frame}
    (unobserved : settings.Unobserved) (proper : above ≠ [])
    (standing : Standing settings before.world before.stack)
    (stands : before.stack = above ++ frame :: below)
    (completes : Completes settings (below.length + 1) before after) :
    ∃ cursor, Within frame below before after [] cursor := by
  induction completes generalizing above frame with
  | done goes level =>
      obtain ⟨upper, cursor, within⟩ := goes_above unobserved goes proper standing stands
      exact within_level within level
  | onward goes deep _ ih =>
      obtain ⟨upper, cursor, within⟩ := goes_above unobserved goes proper standing stands
      refine within_onward within deep fun higher => ?_
      exact ih higher (goes_standing unobserved goes standing).1 within.1

structure Executes (settings : Settings σ) (frame : Frame) (below : List Frame) (statement : Statement)
    (before after : Machine σ) : Prop where
  stands : before.stack = frame :: below
  reads : ∃ line rest, Cursor.next? frame.cursor = some (line, rest) ∧
    Statement.read line = .ok statement
  completes : Completes settings before.stack.length before after

theorem goes_spawning {before after : Machine σ} {frame : Frame} {below : List Frame}
    {statement : Statement} {line : Line} {rest : Cursor} (unobserved : settings.Unobserved)
    (goes : Goes settings before after) (spawns : statement.command.spawns = true)
    (standing : Standing settings before.world before.stack) (stands : before.stack = frame :: below)
    (taking : Cursor.next? frame.cursor = some (line, rest))
    (reading : Statement.read line = .ok statement) :
    ∃ upper cursor, Within frame below before after upper cursor := by
  obtain ⟨actor, lower, deed, next, turn, done, stack⟩ :=
    goes_turn settings before after unobserved goes
  have stacked := standing.stacked
  rw [stands] at turn stacked
  rcases turn_top settings frame actor below lower deed turn with
    ⟨found, left, rfl, rfl, taken, rfl⟩ | ⟨_, spent, _⟩
  · rw [taking] at taken
    cases taken
    obtain ⟨_, other, read, footprint⟩ :=
      Deed.ensures_answered (Deed.launch_footprint settings _ line rest before.world) done
    rw [reading] at read
    cases read
    refine ⟨next.2.toList, next.1, stack, ?_⟩
    intro place leads
    exact Store.stored_bound place footprint.stored (.inl spawns)
      (stacked_reaches place stacked leads)
  · rw [taking] at spent
    cases spent

-- A loop, a branch or a call that is carried out to its end binds no variable and no function in the scope
-- of its frame or in one around it, and none comes into sight there.
theorem executes_enclosed (settings : Settings σ) (source : Text) (capacity : Nat) (host : σ)
    (before after : Machine σ) (frame : Frame) (below : List Frame) (statement : Statement)
    (unobserved : settings.Unobserved)
    (path : Reaches settings (opening settings source (fresh (.empty capacity) host)) before)
    (spawns : statement.command.spawns = true)
    (executes : Executes settings frame below statement before after) :
    (∃ cursor, after.stack = frame.moved cursor :: below) ∧
      (∀ place, place <+: frame.path → after.store.bound? place = before.store.bound? place) ∧
      ∀ name, after.store.isDefined frame.path name = before.store.isDefined frame.path name ∧
        after.store.function? frame.path name = before.store.function? frame.path name := by
  obtain ⟨stands, ⟨line, rest, taking, reading⟩, completes⟩ := executes
  have standing := (reaches_standing unobserved path
    (opening_standing settings source capacity host)).1
  have restored : ∃ cursor, Within frame below before after [] cursor := by
    rw [stands, List.length_cons] at completes
    cases completes with
    | done goes level =>
        obtain ⟨upper, cursor, within⟩ :=
          goes_spawning unobserved goes spawns standing stands taking reading
        exact within_level within level
    | onward goes deep onward =>
        obtain ⟨upper, cursor, within⟩ :=
          goes_spawning unobserved goes spawns standing stands taking reading
        refine within_onward within deep fun higher => ?_
        exact completes_above unobserved higher (goes_standing unobserved goes standing).1 within.1 onward
  obtain ⟨cursor, stack, kept⟩ := restored
  exact ⟨⟨cursor, stack⟩, kept, fun name =>
    Store.bound_visible before.store after.store frame.path name kept⟩

def ahead (settings : Settings σ) : Nat → Machine σ → Machine σ
  | 0, machine => machine
  | count + 1, machine => (step settings (ahead settings count machine)).2

theorem ahead_goes (settings : Settings σ) (count : Nat) (machine : Machine σ)
    (turns : (step settings (ahead settings count machine)).1 = .ok true) :
    Goes settings (ahead settings count machine) (ahead settings (count + 1) machine) :=
  Prod.ext turns rfl

theorem executes_enclosed_call :
    let start := opening quiet calling (fresh (.empty 5) ())
    let before := ahead quiet 2 start
    let after := ahead quiet 6 start
    let frame := (outermost quiet calling).moved ((Line.ofSource quiet.filename calling).drop 5)
    let statement : Statement :=
      ⟨⟨"f.bb".toList, 6, "f a".toList⟩, .call "f".toList ["a".toList]⟩
    quiet.Unobserved ∧ Reaches quiet start before ∧ statement.command.spawns = true ∧
      Executes quiet frame [] statement before after ∧
      after.store.isDefined frame.path "Y".toList = false := by
  intro start before after frame statement
  have turns : ∀ count, count < 6 → (step quiet (ahead quiet count start)).1 = .ok true := by
    decide +kernel
  have goes : ∀ count, count < 6 →
      Goes quiet (ahead quiet count start) (ahead quiet (count + 1) start) :=
    fun count bound => ahead_goes quiet count start (turns count bound)
  have higher : ∀ count, count < 3 → 1 < (ahead quiet (count + 3) start).stack.length := by
    decide +kernel
  have path : Reaches quiet start before :=
    (Relation.ReflTransGen.single (goes 0 (by decide))).tail (goes 1 (by decide))
  have stands : before.stack = [frame] := by decide +kernel
  have level : after.stack.length ≤ 1 := by decide +kernel
  have executes : Executes quiet frame [] statement before after := by
    refine ⟨stands, ⟨⟨⟨"f.bb".toList, 6, "f a".toList⟩, "f a".toList⟩, [], ?_, ?_⟩, ?_⟩
    · decide +kernel
    · decide +kernel
    · rw [stands]
      exact .onward (goes 2 (by decide)) (higher 0 (by decide)) (.onward (goes 3 (by decide))
        (higher 1 (by decide)) (.onward (goes 4 (by decide)) (higher 2 (by decide))
          (.done (goes 5 (by decide)) level)))
  have enclosed := executes_enclosed quiet calling 5 () before after frame [] statement
    quiet_unobserved path rfl executes
  have unbound : before.store.isDefined frame.path "Y".toList = false := by decide +kernel
  exact ⟨quiet_unobserved, path, rfl, executes, (enclosed.2.2 _).1.trans unbound⟩

end Machine
end BareBones
