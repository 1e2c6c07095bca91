import BareBones.Proofs.Course
import BareBones.Proofs.Footprint

set_option autoImplicit false

namespace BareBones

theorem Text.padded_injective (width first second : Nat)
    (same : Text.padded width first = Text.padded width second) : first = second := by
  have value : ∀ n, Nat.ofDigitChars 10 (Text.padded width n) 0 = n := by
    intro n
    rw [Text.padded, Nat.ofDigitChars_append, Nat.ofDigitChars_replicate_zero, Nat.mul_zero]
    exact Nat.ofDigitChars_ten_toDigits
  rw [← value first, same, value]

theorem Frame.describeId_injective (first second : Nat)
    (same : Frame.describeId first = Frame.describeId second) : first = second :=
  Text.padded_injective 4 first second (List.append_cancel_left same)

namespace Machine

variable {σ : Type} {settings : Settings σ}

-- How the frames of a stack stand on one another, the program at the bottom.
inductive Stacked (settings : Settings σ) (world : World) : List Frame → Prop
  | program (frame : Frame) (name : frame.name = settings.program)
      (path : frame.path = [settings.program]) (arguments : frame.arguments = settings.arguments)
      (first : frame.id = 0) (resumes : frame.resume = none) (created : 0 < world.created)
      (present : (world.store.scopeAt? frame.path).isSome) : Stacked settings world [frame]
  | body (body caller : Frame) (below : List Frame) (stacked : Stacked settings world (caller :: below))
      (path : body.path = caller.path ++ [body.name])
      (present : (world.store.scopeAt? body.path).isSome) (older : caller.id < body.id)
      (created : body.id < world.created)
      (allowed : ∃ location, settings.maxDepth.allow (below.length + 1) location = .ok ())
      (serves : body.Serves caller.arguments) : Stacked settings world (body :: caller :: below)

structure Standing (settings : Settings σ) (world : World) (stack : List Frame) : Prop where
  stacked : Stacked settings world stack
  latest : ∀ id ∈ world.journal.latest.keys, id ∈ stack.map (·.id)

structure Grows (before after : World) : Prop where
  scopes : ∀ path, (before.store.scopeAt? path).isSome → (after.store.scopeAt? path).isSome
  created : before.created ≤ after.created

theorem stored_grows {path : Path} {spawns : Bool} {before after : Store}
    (stored : Stored path spawns before after) (query : Path)
    (present : (before.scopeAt? query).isSome) : (after.scopeAt? query).isSome := by
  have changed : ∀ change place, ((before.update change place).scopeAt? query).isSome := by
    intro change place
    rw [Store.scope_at_update]
    split
    · rwa [Option.isSome_map]
    · exact present
  cases stored with
  | kept => exact present
  | entered label =>
      obtain ⟨scope, here⟩ := Option.isSome_iff_exists.mp present
      rw [Store.scope_at_enter_kept before _ query scope here]
      rfl
  | written name value => exact changed _ _
  | defined name block => exact changed _ _

theorem stacked_grows {before after : World} {stack : List Frame} (grows : Grows before after)
    (stacked : Stacked settings before stack) : Stacked settings after stack := by
  induction stacked with
  | program frame name path arguments first resumes created present =>
      exact .program frame name path arguments first resumes (Nat.lt_of_lt_of_le created grows.created)
        (grows.scopes _ present)
  | body body caller below _ path present older created allowed serves ih =>
      exact .body body caller below ih path (grows.scopes _ present) older
        (Nat.lt_of_lt_of_le created grows.created) allowed serves

theorem stacked_moved {world : World} {frame : Frame} {below : List Frame} (cursor : Cursor)
    (stacked : Stacked settings world (frame :: below)) :
    Stacked settings world (frame.moved cursor :: below) := by
  cases stacked with
  | program _ name path arguments first resumes created present =>
      exact .program _ name path arguments first resumes created present
  | body _ caller below stacked path present older created allowed serves =>
      exact .body _ caller below stacked path present older created allowed serves

theorem stacked_tail {world : World} {frame caller : Frame} {below : List Frame}
    (stacked : Stacked settings world (frame :: caller :: below)) :
    Stacked settings world (caller :: below) := by
  cases stacked with
  | body _ _ _ stacked _ _ _ _ _ _ => exact stacked

theorem stacked_created {world : World} {frame : Frame} {below : List Frame}
    (stacked : Stacked settings world (frame :: below)) : frame.id < world.created := by
  cases stacked with
  | program _ _ _ _ first _ created _ =>
      rw [first]
      exact created
  | body _ caller below _ _ _ _ created _ _ => exact created

theorem stacked_spawned {before after : World} {frame : Frame} {below : List Frame} (depth : Nat)
    (next : Cursor × Option Frame) (stacked : Stacked settings before (frame :: below))
    (same : depth = below.length + 1) (grows : Grows before after)
    (spawned : Spawned settings (frame.activation depth) before after next.2) :
    Stacked settings after (next.2.toList ++ frame.moved next.1 :: below) := by
  have kept := stacked_moved next.1 (stacked_grows grows stacked)
  rcases next with ⟨cursor, _ | body⟩
  · exact kept
  · obtain ⟨created, born⟩ := spawned
    subst same
    refine .body body _ below kept born.path born.present ?_ ?_ born.allowed born.serves
    · rw [born.id]
      exact stacked_created (stacked_moved cursor stacked)
    · rw [born.id, created]
      exact Nat.lt_succ_self before.created

theorem footprint_grows {here : Activation} {spawns : Bool} {before after : World}
    (footprint : Footprint here spawns before after) (created : before.created ≤ after.created) :
    Grows before after :=
  ⟨stored_grows footprint.stored, created⟩

theorem spawned_created {here : Activation} {before after : World} {body : Option Frame}
    (spawned : Spawned settings here before after body) : before.created ≤ after.created := by
  cases body with
  | none => exact Nat.le_of_eq (Eq.symm spawned)
  | some body =>
      rw [spawned.1]
      exact Nat.le_succ before.created

theorem forget_keys (journal : Journal Nat) (id other : Nat)
    (member : other ∈ (journal.forget id).latest.keys) :
    other ≠ id ∧ other ∈ journal.latest.keys := by
  obtain ⟨binding, kept, rfl⟩ := List.mem_map.mp member
  obtain ⟨old, different⟩ := List.mem_filter.mp kept
  exact ⟨of_decide_eq_true different, List.mem_map.mpr ⟨binding, old, rfl⟩⟩

theorem stacked_round {world : World} {body caller : Frame} {below : List Frame}
    (stacked : Stacked settings world (body :: caller :: below)) (statement : Statement)
    (predicate : Text) (block : Block) (resumes : body.resume = some (.loop statement predicate block)) :
    (world.store.scopeAt? (caller.path ++ [blockLabel .loop statement.location])).isSome := by
  cases stacked with
  | body _ _ _ _ path present _ _ _ serves =>
      rw [Frame.Serves, resumes] at serves
      rwa [path, serves.1] at present

theorem return_footprint {before : World} {ended frame : Frame} {below : List Frame} (depth : Nat)
    (stacked : Stacked settings before (ended :: frame :: below)) :
    Deed.Ensures (do
        Deed.leave ended.id
        Deed.complete settings (frame.activation depth) frame.cursor ended.resume) before
      (fun next after => after.store = before.store ∧
        after.journal = before.journal.forget ended.id ∧ after.written = before.written ∧
        Spawned settings (frame.activation depth) before after next.2)
      (fun _ after => after = { before with journal := before.journal.forget ended.id }) := by
  have keeps : Grows before { before with journal := before.journal.forget ended.id } :=
    ⟨fun _ present => present, Nat.le_refl _⟩
  apply Deed.ensures_bind
  change Deed.Ensures _ { before with journal := before.journal.forget ended.id } _ _
  refine Deed.ensures_mono (Deed.complete_footprint settings _ frame.cursor ended.resume _
    (stacked_round (stacked_grows keeps stacked))) ?_ fun _ _ same => same
  rintro next after ⟨store, journal, written, spawned⟩
  exact ⟨store, journal, written, spawned_since spawned rfl⟩

theorem turn_standing {before : World} {stack : List Frame} {frame : Frame} {below : List Frame}
    {deed : Deed (Cursor × Option Frame)} (turn : Turn settings stack frame below deed)
    (standing : Standing settings before stack) :
    deed.Ensures before
      (fun next after => Standing settings after (next.2.toList ++ frame.moved next.1 :: below) ∧
        before.created ≤ after.created ∧ ∀ body ∈ next.2, body.id = before.created)
      (fun _ after => before.created ≤ after.created ∧
        ∀ cursor, Standing settings after (frame.moved cursor :: below)) := by
  obtain ⟨stacked, latest⟩ := standing
  -- A frame is numbered as it is made, and the number is not given again.
  have fresh : ∀ (here : Activation) (middle after : World) (body : Option Frame),
      Spawned settings here middle after body → ∀ spawned ∈ body, spawned.id = middle.created := by
    rintro here middle after _ spawned body rfl
    exact spawned.2.id
  cases turn with
  | line _ _ line rest taking =>
      refine Deed.ensures_mono (Deed.launch_footprint settings _ line rest before) ?_ ?_
      · rintro next after ⟨spawned, statement, _, footprint⟩
        have created := spawned_created spawned
        refine ⟨⟨?_, ?_⟩, created, fresh _ _ _ _ spawned⟩
        · exact stacked_spawned _ next stacked rfl (footprint_grows footprint created) spawned
        · intro id member
          have known : id ∈ (frame :: below).map (·.id) := by
            rcases footprint.latest id member with rfl | old
            · exact List.mem_cons_self
            · exact latest id old
          rw [List.map_append]
          exact List.mem_append_right _ known
      · rintro failure after ⟨created, _, footprint⟩
        have same := Nat.le_of_eq created.symm
        refine ⟨same, fun cursor => ⟨?_, ?_⟩⟩
        · exact stacked_moved cursor (stacked_grows (footprint_grows footprint same) stacked)
        · intro id member
          rcases footprint.latest id member with rfl | old
          · exact List.mem_cons_self
          · exact latest id old
  | back ended _ _ spent =>
      have left : ∀ id ∈ (before.journal.forget ended.id).latest.keys,
          id ∈ (frame :: below).map (·.id) := by
        intro id member
        obtain ⟨different, old⟩ := forget_keys before.journal ended.id id member
        rcases List.mem_cons.mp (latest id old) with same | known
        · exact absurd same different
        · exact known
      have keeps : Grows before { before with journal := before.journal.forget ended.id } :=
        ⟨fun _ present => present, Nat.le_refl _⟩
      refine Deed.ensures_mono (return_footprint _ stacked) ?_ ?_
      · rintro next after ⟨store, journal, _, spawned⟩
        have created := spawned_created spawned
        have grows : Grows before after := ⟨fun path present => by rw [store]; exact present, created⟩
        refine ⟨⟨?_, ?_⟩, created, fresh _ _ _ _ spawned⟩
        · exact stacked_spawned _ next (stacked_tail stacked) rfl grows spawned
        · intro id member
          rw [journal] at member
          rw [List.map_append]
          exact List.mem_append_right _ (left id member)
      · rintro failure after rfl
        have stands := stacked_tail (stacked_grows keeps stacked)
        exact ⟨Nat.le_refl _, fun cursor => ⟨stacked_moved cursor stands, left⟩⟩

structure Succeeds (earlier later : Machine σ) : Prop where
  created : earlier.created ≤ later.created
  old : ∀ frame ∈ later.stack, frame.id < earlier.created →
    ∃ former ∈ earlier.stack, ∃ cursor, frame = former.moved cursor

theorem succeeds_refl (machine : Machine σ) : Succeeds machine machine :=
  ⟨Nat.le_refl _, fun frame member _ => ⟨frame, member, frame.cursor, rfl⟩⟩

theorem succeeds_trans {first middle last : Machine σ} (early : Succeeds first middle)
    (late : Succeeds middle last) : Succeeds first last := by
  refine ⟨Nat.le_trans early.created late.created, ?_⟩
  intro frame member before
  obtain ⟨former, present, cursor, rfl⟩ :=
    late.old frame member (Nat.lt_of_lt_of_le before early.created)
  obtain ⟨older, found, moved, rfl⟩ := early.old former present before
  exact ⟨older, found, cursor, rfl⟩

theorem turn_keeps {stack : List Frame} {frame : Frame} {below : List Frame}
    {deed : Deed (Cursor × Option Frame)} (turn : Turn settings stack frame below deed)
    (kept : Frame) (member : kept ∈ frame :: below) : kept ∈ stack := by
  cases turn with
  | line _ _ _ _ _ => exact member
  | back _ _ _ _ => exact List.mem_cons_of_mem _ member

theorem moved_member {frame kept : Frame} {below : List Frame} (cursor : Cursor)
    (member : kept ∈ frame.moved cursor :: below) :
    ∃ former ∈ frame :: below, ∃ moved, kept = former.moved moved := by
  rcases List.mem_cons.mp member with rfl | lower
  · exact ⟨frame, List.mem_cons_self, cursor, rfl⟩
  · exact ⟨kept, List.mem_cons_of_mem _ lower, kept.cursor, rfl⟩

theorem goes_standing {before after : Machine σ} (unobserved : settings.Unobserved)
    (goes : Goes settings before after) (standing : Standing settings before.world before.stack) :
    Standing settings after.world after.stack ∧ Succeeds before after := by
  obtain ⟨frame, below, deed, next, turn, done, stack⟩ :=
    goes_turn settings before after unobserved goes
  obtain ⟨stands, created, fresh⟩ := Deed.ensures_answered (turn_standing turn standing) done
  rw [stack]
  refine ⟨stands, created, ?_⟩
  intro kept member earlier
  rw [stack] at member
  rcases List.mem_append.mp member with new | old
  · rw [fresh kept (Option.mem_toList.mp new)] at earlier
    exact absurd earlier (Nat.lt_irrefl _)
  · obtain ⟨former, present, cursor, same⟩ := moved_member next.1 old
    exact ⟨former, turn_keeps turn former present, cursor, same⟩

theorem fails_standing {before after : Machine σ} {failure : Failure}
    (unobserved : settings.Unobserved) (failed : step settings before = (.error failure, after))
    (standing : Standing settings before.world before.stack) :
    Standing settings after.world after.stack ∧ Succeeds before after := by
  obtain ⟨frame, below, deed, cursor, turn, done, stack⟩ :=
    fails_turn settings before after failure unobserved failed
  obtain ⟨created, stands⟩ := Deed.ensures_failed (turn_standing turn standing) done
  rw [stack]
  refine ⟨stands cursor, created, ?_⟩
  intro kept member _
  rw [stack] at member
  obtain ⟨former, present, moved, same⟩ := moved_member cursor member
  exact ⟨former, turn_keeps turn former present, moved, same⟩

theorem reaches_standing {before after : Machine σ} (unobserved : settings.Unobserved)
    (path : Reaches settings before after) (standing : Standing settings before.world before.stack) :
    Standing settings after.world after.stack ∧ Succeeds before after := by
  induction path with
  | refl => exact ⟨standing, succeeds_refl before⟩
  | tail _ goes ih =>
      obtain ⟨stands, early⟩ := ih
      obtain ⟨stands, late⟩ := goes_standing unobserved goes stands
      exact ⟨stands, succeeds_trans early late⟩

theorem comes_standing {before after : Machine σ} (unobserved : settings.Unobserved)
    (comes : ComesTo settings before after) (standing : Standing settings before.world before.stack) :
    Standing settings after.world after.stack ∧ Succeeds before after := by
  cases comes with
  | head path => exact reaches_standing unobserved path standing
  | failure path failed =>
      obtain ⟨stands, early⟩ := reaches_standing unobserved path standing
      obtain ⟨stands, late⟩ := fails_standing unobserved failed stands
      exact ⟨stands, succeeds_trans early late⟩

theorem opening_standing (settings : Settings σ) (source : Text) (capacity : Nat) (host : σ) :
    Standing settings (opening settings source (fresh (.empty capacity) host)).world
      (opening settings source (fresh (.empty capacity) host)).stack := by
  rw [opening_stack, opening_world]
  refine ⟨.program (outermost settings source) rfl rfl rfl rfl rfl Nat.zero_lt_one ?_, ?_⟩
  · exact Store.scope_at_enter Store.empty [settings.program]
  · intro id member
    cases member

end Machine
end BareBones
