import BareBones.Proofs.Balance
import Mathlib.Data.List.Infix

set_option autoImplicit false

namespace BareBones.Machine

variable {σ : Type} {settings : Settings σ}

structure Orderly (world : World) (stack : List Frame) : Prop where
  sound : world.store.Sound
  top : ∀ frame ∈ stack.head?, Closes 0 frame.cursor
  awaits : stack.IsChain fun above below => Awaits above.resume below.cursor

theorem awaits_moved {frame : Frame} {below : List Frame} (cursor : Cursor)
    (awaits : (frame :: below).IsChain fun above below => Awaits above.resume below.cursor) :
    (frame.moved cursor :: below).IsChain fun above below => Awaits above.resume below.cursor := by
  cases awaits with
  | singleton _ => exact .singleton _
  | cons_cons awaits rest => exact .cons_cons awaits rest

theorem fit_orderly {after : World} {frame : Frame} {below : List Frame} (next : Cursor × Option Frame)
    (sound : after.store.Sound) (fit : Fit next)
    (awaits : (frame :: below).IsChain fun above below => Awaits above.resume below.cursor) :
    Orderly after (next.2.toList ++ frame.moved next.1 :: below) := by
  have moved := awaits_moved next.1 awaits
  rcases next with ⟨cursor, _ | body⟩
  · refine ⟨sound, ?_, moved⟩
    rintro _ ⟨⟩
    exact fit
  · refine ⟨sound, ?_, .cons_cons fit.2 moved⟩
    rintro _ ⟨⟩
    exact fit.1

theorem turn_orderly {before : World} {stack : List Frame} {frame : Frame} {below : List Frame}
    {deed : Deed (Cursor × Option Frame)} (turn : Turn settings stack frame below deed)
    (orderly : Orderly before stack) :
    deed.Ensures before
      (fun next after => Orderly after (next.2.toList ++ frame.moved next.1 :: below))
      (fun failure _ => failure.Harmless) := by
  obtain ⟨sound, top, awaits⟩ := orderly
  cases turn with
  | line _ _ line rest taking =>
      obtain ⟨solid, closes⟩ := closes_next 0 frame.cursor rest line (top frame rfl) taking
      refine Deed.ensures_mono (Deed.launch_balances settings _ line rest before sound solid closes) ?_
        fun _ _ harmless => harmless
      rintro next after ⟨kept, fit⟩
      exact fit_orderly next kept fit awaits
  | back ended _ _ spent =>
      cases awaits with
      | cons_cons ready lower =>
          apply Deed.ensures_bind
          change Deed.Ensures _ { before with journal := before.journal.forget ended.id } _ _
          refine Deed.ensures_mono
            (Deed.complete_balances settings _ frame.cursor ended.resume _ sound ready) ?_
            fun _ _ harmless => harmless
          rintro next after ⟨kept, fit⟩
          exact fit_orderly next kept fit lower

theorem reaches_orderly {before after : Machine σ} (unobserved : settings.Unobserved)
    (path : Reaches settings before after) (orderly : Orderly before.world before.stack) :
    Orderly after.world after.stack := by
  induction path with
  | refl => exact orderly
  | @tail middle after _ goes ih =>
      obtain ⟨frame, below, deed, next, turn, done, stack⟩ :=
        goes_turn settings middle after unobserved goes
      rw [stack]
      exact Deed.ensures_answered (turn_orderly turn ih) done

theorem fails_harmless {before after : Machine σ} {failure : Failure}
    (unobserved : settings.Unobserved) (failed : step settings before = (.error failure, after))
    (orderly : Orderly before.world before.stack) : failure.Harmless := by
  obtain ⟨frame, below, deed, cursor, turn, done, _⟩ :=
    fails_turn settings before after failure unobserved failed
  exact Deed.ensures_failed (turn_orderly turn orderly) done

theorem opening_orderly (settings : Settings σ) (source : Text) (journal : Journal Nat) (host : σ)
    (closes : Closes 0 (Line.ofSource settings.filename source)) :
    Orderly (opening settings source (fresh journal host)).world
      (opening settings source (fresh journal host)).stack := by
  rw [opening_stack, opening_world]
  refine ⟨Store.bodies_enter _ (Store.bodies_empty _), ?_, .singleton _⟩
  rintro _ ⟨⟩
  exact closes

theorem fault_of_harmless (machine : Machine σ) (failure : Failure) (harmless : failure.Harmless) :
    (Failure.fault (machine.faultOf failure)).Harmless := by
  unfold faultOf
  cases machine.journal.last? with
  | none =>
      cases failure with
      | fault fault => exact harmless
      | signal signal => exact fault_harmless _ rfl rfl
      | breakdown breakdown => exact fault_harmless _ rfl rfl
  | some entry =>
      cases failure with
      | fault fault => exact harmless
      | signal signal => exact fault_harmless _ rfl rfl
      | breakdown breakdown => exact fault_harmless _ rfl rfl

-- A program with an `end` for every header, whose keywords are followed by a space, never fails for want of
-- an `end` or at one, and none of its frames ever has an `end` to run.
theorem balanced_runs (settings : Settings σ) (source : Text) (capacity : Nat) (host : σ)
    (unobserved : settings.Unobserved)
    (balanced : Balanced ((Line.ofSource settings.filename source).filter (!Line.isBlank ·)))
    (spaced : ∀ line ∈ Line.ofSource settings.filename source,
      Boundary.isHeader line.text = true → line.Spaced) :
    (∀ fuel failure after, run settings fuel source (fresh (.empty capacity) host) =
        some (.error failure, after) → failure.Harmless) ∧
      ∀ machine, Reaches settings (opening settings source (fresh (.empty capacity) host)) machine →
        ∀ frame below line rest, machine.stack = frame :: below →
          Cursor.next? frame.cursor = some (line, rest) → Boundary.isEnd line.text = false := by
  have opens := opening_orderly settings source (.empty capacity) host
    (balanced_closes _ balanced spaced)
  refine ⟨?_, ?_⟩
  · intro fuel failure after ran
    rw [run_unobserved settings _ _ _ unobserved] at ran
    obtain ⟨⟨result, last⟩, driven, same⟩ := Option.map_eq_some_iff.mp ran
    obtain ⟨before, path, stepped⟩ := drive_ends settings fuel _ last result driven
    cases result with
    | ok _ => cases same
    | error cause =>
        cases same
        exact fault_of_harmless after cause
          (fails_harmless unobserved stepped (reaches_orderly unobserved path opens))
  · intro machine path frame below line rest stack taking
    have orderly := reaches_orderly unobserved path opens
    have first : machine.stack.head? = some frame := by
      rw [stack]
      rfl
    obtain ⟨solid, closes⟩ := closes_next 0 frame.cursor rest line (orderly.top frame first) taking
    exact (Deed.closes_line line rest solid closes).1

theorem balanced_runs_call :
    let lines := Line.ofSource quiet.filename calling
    quiet.Unobserved ∧ Balanced (lines.filter (!Line.isBlank ·)) ∧
      (∀ line ∈ lines, Boundary.isHeader line.text = true → line.Spaced) ∧
      ∀ fuel failure after, run quiet fuel calling (fresh (.empty 5) ()) =
        some (.error failure, after) → failure.Harmless := by
  intro lines
  have fronts : ∀ front ∈ (lines.filter (!Line.isBlank ·)).inits,
      front.countP (Boundary.isEnd ·.text) ≤ front.countP (Boundary.isHeader ·.text) := by
    decide +kernel
  have totals : (lines.filter (!Line.isBlank ·)).countP (Boundary.isEnd ·.text) =
      (lines.filter (!Line.isBlank ·)).countP (Boundary.isHeader ·.text) := by decide +kernel
  have starts : ∀ line ∈ lines, Boundary.isHeader line.text = true →
      BlockKind.function.keyword ++ [' '] <+: line.text := by decide +kernel
  have balanced : Balanced (lines.filter (!Line.isBlank ·)) :=
    ⟨fun front leads => fronts front ((List.mem_inits _ _).mpr leads), totals⟩
  have spaced : ∀ line ∈ lines, Boundary.isHeader line.text = true → line.Spaced :=
    fun line member header => ⟨.function, starts line member header⟩
  exact ⟨quiet_unobserved, balanced, spaced,
    (balanced_runs quiet calling 5 () quiet_unobserved balanced spaced).1⟩

end BareBones.Machine
