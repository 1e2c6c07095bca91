import BareBones.Proofs.Lockstep
import BareBones.Proofs.Refinement

set_option autoImplicit false

namespace BareBones

def Settings.voiced {σ : Type} (settings : Settings σ) (verbose : Bool) : Settings σ :=
  { settings with verbose }

def Entry.told (entry : Entry Nat) : Nat × Option Nat × Option Location × Text :=
  (entry.step, entry.frame, entry.location, entry.label)

def Failure.Mechanical : Failure → Prop
  | .fault _ => False
  | .signal _ | .breakdown _ => True

abbrev Print := Location × Text

def Print.logged (print : Print) : Text :=
  "log: ".toList ++ print.1.describe ++ ": ".toList ++ print.2

structure Muted (prints : List Print) (loud plain : World) : Prop where
  store : loud.store = plain.store
  journal : loud.journal.seen Entry.told = plain.journal.seen Entry.told
  created : loud.created = plain.created
  loudly : loud.written = prints.map Print.logged
  plainly : plain.written = prints.map Prod.snd

def placedAt (place : Option Location) (texts : List Text) : List Print :=
  match place with
  | some location => texts.map (location, ·)
  | none => []

namespace Deed

variable {σ : Type}

def muting (place : Option Location) (earlier : List Print) : Bond :=
  ⟨fun loud plain => ∃ texts, Muted (placedAt place texts ++ earlier) loud plain, Failure.Mechanical⟩

variable {place : Option Location} {earlier : List Print}

theorem muting_env {loud plain : World} (here : Activation)
    (link : (muting place earlier).linked loud plain) : here.env loud = here.env plain := by
  obtain ⟨texts, muted⟩ := link
  unfold Activation.env
  rw [muted.store]

theorem muting_store {loud plain : World} (change : Store → Store)
    (link : (muting place earlier).linked loud plain) :
    (muting place earlier).linked { loud with store := change loud.store }
      { plain with store := change plain.store } := by
  obtain ⟨texts, muted⟩ := link
  exact ⟨texts, congrArg change muted.store, muted.journal, muted.created, muted.loudly, muted.plainly⟩

theorem record_muted (settings : Settings σ) (here : Activation) (statement : Statement) :
    Paired (muting place earlier) Eq (record (settings.voiced true) here statement)
      (record (settings.voiced false) here statement) := by
  -- The snapshot is all that the verbose machine does in addition, and it may fail.
  have taken : Paired (muting place earlier) (fun _ _ => True)
      (do some <$> settled (Env.orBreakdown ((← get).store.snapshot here.path)) :
        Deed (Option Snapshot))
      (pure (none : Option Snapshot)) := by
    intro loud plain link
    rw [effect_bind, effect_get]
    dsimp only
    rw [effect_map]
    unfold settled
    cases loud.store.snapshot here.path with
    | ok snapshot => exact .answered trivial link
    | error breakdown => exact .excused trivial
  unfold record
  simp only [Settings.voiced, if_true, Bool.false_eq_true, if_false]
  rw [← bind_assoc]
  refine paired_bind taken fun snapshot _ _ => paired_modify fun loud plain link => ?_
  obtain ⟨texts, muted⟩ := link
  have steps := Journal.steps_seen muted.journal
  refine ⟨texts, muted.store, Journal.record_seen (some here.id) muted.journal ?_, muted.created,
    muted.loudly, muted.plainly⟩
  unfold Journal.nextEntry Entry.told
  rw [steps]

theorem muting_bridge (settings : Settings σ) (place : Option Location) (earlier : List Print) :
    Bridge (muting place earlier) (settings.voiced true) (settings.voiced false) where
  record := record_muted settings
  holds here predicate location :=
    evaluate_paired here location _ fun _ _ link => congrArg (·.test predicate) (muting_env here link)
  expand here location format :=
    evaluate_paired here location _ fun _ _ link => congrArg (·.expand format) (muting_env here link)
  value here location name := paired_interchangeable
    (evaluate_paired here location _ fun _ _ link => congrArg (·.value name) (muting_env here link))
  assign here name value := paired_modify fun _ _ => muting_store (·.write here.path name value)
  define here name block := paired_modify fun _ _ => muting_store (·.define here.path name block)
  enter here label := paired_modify fun _ _ => muting_store (·.enter (here.path ++ [label]))
  find here location name := by
    refine find_paired here location name fun loud plain link => ?_
    obtain ⟨texts, muted⟩ := link
    rw [muted.store]
  spawn here location := by
    refine spawn_paired _ _ here location rfl fun loud plain link => ?_
    obtain ⟨texts, muted⟩ := link
    exact ⟨muted.created, texts, muted.store, muted.journal, congrArg (· + 1) muted.created,
      muted.loudly, muted.plainly⟩
  leave id := by
    refine paired_modify fun loud plain link => ?_
    obtain ⟨texts, muted⟩ := link
    exact ⟨texts, muted.store, Journal.forget_seen id muted.journal, muted.created, muted.loudly,
      muted.plainly⟩

theorem muting_emits (settings : Settings σ) (location : Location) (earlier : List Print) :
    Emits (muting (some location) earlier) (settings.voiced true) (settings.voiced false) location := by
  intro text
  refine paired_modify fun loud plain link => ?_
  obtain ⟨texts, muted⟩ := link
  refine ⟨text :: texts, muted.store, muted.journal, muted.created, ?_, ?_⟩
  · exact congrArg (Print.logged (location, text) :: ·) muted.loudly
  · exact congrArg (text :: ·) muted.plainly

end Deed

theorem placed_reverse (place : Option Location) (texts : List Text) :
    (placedAt place texts).reverse = placedAt place texts.reverse := by
  cases place with
  | none => rfl
  | some location => exact (List.map_reverse ..).symm

namespace Machine

variable {σ : Type} {settings : Settings σ}

def place? (machine : Machine σ) : Option Location :=
  (machine.stack.head?.bind fun frame => Cursor.next? frame.cursor).map (·.1.location)

def utters (settings : Settings σ) (machine : Machine σ) : List Print :=
  placedAt machine.place? ((step settings machine).2.output.drop machine.output.length)

def uttered (settings : Settings σ) : Nat → Machine σ → List Print
  | 0, _ => []
  | fuel + 1, machine =>
      utters settings machine ++
        match step settings machine with
        | (.ok true, after) => uttered settings fuel after
        | _ => []

theorem step_muted (unobserved : settings.Unobserved) (loud plain : Machine σ) (earlier : List Print)
    (same : loud.stack = plain.stack) (muted : Muted earlier loud.world plain.world) :
    Together (Deed.muting plain.place? earlier) (step (settings.voiced true) loud)
      (step (settings.voiced false) plain) := by
  have quiet : (settings.voiced true).Unobserved := unobserved
  have silent : (settings.voiced false).Unobserved := unobserved
  have start : (Deed.muting plain.place? earlier).linked loud.world plain.world := by
    refine ⟨[], ?_⟩
    cases plain.place? with
    | none => exact muted
    | some location => exact muted
  refine step_together (Deed.muting_bridge settings _ earlier)
    (unobserved_discreet quiet) (unobserved_discreet silent) loud plain ?_ same start
  intro frame line rest top taking
  have here : plain.place? = some line.location := by
    unfold place?
    rw [← same, top, Option.bind_some, taking]
    rfl
  rw [here]
  exact Deed.muting_emits settings line.location earlier

theorem utters_muted {plain : Machine σ} {earlier : List Print} {texts : List Text} {there : World}
    (before : plain.written = earlier.map Prod.snd)
    (muted : Muted (placedAt plain.place? texts ++ earlier) there (step settings plain).2.world) :
    (utters settings plain).reverse = placedAt plain.place? texts := by
  have after : (step settings plain).2.written = _ := muted.plainly
  unfold utters output
  rw [placed_reverse, after, before]
  cases plain.place? with
  | none => rfl
  | some location => simp [placedAt, Function.comp_def]

theorem drive_muted (unobserved : settings.Unobserved) (fuel : Nat) (loud plain : Machine σ)
    (earlier : List Print) (same : loud.stack = plain.stack)
    (muted : Muted earlier loud.world plain.world)
    (sound : ∀ failure after, drive (settings.voiced true) fuel loud = some (.error failure, after) →
      ¬failure.Mechanical) :
    ∃ there here, there.stack.length = here.stack.length ∧
      Muted ((uttered (settings.voiced false) fuel plain).reverse ++ earlier) there.world here.world ∧
      ((drive (settings.voiced true) fuel loud = none ∧ drive (settings.voiced false) fuel plain = none ∧
          Reaches (settings.voiced true) loud there ∧ Reaches (settings.voiced false) plain here) ∨
        ∃ result, drive (settings.voiced true) fuel loud = some (result, there) ∧
          drive (settings.voiced false) fuel plain = some (result, here)) := by
  induction fuel generalizing loud plain earlier with
  | zero => exact ⟨loud, plain, congrArg List.length same, muted, .inl ⟨rfl, rfl, .refl, .refl⟩⟩
  | succ fuel ih =>
      have together := step_muted unobserved loud plain earlier same muted
      have before : plain.written = earlier.map Prod.snd := muted.plainly
      have said : ∀ texts there, Muted (placedAt plain.place? texts ++ earlier) there
          (step (settings.voiced false) plain).2.world →
          (utters (settings.voiced false) plain).reverse = placedAt plain.place? texts :=
        fun texts there muted => utters_muted before muted
      rw [drive] at sound
      rw [drive, drive, uttered, List.reverse_append]
      generalize louder : step (settings.voiced true) loud = done at together sound
      generalize plainer : step (settings.voiced false) plain = counterpart at together said
      cases together with
      | @answered going there here same link =>
          obtain ⟨texts, muted⟩ := link
          rw [said texts there.world muted, List.append_assoc]
          cases going with
          | true =>
              obtain ⟨last, final, height, muted, ends⟩ := ih there here _ same muted sound
              refine ⟨last, final, height, muted, ends.imp_left ?_⟩
              rintro ⟨starved, unfed, path, beside⟩
              exact ⟨starved, unfed, .head louder path, .head plainer beside⟩
          | false => exact ⟨there, here, congrArg List.length same, muted, .inr ⟨_, rfl, rfl⟩⟩
      | @failed failure there here frame below first second stands beside link =>
          obtain ⟨texts, muted⟩ := link
          rw [said texts there.world muted]
          refine ⟨there, here, ?_, muted, .inr ⟨_, rfl, rfl⟩⟩
          rw [stands, beside]
          rfl
      | excused excuse => exact absurd excuse (sound _ _ rfl)

theorem muted_concluded {result : Except Failure Unit} {there here : Machine σ} {uttered : List Print}
    (height : there.stack.length = here.stack.length) (muted : Muted uttered there.world here.world)
    (sound : ∀ failure, result = .error failure → ¬failure.Mechanical) :
    (conclude (result, there)).1 = (conclude (result, here)).1 ∧
      (conclude (result, there)).2.stack.length = (conclude (result, here)).2.stack.length ∧
      Muted uttered (conclude (result, there)).2.world (conclude (result, here)).2.world := by
  cases result with
  | ok _ =>
      refine ⟨rfl, ?_, muted⟩
      change there.stack.tail.length = here.stack.tail.length
      rw [List.length_tail, List.length_tail, height]
  | error failure =>
      refine ⟨?_, height, muted⟩
      cases failure with
      | fault fault =>
          have same := fault_of_seen fault there here (fun _ _ told => congrArg Prod.fst told) muted.journal
          exact congrArg (Except.error ∘ Failure.fault) same
      | signal signal => exact absurd trivial (sound _ rfl)
      | breakdown breakdown => exact absurd trivial (sound _ rfl)

theorem muted_output {uttered : List Print} {there here : Machine σ}
    (muted : Muted uttered.reverse there.world here.world) :
    there.output = uttered.map Print.logged ∧ here.output = uttered.map Prod.snd := by
  have loudly : there.written = uttered.reverse.map Print.logged := muted.loudly
  have plainly : here.written = uttered.reverse.map Prod.snd := muted.plainly
  unfold output
  rw [loudly, plainly, List.map_reverse, List.map_reverse, List.reverse_reverse, List.reverse_reverse]
  exact ⟨rfl, rfl⟩

-- A verbose run that does not end with an internal error ends as the plain run does, and what it writes is
-- what the plain run writes, each line with the place of its statement.
theorem plain_run (settings : Settings σ) (source : Text) (capacity : Nat) (host : σ)
    (unobserved : settings.Unobserved)
    (sound : ∀ fuel fault after message,
      trial (settings.voiced true) source capacity host fuel = some (.error (.fault fault), after) →
        fault.cause ≠ .internal message) (fuel : Nat) :
    let verbose := settings.voiced true
    let plain := settings.voiced false
    let said := uttered plain fuel (opening plain source (fresh (.empty capacity) host))
    ∃ there here, there.output = said.map Print.logged ∧ here.output = said.map Prod.snd ∧
      there.store = here.store ∧ there.journal.steps = here.journal.steps ∧
      there.created = here.created ∧ there.stack.length = here.stack.length ∧
      ((trial verbose source capacity host fuel = none ∧ trial plain source capacity host fuel = none ∧
          Reaches verbose (opening verbose source (fresh (.empty capacity) host)) there ∧
          Reaches plain (opening plain source (fresh (.empty capacity) host)) here) ∨
        ∃ result, trial verbose source capacity host fuel = some (result, there) ∧
          trial plain source capacity host fuel = some (result, here)) := by
  intro verbose plain said
  have quiet : verbose.Unobserved := unobserved
  have silent : plain.Unobserved := unobserved
  have faults : ∀ failure after, drive verbose fuel
      (opening verbose source (fresh (.empty capacity) host)) = some (.error failure, after) →
      ¬failure.Mechanical := by
    intro failure after driven mechanical
    have ran : trial verbose source capacity host fuel = some (conclude (.error failure, after)) := by
      unfold trial
      rw [run_unobserved verbose _ _ _ quiet, driven]
      rfl
    have cause := fault_of_cause after failure
    cases failure with
    | fault fault => exact mechanical
    | signal signal => exact sound fuel _ after _ ran cause
    | breakdown breakdown => exact sound fuel _ after _ ran cause
  have start : Muted [] (opening verbose source (fresh (.empty capacity) host)).world
      (opening plain source (fresh (.empty capacity) host)).world := ⟨rfl, rfl, rfl, rfl, rfl⟩
  obtain ⟨there, here, height, muted, ends⟩ := drive_muted unobserved fuel _ _ [] rfl start faults
  rw [List.append_nil] at muted
  unfold trial
  rw [run_unobserved verbose _ _ _ quiet, run_unobserved plain _ _ _ silent]
  rcases ends with ⟨starved, unfed, path, beside⟩ | ⟨result, louder, plainer⟩
  · obtain ⟨loudly, plainly⟩ := muted_output muted
    refine ⟨there, here, loudly, plainly, muted.store, Journal.steps_seen muted.journal, muted.created,
      height, .inl ⟨?_, ?_, path, beside⟩⟩
    · exact Option.map_eq_none_iff.mpr starved
    · exact Option.map_eq_none_iff.mpr unfed
  · obtain ⟨same, height, muted⟩ := muted_concluded height muted fun failure failed =>
      faults failure there (by rw [← failed]; exact louder)
    obtain ⟨loudly, plainly⟩ := muted_output muted
    refine ⟨(conclude (result, there)).2, (conclude (result, here)).2, loudly, plainly, muted.store,
      Journal.steps_seen muted.journal, muted.created, height, .inr ⟨(conclude (result, there)).1, ?_, ?_⟩⟩
    · exact congrArg (Option.map conclude) louder
    · rw [same]
      exact congrArg (Option.map conclude) plainer

theorem plain_run_printing : quiet.Unobserved ∧
    (∀ fuel fault after message,
      trial (quiet.voiced true) printing 5 () fuel = some (.error (.fault fault), after) →
        fault.cause ≠ .internal message) ∧
    ∃ there here, trial (quiet.voiced true) printing 5 () 8 = some (.ok (), there) ∧
      trial (quiet.voiced false) printing 5 () 8 = some (.ok (), here) ∧
      there.output = ["log: \"f.bb\", line 1: a".toList, "log: \"f.bb\", line 3: b".toList] ∧
      here.output = ["a".toList, "b".toList] := by
  have succeeds : (trial (quiet.voiced true) printing 5 () 8).map (·.1.toOption) = some (some ()) := by
    decide +kernel
  obtain ⟨⟨ended, last⟩, ran, success⟩ := Option.map_eq_some_iff.mp succeeds
  have yields := yields_of_more (trial (quiet.voiced true) printing 5 ()) 8 _
    (run_more (quiet.voiced true) printing _ quiet_unobserved) ran
  have sound : ∀ fuel fault after message,
      trial (quiet.voiced true) printing 5 () fuel = some (.error (.fault fault), after) →
        fault.cause ≠ .internal message := by
    intro fuel fault after message failed
    cases yields.2 fuel _ failed
    cases success
  have said : uttered (quiet.voiced false) 8 (opening (quiet.voiced false) printing (fresh (.empty 5) ())) =
      [(⟨"f.bb".toList, 1, "print a".toList⟩, "a".toList),
        (⟨"f.bb".toList, 3, "print b".toList⟩, "b".toList)] := by
    decide +kernel
  refine ⟨quiet_unobserved, sound, ?_⟩
  obtain ⟨there, here, loudly, plainly, _, _, _, _, starved | ⟨result, louder, plainer⟩⟩ :=
    plain_run quiet printing 5 () quiet_unobserved sound 8
  · cases starved.1.symm.trans ran
  · cases ran.symm.trans louder
    rcases ended with failure | _
    · cases success
    · exact ⟨_, here, louder, plainer, loudly.trans (by rw [said]; decide), plainly.trans (by rw [said]; rfl)⟩

end Machine
end BareBones
