import BareBones.Proofs.Entries

set_option autoImplicit false

namespace BareBones

namespace Nested

variable {σ : Type} {settings : Settings σ} {here : Activation}

theorem does_done (before after : World) : Does settings here [] before after ↔ after = before := by
  constructor
  · rintro ⟨fuel, computed⟩
    cases fuel with
    | zero => cases computed
    | succ fuel =>
        cases computed
        rfl
  · rintro rfl
    exact ⟨1, rfl⟩

theorem does_blanks (blanks tail : Cursor) (before after : World)
    (blank : ∀ line ∈ blanks, line.isBlank = true) :
    Does settings here (blanks ++ tail) before after ↔ Does settings here tail before after := by
  induction blanks with
  | nil => rfl
  | cons line rest ih =>
      rw [← ih fun other member => blank other (List.mem_cons_of_mem line member)]
      unfold Does
      simp only [List.cons_append, lines_blank _ line _ (blank line List.mem_cons_self)]

def DoesEach (settings : Settings σ) (here : Activation) : List Cursor → World → World → Prop
  | [], before, after => after = before
  | piece :: rest, before, after =>
      ∃ middle, Does settings here piece before middle ∧ DoesEach settings here rest middle after

theorem does_joined (file : Text) (number : Nat) (entries : List Text) (before after : World)
    (complete : ∀ piece ∈ pieces file number entries, piece.Complete) :
    Does settings here (Line.numbered file number (joined entries).lines) before after ↔
      DoesEach settings here (pieces file number entries) before after := by
  induction entries generalizing number before with
  | nil => exact does_done before after
  | cons entry rest ih =>
      have feed : joined (entry :: rest) = entry ++ '\n' :: joined rest := by simp [joined]
      have cut : (joined (entry :: rest)).lines = (entry ++ ['\n']).lines ++ (joined rest).lines := by
        rw [feed]
        exact Text.lines_from_feed [] entry (joined rest)
      obtain ⟨blanks, kind, fed⟩ := Text.lines_from_fed [] entry
      change (entry ++ ['\n']).lines = entry.lines ++ blanks at fed
      have empty : ∀ line ∈ Line.numbered file (number + entry.lines.length) blanks, line.isBlank = true := by
        rcases kind with rfl | rfl
        · exact fun _ member => nomatch member
        · intro line member
          rw [List.mem_singleton.mp member]
          rfl
      rw [cut, Line.numbered_append, fed, Line.numbered_append, List.append_assoc,
        does_append _ _ _ (complete _ List.mem_cons_self), pieces, DoesEach]
      refine exists_congr fun middle => and_congr_right fun _ => ?_
      rw [does_blanks _ _ _ _ empty, ← fed]
      exact ih _ middle fun piece member => complete piece (List.mem_cons_of_mem _ member)

end Nested

namespace Machine

variable {σ : Type} {settings : Settings σ} {twin : Line → Line → Prop}

def ground (settings : Settings σ) (cursor : Cursor) : Frame :=
  ⟨settings.program, [settings.program], settings.arguments, 0, none, cursor, none⟩

def surface (settings : Settings σ) : Activation :=
  (ground settings []).activation 1

def alone (host : σ) (settings : Settings σ) (cursor : Cursor) (world : World) : Machine σ :=
  ⟨world.store, [ground settings cursor], world.journal, world.created, world.written, [], host⟩

theorem standing_ground {world : World} {frame : Frame} (cursor : Cursor)
    (standing : Standing settings world [frame]) : Standing settings world [ground settings cursor] := by
  obtain ⟨stacked, latest⟩ := standing
  cases stacked with
  | program _ name path arguments first resumes created present =>
      refine ⟨.program _ rfl rfl rfl rfl rfl created ?_, ?_⟩
      · rw [path] at present
        exact present
      · intro id member
        have among := latest id member
        rw [List.map_singleton, first] at among
        exact among

theorem does_stands (host : σ) (unobserved : settings.Unobserved) {cursor : Cursor} {before after : World}
    (standing : Standing settings before [ground settings []])
    (does : Nested.Does settings (surface settings) cursor before after) :
    Standing settings after [ground settings []] ∧ before.store.Filled after.store := by
  have stands : Standing settings (alone host settings cursor before).world
      (alone host settings cursor before).stack := standing_ground cursor standing
  obtain ⟨last, left, path, stack, _, rfl⟩ :=
    Nested.does_arrives unobserved (alone host settings cursor before) _ rfl does
  have ends := (reaches_standing unobserved path stands).1
  rw [stack] at ends
  exact ⟨standing_ground [] ends, reaches_filled unobserved path stands⟩

theorem does_twin (host : σ) (faithful : Line.Faithful twin) (unobserved : settings.Unobserved)
    (terse : settings.verbose = false) {cursor mate : Cursor} {before beside after : World}
    (cursors : List.Forall₂ twin cursor mate) (standing : Standing settings before [ground settings []])
    (counterpart : Standing settings beside [ground settings []]) (worlds : before.Twin twin beside)
    (tidy : after.store.Tidy twin) (does : Nested.Does settings (surface settings) cursor before after) :
    ∃ ending, Nested.Does settings (surface settings) mate beside ending ∧ after.Twin twin ending := by
  obtain ⟨last, left, path, stack, taken, rfl⟩ :=
    Nested.does_arrives unobserved (alone host settings cursor before) _ rfl does
  have grounds : Frame.Twin twin (ground settings cursor) (ground settings mate) :=
    ⟨.under settings.program .nil, rfl, cursors, .none⟩
  have twinned : Twinned twin settings (alone host settings cursor before)
      (alone host settings mate beside) :=
    ⟨.cons grounds .nil, worlds, standing_ground cursor standing, standing_ground mate counterpart⟩
  obtain ⟨ending, further, linked⟩ := reaches_twin faithful unobserved terse twinned path tidy
  have frames := linked.stack
  rw [stack] at frames
  generalize stands : ending.stack = others at frames
  cases frames with
  | @cons _ bottom _ _ both none =>
      cases none
      have spent : Cursor.next? bottom.cursor = none := by
        have heads := Cursor.next_twin faithful both.cursor
        change Option.Rel _ (Cursor.next? left) _ at heads
        rw [taken] at heads
        generalize Cursor.next? bottom.cursor = head at heads
        cases heads
        rfl
      obtain ⟨count, driven⟩ := drive_reaches settings 1 _ ending _ further
        (drive_over settings 0 ending _ stands spent)
      have again := (Nested.drive_does unobserved _ ending (ground settings mate) count rfl driven).1
      exact ⟨ending.world, again, linked.worlds⟩

theorem each_stands (host : σ) (unobserved : settings.Unobserved) {pieces : List Cursor}
    {before after : World} (standing : Standing settings before [ground settings []])
    (does : Nested.DoesEach settings (surface settings) pieces before after) :
    before.store.Filled after.store := by
  induction pieces generalizing before with
  | nil =>
      cases does
      exact fun _ filled => filled
  | cons piece rest ih =>
      obtain ⟨middle, first, later⟩ := does
      obtain ⟨stands, filled⟩ := does_stands host unobserved standing first
      exact fun place holds => ih stands later place (filled place holds)

theorem each_twin (host : σ) (faithful : Line.Faithful twin) (unobserved : settings.Unobserved)
    (terse : settings.verbose = false) {pieces mates : List Cursor} {before beside after : World}
    (twins : List.Forall₂ (List.Forall₂ twin) pieces mates)
    (standing : Standing settings before [ground settings []])
    (counterpart : Standing settings beside [ground settings []]) (worlds : before.Twin twin beside)
    (tidy : after.store.Tidy twin)
    (does : Nested.DoesEach settings (surface settings) pieces before after) :
    ∃ ending, Nested.DoesEach settings (surface settings) mates beside ending ∧ after.Twin twin ending := by
  induction twins generalizing before beside with
  | nil =>
      cases does
      exact ⟨beside, rfl, worlds⟩
  | cons both _ ih =>
      obtain ⟨middle, first, later⟩ := does
      have stands := (does_stands host unobserved standing first).1
      have filled := each_stands host unobserved stands later
      obtain ⟨along, did, linked⟩ := does_twin host faithful unobserved terse both standing counterpart
        worlds (Store.tidy_filled filled tidy) first
      have beyond := (does_stands host unobserved counterpart did).1
      obtain ⟨ending, further, ends⟩ := ih stands beyond linked later
      exact ⟨ending, ⟨along, did, further⟩, ends⟩

def runEach (settings : Settings σ) (fuel : Nat) : List Text → Machine σ → Option (Ending σ)
  | [], machine => some (.ok (), machine)
  | entry :: rest, machine =>
      match runSource settings fuel entry machine with
      | some (.ok (), after) => runEach settings fuel rest after
      | ended => ended

def apart (settings : Settings σ) (entries : List Text) (capacity : Nat) (host : σ) (fuel : Nat) :
    Option (Ending σ) :=
  runEach settings fuel entries ((fresh (.empty capacity) host).enterProgram settings)

theorem run_each_more (less more : Nat) (entries : List Text) (machine : Machine σ) (ending : Ending σ)
    (bound : less ≤ more) (ran : runEach settings less entries machine = some ending) :
    runEach settings more entries machine = some ending := by
  induction entries generalizing machine with
  | nil => exact ran
  | cons entry rest ih =>
      rw [runEach] at ran ⊢
      cases once : runSource settings less entry machine with
      | none =>
          rw [once] at ran
          cases ran
      | some done =>
          have again : runSource settings more entry machine = some done :=
            drive_more settings less more _ done bound once
          rw [once] at ran
          rw [again]
          rcases done with ⟨failure | _, after⟩
          · exact ran
          · exact ih after ran

theorem load_ground (entry : Text) (machine : Machine σ) {cursor : Cursor}
    (stands : machine.stack = [ground settings cursor]) :
    (machine.load settings entry).stack = [ground settings (Line.ofSource settings.filename entry)] ∧
      (machine.load settings entry).world = machine.world := by
  unfold load setCursor
  rw [stands]
  exact ⟨rfl, rfl⟩

theorem run_each_does (unobserved : settings.Unobserved) (fuel : Nat) (entries : List Text)
    (machine last : Machine σ) {cursor : Cursor} (stands : machine.stack = [ground settings cursor])
    (ran : runEach settings fuel entries machine = some (.ok (), last)) :
    Nested.DoesEach settings (surface settings) (entries.map (Line.ofSource settings.filename))
      machine.world last.world := by
  induction entries generalizing machine cursor with
  | nil =>
      cases ran
      rfl
  | cons entry rest ih =>
      obtain ⟨loaded, same⟩ := load_ground entry machine stands
      rw [runEach] at ran
      cases once : runSource settings fuel entry machine with
      | none =>
          rw [once] at ran
          cases ran
      | some done =>
          rw [once] at ran
          rcases done with ⟨failure | _, after⟩
          · cases ran
          · obtain ⟨does, left, stack⟩ := Nested.drive_does unobserved _ after _ fuel loaded once
            rw [same] at does
            exact ⟨after.world, does, ih after stack ran⟩

theorem does_run_each (unobserved : settings.Unobserved) (entries : List Text) (machine : Machine σ)
    {cursor : Cursor} {after : World} (stands : machine.stack = [ground settings cursor])
    (does : Nested.DoesEach settings (surface settings) (entries.map (Line.ofSource settings.filename))
      machine.world after) :
    ∃ fuel last, runEach settings fuel entries machine = some (.ok (), last) ∧ last.world = after := by
  induction entries generalizing machine cursor with
  | nil =>
      cases does
      exact ⟨0, machine, rfl, rfl⟩
  | cons entry rest ih =>
      obtain ⟨middle, first, later⟩ := does
      obtain ⟨loaded, same⟩ := load_ground entry machine stands
      rw [← same] at first
      obtain ⟨count, along, left, driven, stack, rfl⟩ :=
        Nested.does_drives unobserved (machine.load settings entry) _ loaded first
      obtain ⟨fuel, last, ran, rfl⟩ := ih along stack later
      refine ⟨max count fuel, last, ?_, rfl⟩
      have enough : runSource settings (max count fuel) entry machine = some (.ok (), along) :=
        drive_more settings count _ _ _ (Nat.le_max_left count fuel) driven
      rw [runEach, enough]
      exact run_each_more fuel _ rest along _ (Nat.le_max_right count fuel) ran

theorem trial_does (source : Text) (capacity : Nat) (host : σ) (unobserved : settings.Unobserved)
    (fuel : Nat) (last : Machine σ) (ran : trial settings source capacity host fuel = some (.ok (), last)) :
    Nested.Does settings (surface settings) (Line.ofSource settings.filename source)
      ⟨Store.empty.enter [settings.program], .empty capacity, 1, []⟩ last.world := by
  unfold trial at ran
  rw [run_unobserved settings fuel source _ unobserved] at ran
  obtain ⟨⟨result, ended⟩, driven, concludes⟩ := Option.map_eq_some_iff.mp ran
  rcases result with failure | _
  · cases concludes
  · cases concludes
    exact (Nested.drive_does unobserved _ ended (ground settings _) fuel rfl driven).1

theorem does_trial (source : Text) (capacity : Nat) (host : σ) (unobserved : settings.Unobserved)
    {after : World} (does : Nested.Does settings (surface settings) (Line.ofSource settings.filename source)
      ⟨Store.empty.enter [settings.program], .empty capacity, 1, []⟩ after) :
    ∃ fuel last, trial settings source capacity host fuel = some (.ok (), last) ∧ last.world = after := by
  obtain ⟨fuel, last, _, driven, _, rfl⟩ := Nested.does_drives unobserved
    (opening settings source (fresh (.empty capacity) host)) (ground settings _) rfl does
  refine ⟨fuel, last.pop, ?_, rfl⟩
  unfold trial
  rw [run_unobserved settings fuel source _ unobserved, driven]
  rfl

theorem opening_ground (settings : Settings σ) (capacity : Nat) (host : σ) :
    Standing settings ⟨Store.empty.enter [settings.program], .empty capacity, 1, []⟩ [ground settings []] :=
  standing_ground [] (opening_standing settings [] capacity host)

theorem opening_twin (program : Text) (journal : Journal Nat) :
    World.Twin twin ⟨Store.empty.enter [program], journal, 1, []⟩
      ⟨Store.empty.enter [program], journal, 1, []⟩ := by
  refine ⟨fun place mate _ => ?_, rfl⟩
  have bare : ∀ place, Store.empty.scope place = .empty := by
    intro place
    cases place <;> rfl
  rw [Store.scope_enter, Store.scope_enter, bare, bare]
  exact ⟨fun _ => rfl, fun _ => .none⟩

theorem pieces_complete (faithful : Line.Faithful twin) {mates pieces : List Cursor}
    (twins : List.Forall₂ (List.Forall₂ twin) mates pieces) (complete : ∀ mate ∈ mates, mate.Complete) :
    ∀ piece ∈ pieces, piece.Complete := by
  induction twins with
  | nil => exact fun _ member => nomatch member
  | cons both _ ih =>
      obtain ⟨here, others⟩ := List.forall_mem_cons.mp complete
      exact List.forall_mem_cons.mpr ⟨complete_twin faithful here both, ih others⟩

-- A program and its entries one after the other write the same, in the same order: if the one succeeds, so does
-- the other, unless a scope of the one that has succeeded holds something under labels that could be mistaken.
theorem entries_joined (settings : Settings σ) (entries : List Text) (capacity : Nat) (host : σ)
    (unobserved : settings.Unobserved) (terse : settings.verbose = false)
    (complete : ∀ entry ∈ entries, Cursor.Complete (Line.ofSource settings.filename entry))
    (quiet : ∀ entry ∈ entries, ¬Text.AsksPath entry) :
    (∀ last, Yields (trial settings (joined entries) capacity host) (.ok (), last) →
        last.store.Tidy (Renumbered settings.filename entries) →
        ∃ ending, Yields (apart settings entries capacity host) (.ok (), ending) ∧
          ending.output = last.output) ∧
      ∀ ending, Yields (apart settings entries capacity host) (.ok (), ending) →
        ending.store.Tidy (flip (Renumbered settings.filename entries)) →
        ∃ last, Yields (trial settings (joined entries) capacity host) (.ok (), last) ∧
          last.output = ending.output := by
  have faithful := renumbered_faithful settings.filename entries quiet
  have twins := pieces_twins settings.filename entries
  have turned : List.Forall₂ (List.Forall₂ (flip (Renumbered settings.filename entries)))
      (entries.map (Line.ofSource settings.filename)) (pieces settings.filename 1 entries) :=
    List.Forall₂.flip (twins.imp fun _ _ both => both.flip)
  have whole : ∀ piece ∈ pieces settings.filename 1 entries, piece.Complete := by
    refine pieces_complete (Line.faithful_flip faithful) turned ?_
    intro mate member
    obtain ⟨entry, among, rfl⟩ := List.mem_map.mp member
    exact complete entry among
  have opens := opening_ground settings capacity host
  refine ⟨fun last yields tidy => ?_, fun ending yields tidy => ?_⟩
  · obtain ⟨fuel, enough⟩ := yields.1
    have does := trial_does (joined entries) capacity host unobserved fuel last (enough fuel (Nat.le_refl fuel))
    obtain ⟨after, did, linked⟩ := each_twin host faithful unobserved terse twins opens opens
      (opening_twin settings.program _) tidy ((Nested.does_joined _ 1 entries _ _ whole).mp does)
    obtain ⟨count, ending, ran, rfl⟩ := does_run_each unobserved entries
      ((fresh (.empty capacity) host).enterProgram settings) rfl did
    refine ⟨ending, ?_, congrArg List.reverse linked.written.symm⟩
    exact yields_of_more _ count _ (fun less more done => run_each_more less more entries _ done) ran
  · obtain ⟨fuel, enough⟩ := yields.1
    have did := run_each_does unobserved fuel entries _ ending rfl (enough fuel (Nat.le_refl fuel))
    obtain ⟨after, does, linked⟩ := each_twin host (Line.faithful_flip faithful) unobserved terse turned
      opens opens (opening_twin settings.program _) tidy did
    obtain ⟨count, last, ran, rfl⟩ := does_trial (joined entries) capacity host unobserved
      ((Nested.does_joined _ 1 entries _ _ whole).mpr does)
    refine ⟨last, ?_, congrArg List.reverse linked.written.symm⟩
    exact yields_of_more _ count _ (run_more settings (joined entries) _ unobserved) ran

theorem succeeds {α : Type} (compute : Nat → Option (Ending σ)) {fuel : Nat} (view : Machine σ → α)
    {seen : α}
    (more : ∀ less more done, less ≤ more → compute less = some done → compute more = some done)
    (ran : (compute fuel).map (fun ending => (ending.1.toOption, view ending.2)) = some (some (), seen)) :
    ∃ last, Yields compute (.ok (), last) ∧ view last = seen := by
  obtain ⟨⟨result, last⟩, computed, read⟩ := Option.map_eq_some_iff.mp ran
  rcases result with failure | _
  · cases congrArg Prod.fst read
  · exact ⟨last, yields_of_more compute fuel _ more computed, congrArg Prod.snd read⟩

-- The loop binds a variable in its scope. The two branches share a label in their entries, and bind nothing.
def counting : List Text :=
  ["set X 2".toList, "if X is 2 do\nprint start\nend".toList,
    "while X gt 0 do\nset Y \x7bX\x7d\nprint \x7bY\x7d\ndecr X\nend".toList,
    "if X is 0 do\nprint done\nelse\nprint never\nend".toList]

theorem entries_joined_counting : quiet.Unobserved ∧ quiet.verbose = false ∧
    (∀ entry ∈ counting, Cursor.Complete (Line.ofSource quiet.filename entry)) ∧
    (∀ entry ∈ counting, ¬Text.AsksPath entry) ∧
    ∃ last ending, Yields (trial quiet (joined counting) 5 ()) (.ok (), last) ∧
      last.store.Tidy (Renumbered quiet.filename counting) ∧
      Yields (apart quiet counting 5 ()) (.ok (), ending) ∧ ending.output = last.output ∧
      ending.store.Tidy (flip (Renumbered quiet.filename counting)) ∧
      ∃ again, Yields (trial quiet (joined counting) 5 ()) (.ok (), again) ∧
        again.output = ending.output := by
  have complete : ∀ entry ∈ counting, Cursor.Complete (Line.ofSource quiet.filename entry) := by
    decide +kernel
  have unmarked : ∀ entry ∈ counting, '#' ∉ entry := by decide
  have hushed : ∀ entry ∈ counting, ¬Text.AsksPath entry :=
    fun entry member asks => unmarked entry member (Text.asks_mark entry asks)
  have faithful := renumbered_faithful quiet.filename counting hushed
  have turned (label mate : Text) (renames : Renames (flip (Renumbered quiet.filename counting)) label mate) :
      (label, mate) ∈ (renamings quiet.filename counting).map Prod.swap :=
    List.mem_map.mpr ⟨_, renamings_listed _ _ _ _ (renames_flip faithful renames), rfl⟩
  have whole : (trial quiet (joined counting) 5 () 60).map (fun ending => (ending.1.toOption,
      decide (ending.2.store.Clear (renamings quiet.filename counting)))) = some (some (), true) := by
    decide +kernel
  have parts : (apart quiet counting 5 () 60).map (fun ending => (ending.1.toOption,
      decide (ending.2.store.Clear ((renamings quiet.filename counting).map Prod.swap)))) =
        some (some (), true) := by
    decide +kernel
  obtain ⟨last, yields, clear⟩ := succeeds (trial quiet (joined counting) 5 ())
    (fun last => decide (last.store.Clear (renamings quiet.filename counting)))
    (run_more quiet (joined counting) _ quiet_unobserved) whole
  obtain ⟨ending, beside, apart⟩ := succeeds (apart quiet counting 5 ())
    (fun last => decide (last.store.Clear ((renamings quiet.filename counting).map Prod.swap)))
    (fun less more done => run_each_more less more counting _ done) parts
  have tidy := Store.tidy_clear (renamings_listed quiet.filename counting) (of_decide_eq_true clear)
  have neat := Store.tidy_clear turned (of_decide_eq_true apart)
  have agree := entries_joined quiet counting 5 () quiet_unobserved rfl complete hushed
  obtain ⟨found, same, written⟩ := agree.1 last yields tidy
  obtain ⟨enough, computed⟩ := same.1
  cases beside.2 enough _ (computed enough (Nat.le_refl enough))
  exact ⟨quiet_unobserved, rfl, complete, hushed, last, ending, yields, tidy, beside, written, neat,
    agree.2 ending beside neat⟩

def sharing : List Text :=
  ["if 1 is 1 do\nset Y a\nend".toList, "set Y b".toList, "if 1 is 1 do\nprint \x7bY\x7d\nend".toList]

theorem entries_disagree : ¬∀ entries : List Text,
    (∀ entry ∈ entries, Cursor.Complete (Line.ofSource quiet.filename entry)) →
      (∀ entry ∈ entries, ¬Text.AsksPath entry) →
      ∀ last, Yields (trial quiet (joined entries) 5 ()) (.ok (), last) →
        ∃ ending, Yields (apart quiet entries 5 ()) (.ok (), ending) ∧ ending.output = last.output := by
  intro agree
  have unmarked : ∀ entry ∈ sharing, '#' ∉ entry := by decide
  have whole : (trial quiet (joined sharing) 5 () 40).map (fun ending =>
      (ending.1.toOption, ending.2.output)) = some (some (), ["b".toList]) := by
    decide +kernel
  have parts : (apart quiet sharing 5 () 40).map (fun ending =>
      (ending.1.toOption, ending.2.output)) = some (some (), ["a".toList]) := by
    decide +kernel
  have hushed : ∀ entry ∈ sharing, ¬Text.AsksPath entry :=
    fun entry member asks => unmarked entry member (Text.asks_mark entry asks)
  obtain ⟨last, yields, written⟩ := succeeds (trial quiet (joined sharing) 5 ()) (·.output)
    (run_more quiet (joined sharing) _ quiet_unobserved) whole
  obtain ⟨ending, beside, differs⟩ := succeeds (apart quiet sharing 5 ()) (·.output)
    (fun less more done => run_each_more less more sharing _ done) parts
  obtain ⟨found, same, agrees⟩ := agree sharing (by decide +kernel) hushed last yields
  obtain ⟨enough, computed⟩ := same.1
  cases beside.2 enough _ (computed enough (Nat.le_refl enough))
  rw [written, differs] at agrees
  cases agrees

end Machine
end BareBones
