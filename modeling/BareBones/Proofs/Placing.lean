import BareBones.Proofs.Deeper
import BareBones.Proofs.Parentage

set_option autoImplicit false

namespace BareBones

structure Journal.Numbered {ι : Type} (capacity : Nat) (journal : Journal ι) : Prop where
  sized : journal.capacity = capacity
  newest : journal.last?.map (·.step) =
    if 0 < capacity ∧ 0 < journal.steps then some journal.steps else none

namespace Journal

variable {ι : Type} [DecidableEq ι] {capacity : Nat}

omit [DecidableEq ι] in
theorem numbered_empty (capacity : Nat) : (empty capacity : Journal ι).Numbered capacity := by
  refine ⟨rfl, ?_⟩
  simp [empty, last?]

theorem numbered_record {journal : Journal ι} (frame : Option ι) (location : Option Location)
    (label : Text) (snapshot : Option Snapshot) (numbered : journal.Numbered capacity) :
    (journal.record frame location label snapshot).Numbered capacity := by
  obtain ⟨same, _⟩ := numbered
  refine ⟨same, ?_⟩
  cases capacity with
  | zero => simp [record, last?, same]
  | succ room => simp [record, last?, same, nextEntry]

theorem numbered_forget {journal : Journal ι} (frame : ι) (numbered : journal.Numbered capacity) :
    (journal.forget frame).Numbered capacity :=
  ⟨numbered.sized, numbered.newest⟩

end Journal

namespace Machine

variable {σ : Type} {settings : Settings σ} {capacity : Nat}

theorem record_numbered (here : Activation) (statement : Statement) (world : World)
    (numbered : world.journal.Numbered capacity) :
    (Deed.record settings here statement).Ensures world
      (fun _ after => after.journal.Numbered capacity)
      (fun _ after => after.journal.Numbered capacity) := by
  have fails := Deed.record_ensures settings here statement world
  unfold Deed.Ensures at fails ⊢
  cases done : Deed.record settings here statement world with
  | mk result after =>
      rw [done] at fails
      cases result with
      | error failure =>
          rw [show after = world from fails]
          exact numbered
      | ok _ =>
          obtain ⟨snapshot, rfl⟩ := Deed.record_answers done
          exact Journal.numbered_record _ _ _ _ numbered

theorem turn_numbered {before : World} {stack : List Frame} {frame : Frame} {below : List Frame}
    {deed : Deed (Cursor × Option Frame)} (turn : Turn settings stack frame below deed)
    (standing : Standing settings before stack) (numbered : before.journal.Numbered capacity) :
    deed.Ensures before (fun _ after => after.journal.Numbered capacity)
      (fun _ after => after.journal.Numbered capacity) := by
  cases turn with
  | line _ _ line rest taking =>
      refine Deed.ensures_still (Deed.still_settled _) (fun _ => numbered) ?_
      intro statement _
      refine Deed.ensures_then (record_numbered _ statement before numbered) ?_
      intro _ recorded kept
      refine Deed.ensures_mono (Deed.perform_performing settings _ statement rest recorded) ?_ ?_
      · rintro next after ⟨_, journal, _⟩
        rwa [journal]
      · rintro failure after ⟨_, journal, _⟩
        rwa [journal]
  | back ended _ _ spent =>
      have forgotten := Journal.numbered_forget ended.id numbered
      refine Deed.ensures_mono (return_footprint _ standing.stacked) ?_ ?_
      · rintro next after ⟨_, journal, _⟩
        rwa [journal]
      · rintro failure after rfl
        exact forgotten

theorem reaches_numbered {before after : Machine σ} (unobserved : settings.Unobserved)
    (path : Reaches settings before after) (standing : Standing settings before.world before.stack)
    (numbered : before.journal.Numbered capacity) : after.journal.Numbered capacity := by
  induction path with
  | refl => exact numbered
  | @tail middle after path goes ih =>
      obtain ⟨frame, below, deed, next, turn, done, _⟩ :=
        goes_turn settings middle after unobserved goes
      have stands := (reaches_standing unobserved path standing).1
      exact Deed.ensures_answered (turn_numbered turn stands ih) done

inductive Culprit (lines : List Line) : List Frame → Frame → Line → Prop
  | dispatched {top : Frame} {below : List Frame} {line : Line} {rest : Cursor}
      (taking : Cursor.next? top.cursor = some (line, rest)) : Culprit lines (top :: below) top line
  | walked {top : Frame} {below : List Frame} {line clause : Line} {rest : Cursor} {predicate : Text}
      (taking : Cursor.next? top.cursor = some (line, rest))
      (reading : Statement.read line = .ok ⟨line.location, .branch predicate⟩)
      (found : Block.Clause rest clause) : Culprit lines (top :: below) top clause
  | tested {body top : Frame} {below : List Frame} {header : Line} {predicate : Text} {block : Block}
      (spent : Cursor.next? body.cursor = none)
      (resumes : body.resume = some (.loop ⟨header.location, .loop predicate⟩ predicate block))
      (reading : Statement.read header = .ok ⟨header.location, .loop predicate⟩) :
      Culprit lines (body :: top :: below) top header
  | skipped {body top : Frame} {below : List Frame} {header terminator : Line} {rest : Cursor}
      {predicate : Text} (spent : Cursor.next? body.cursor = none)
      (resumes : body.resume = some (.branch ⟨header.location, .branch predicate⟩ terminator))
      (drawn : (header :: rest).Sublist lines)
      (reading : Statement.read header = .ok ⟨header.location, .branch predicate⟩)
      (found : Block.Clause rest terminator) : Culprit lines (body :: top :: below) top terminator

theorem places_culprit {world : World} {lines : List Line} {stack below : List Frame} {top : Frame}
    {deed : Deed (Cursor × Option Frame)} {place : Location}
    (turn : Turn settings stack top below deed) (drawn : Drawn lines world stack)
    (parented : Parented lines stack) (known : places stack place) :
    ∃ line ∈ lines, line.isBlank = false ∧ place = line.location ∧ Culprit lines stack top line := by
  cases turn with
  | line _ _ line rest taking =>
      obtain ⟨ahead, solid⟩ := Cursor.next_drawn top.cursor rest line taking
      have whole := ahead.trans (drawn.frames top List.mem_cons_self).cursor
      rcases known with ⟨other, left, again, known⟩ | ⟨spent, _⟩
      · cases taking.symm.trans again
        rcases known with rfl | ⟨predicate, clause, reading, found, rfl⟩
        · exact ⟨line, whole.subset List.mem_cons_self, solid, rfl, .dispatched taking⟩
        · obtain ⟨member, solid⟩ := Block.clause_drawn found
          exact ⟨clause, whole.subset (List.mem_cons_of_mem _ member), solid, rfl,
            .walked taking reading found⟩
      · cases taking.symm.trans spent
  | back ended _ _ spent =>
      rcases known with ⟨other, left, again, _⟩ | ⟨_, known⟩
      · cases again.symm.trans spent
      · rcases parented ended List.mem_cons_self with program | ⟨construct, _, resume, same, spawns⟩
        · rw [program] at known
          cases known
        · rw [same] at known
          cases spawns with
          | @loop header _ _ stands solid reading =>
              exact ⟨header, stands, solid, known, .tested spent same reading⟩
          | @branch _ _ terminator _ _ ahead _ reading _ ends =>
              obtain ⟨clause, rfl⟩ := known
              obtain ⟨member, solid⟩ := Block.clause_drawn (ends clause)
              exact ⟨terminator, ahead.subset (List.mem_cons_of_mem _ member), solid, rfl,
                .skipped spent same ahead reading (ends clause)⟩
          | call _ _ _ => cases known

theorem fault_of_step {machine : Machine σ} (failure : Failure)
    (numbered : machine.journal.Numbered capacity)
    (plain : ∀ fault, failure = .fault fault → fault.step = none) :
    (machine.faultOf failure).step =
      if 0 < capacity ∧ 0 < machine.journal.steps then some machine.journal.steps else none := by
  rw [← numbered.newest]
  unfold faultOf
  cases machine.journal.last? with
  | some entry => cases failure <;> rfl
  | none =>
      cases failure with
      | fault fault => exact plain fault rfl
      | signal signal => rfl
      | breakdown breakdown => rfl

theorem fault_of_location (machine : Machine σ) (fault : Fault) :
    (machine.faultOf (.fault fault)).location = fault.location := by
  unfold faultOf
  cases machine.journal.last? <;> rfl

-- Where a run fails by more than a breakdown of the machinery, it does so at the line that is to blame, and
-- no lines are ever asked for that are not there.
theorem failures_placed (settings : Settings σ) (source : Text) (capacity : Nat) (host : σ)
    (unobserved : settings.Unobserved) :
    let start := opening settings source (fresh (.empty capacity) host)
    let lines := Line.ofSource settings.filename source
    (∀ before after signal, Reaches settings start before →
        step settings before ≠ (.error (.signal signal), after)) ∧
      ∀ fuel failure machine,
        run settings fuel source (fresh (.empty capacity) host) = some (.error failure, machine) →
        ∃ fault, failure = .fault fault ∧
          fault.step = (if 0 < capacity ∧ 0 < machine.journal.steps then some machine.journal.steps
            else none) ∧
          ((∀ message, fault.cause ≠ .internal message) →
            ∃ last failed line top cursor below, Reaches settings start last ∧
              step settings last = (.error failed, machine) ∧
              line ∈ lines ∧ line.isBlank = false ∧ fault.location = some line.location ∧
              machine.stack = top.moved cursor :: below ∧ Culprit lines last.stack top line) := by
  intro start lines
  have attends := opening_attended settings source (.empty capacity) host
  have stands := opening_standing settings source capacity host
  have draws := opening_drawn settings source (.empty capacity) host
  have parents : Parented lines start.stack := opening_parented settings source (.empty capacity) host
  constructor
  · intro before after signal path failed
    have attended := reaches_attended unobserved path attends
    obtain ⟨here, _, blame⟩ := fails_blame unobserved failed attended
    rcases Deed.blame_cases blame with ⟨_, _, _, impossible⟩ | ⟨_, impossible, _⟩
    · cases impossible
    · cases impossible
  · intro fuel failure machine ran
    rw [run_unobserved settings _ _ _ unobserved] at ran
    obtain ⟨⟨result, after⟩, driven, same⟩ := Option.map_eq_some_iff.mp ran
    obtain ⟨last, path, ended⟩ := drive_ends settings fuel _ after result driven
    cases result with
    | ok _ => cases same
    | error failed =>
        cases same
        obtain ⟨top, below, deed, cursor, turn, done, stack⟩ :=
          fails_turn settings last _ failed unobserved ended
        have attended := reaches_attended unobserved path attends
        have standing := (reaches_standing unobserved path stands).1
        have counts := reaches_numbered unobserved path stands (Journal.numbered_empty capacity)
        have numbered := Deed.ensures_failed (turn_numbered turn standing counts) done
        have blame := Deed.blame_cases (Deed.ensures_failed (turn_blame turn attended _) done)
        refine ⟨_, rfl, ?_, ?_⟩
        · refine fault_of_step failed numbered ?_
          rintro fault rfl
          rcases blame with ⟨place, cause, _, same⟩ | ⟨_, impossible, _⟩
          · cases same
            rfl
          · cases impossible
        · intro outer
          rcases blame with ⟨place, cause, known, rfl⟩ | ⟨broken, rfl, _⟩
          · have drawn := reaches_drawn unobserved path draws
            have parented := reaches_parented unobserved path draws parents
            obtain ⟨line, member, solid, located, culprit⟩ :=
              places_culprit turn drawn parented known
            refine ⟨last, _, line, top, cursor, below, path, ended, member, solid, ?_, stack,
              culprit⟩
            rw [fault_of_location, located]
            rfl
          · exact absurd (fault_of_cause machine _) (outer _)

theorem failures_placed_failing : quiet.Unobserved ∧ ∃ fault machine line,
    run quiet 3 failing (fresh (.empty 5) ()) = some (.error (.fault fault), machine) ∧
      fault.cause = .undefined "Y".toList ∧ fault.step = some 3 ∧
      line ∈ Line.ofSource quiet.filename failing ∧ fault.location = some line.location := by
  have outline : (run quiet 3 failing (fresh (.empty 5) ())).bind (fun ending =>
      ending.refusal?.map fun refusal => (refusal.1, ending.2.journal.steps)) =
        some (.undefined "Y".toList, 3) := by decide +kernel
  obtain ⟨⟨result, machine⟩, ran, refusal⟩ := Option.bind_eq_some_iff.mp outline
  obtain ⟨⟨cause, written⟩, refused, told⟩ := Option.map_eq_some_iff.mp refusal
  have undefined : cause = .undefined "Y".toList := congrArg Prod.fst told
  have third : machine.journal.steps = 3 := congrArg Prod.snd told
  cases result with
  | ok _ => cases refused
  | error failure =>
      obtain ⟨fault, rfl, number, placed⟩ :=
        (failures_placed quiet failing 5 () quiet_unobserved).2 3 failure machine ran
      have caused : fault.cause = .undefined "Y".toList :=
        (congrArg Prod.fst (Option.some.inj refused)).trans undefined
      have outer : ∀ message, fault.cause ≠ .internal message := by
        intro message same
        rw [caused] at same
        cases same
      obtain ⟨_, _, line, _, _, _, _, _, member, _, located, _⟩ := placed outer
      refine ⟨quiet_unobserved, fault, machine, line, ran, caused, ?_, member, located⟩
      rw [number, third]
      rfl

end Machine
end BareBones
