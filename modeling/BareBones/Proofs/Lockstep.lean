import BareBones.Proofs.Course

set_option autoImplicit false

namespace BareBones

-- Which worlds of two runs belong together, and by which failures the first run may leave the other.
structure Bond where
  linked : World → World → Prop
  excused : Failure → Prop

def Bond.same (excused : Failure → Prop) : Bond :=
  ⟨Eq, excused⟩

def Value.Interchangeable (one other : Value) : Prop :=
  one.integer? = other.integer? ∧ one.written = other.written

namespace Bindings

variable {κ α β : Type} [DecidableEq κ]

theorem put_map (view : α → β) (key : κ) (value : α) (bindings : Bindings κ α) :
    (put key value bindings).map (Prod.map id view) =
      put key (view value) (bindings.map (Prod.map id view)) := by
  induction bindings with
  | nil => rfl
  | cons binding rest ih =>
      by_cases same : binding.1 = key
      · simp only [put, same, if_true, List.map_cons, Prod.map, id_eq]
      · simp only [put, same, if_false, List.map_cons, Prod.map, id_eq]
        exact congrArg _ ih

theorem erase_map (view : α → β) (key : κ) (bindings : Bindings κ α) :
    (erase key bindings).map (Prod.map id view) = erase key (bindings.map (Prod.map id view)) := by
  unfold erase
  rw [List.filter_map]
  rfl

end Bindings

namespace Journal

variable {β : Type} {view : Entry Nat → β} {one other : Journal Nat}

def seen (view : Entry Nat → β) (journal : Journal Nat) : Nat × Nat × List β × Bindings Nat β :=
  (journal.capacity, journal.steps, journal.recent.map view, journal.latest.map (Prod.map id view))

theorem record_seen (frame : Option Nat) {location place : Option Location} {label name : Text}
    {snapshot taken : Option Snapshot} (same : one.seen view = other.seen view)
    (entry : view (one.nextEntry frame location label snapshot) =
      view (other.nextEntry frame place name taken)) :
    (one.record frame location label snapshot).seen view =
      (other.record frame place name taken).seen view := by
  simp only [seen, Prod.mk.injEq] at same
  obtain ⟨capacity, steps, recent, latest⟩ := same
  simp only [seen, record, List.map_take, List.map_cons, capacity, steps, recent, entry, Prod.mk.injEq,
    true_and]
  cases frame with
  | none => exact latest
  | some live =>
      dsimp only
      rw [Bindings.put_map, Bindings.put_map, latest, entry]

theorem forget_seen (id : Nat) (same : one.seen view = other.seen view) :
    (one.forget id).seen view = (other.forget id).seen view := by
  simp only [seen, Prod.mk.injEq] at same
  obtain ⟨capacity, steps, recent, latest⟩ := same
  simp only [seen, forget, capacity, steps, recent, Bindings.erase_map, latest]

theorem last_seen (same : one.seen view = other.seen view) :
    one.last?.map view = other.last?.map view := by
  have recent : one.recent.map view = other.recent.map view := congrArg (·.2.2.1) same
  rw [last?, last?, ← List.head?_map, ← List.head?_map, recent]

theorem steps_seen (same : one.seen view = other.seen view) : one.steps = other.steps :=
  congrArg (·.2.1) same

end Journal

def Frame.Alias (numbers : Nat → Nat → Prop) (one other : Frame) : Prop :=
  numbers one.id other.id ∧ other = { one with id := other.id }

theorem Frame.alias_eq {one other : Frame} (aliased : Alias Eq one other) : one = other := by
  obtain ⟨number, same⟩ := aliased
  rw [same, ← number]

namespace Deed

variable {σ τ α β γ δ : Type} {bond : Bond}

-- How two deeds come out alike: both answer, or both fail in the same way, or the first is excused.
inductive Pairs (bond : Bond) (agree : α → β → Prop) :
    Except Failure α × World → Except Failure β × World → Prop
  | answered {a : α} {b : β} {one other : World} (agrees : agree a b) (link : bond.linked one other) :
      Pairs bond agree (.ok a, one) (.ok b, other)
  | failed {failure : Failure} {one other : World} (link : bond.linked one other) :
      Pairs bond agree (.error failure, one) (.error failure, other)
  | excused {failure : Failure} {one : World} {done : Except Failure β × World}
      (excuse : bond.excused failure) : Pairs bond agree (.error failure, one) done

def Paired (bond : Bond) (agree : α → β → Prop) (deed : Deed α) (counterpart : Deed β) : Prop :=
  ∀ one other, bond.linked one other → Pairs bond agree (deed one) (counterpart other)

section

variable {deed : Deed α} {counterpart : Deed β} {agree : α → β → Prop} {meets : γ → δ → Prop}

theorem paired_bind {next : α → Deed γ} {after : β → Deed δ}
    (first : Paired bond agree deed counterpart)
    (second : ∀ a b, agree a b → Paired bond meets (next a) (after b)) :
    Paired bond meets (deed >>= next) (counterpart >>= after) := by
  intro one other link
  have step := first one other link
  rw [effect_bind, effect_bind]
  generalize deed one = done, counterpart other = expected at step
  cases step with
  | answered agrees link => exact second _ _ agrees _ _ link
  | failed link => exact .failed link
  | excused excuse => exact .excused excuse

theorem paired_same {counterpart : Deed α} {next : α → Deed γ} {after : α → Deed δ}
    (first : Paired bond Eq deed counterpart) (second : ∀ a, Paired bond meets (next a) (after a)) :
    Paired bond meets (deed >>= next) (counterpart >>= after) := by
  apply paired_bind first
  rintro a _ rfl
  exact second a

theorem paired_pure (a : α) (b : β) (agrees : agree a b) : Paired bond agree (pure a) (pure b) :=
  fun _ _ link => .answered agrees link

theorem paired_settled (result : Except Failure α) :
    Paired bond Eq (settled result) (settled result) := by
  intro one other link
  cases result with
  | ok a => exact .answered rfl link
  | error failure => exact .failed link

theorem paired_self {excused : Failure → Prop} (deed : Deed α) :
    Paired (.same excused) Eq deed deed := by
  rintro one _ rfl
  generalize deed one = done
  rcases done with ⟨failure | a, after⟩
  · exact .failed rfl
  · exact .answered rfl rfl

theorem paired_mono {weaker : α → β → Prop} (paired : Paired bond agree deed counterpart)
    (implies : ∀ a b, agree a b → weaker a b) : Paired bond weaker deed counterpart := by
  intro one other link
  have step := paired one other link
  generalize deed one = done, counterpart other = expected at step ⊢
  cases step with
  | answered agrees link => exact .answered (implies _ _ agrees) link
  | failed link => exact .failed link
  | excused excuse => exact .excused excuse

theorem paired_interchangeable {deed counterpart : Deed Value}
    (paired : Paired bond Eq deed counterpart) :
    Paired bond Value.Interchangeable deed counterpart := by
  refine paired_mono paired ?_
  rintro value _ rfl
  exact ⟨rfl, rfl⟩

theorem paired_modify {change other : World → World}
    (kept : ∀ one there, bond.linked one there → bond.linked (change one) (other there)) :
    Paired bond Eq (modify change : Deed PUnit) (modify other) :=
  fun one there link => .answered rfl (kept one there link)

theorem evaluate_paired (here : Activation) (location : Location)
    (expression : Env → Except Failure α)
    (same : ∀ one other, bond.linked one other →
      expression (here.env one) = expression (here.env other)) :
    Paired bond Eq (evaluate here location expression) (evaluate here location expression) := by
  intro one other link
  change Pairs bond Eq (placed location (expression (here.env one)), one)
    (placed location (expression (here.env other)), other)
  rw [same one other link]
  exact paired_settled _ one other link

theorem find_paired (here : Activation) (location : Location) (name : Text)
    (same : ∀ one other, bond.linked one other →
      one.store.function? here.path name = other.store.function? here.path name) :
    Paired bond Eq (find here location name) (find here location name) := by
  intro one other link
  unfold find
  rw [effect_bind, effect_bind, effect_get, effect_get]
  dsimp only
  rw [same one other link]
  cases other.store.function? here.path name with
  | none => exact .failed link
  | some block => exact .answered rfl link

theorem spawn_paired (settings : Settings σ) (others : Settings τ) (here : Activation)
    (location : Location) (limit : settings.maxDepth = others.maxDepth)
    (numbered : ∀ one other, bond.linked one other → one.created = other.created ∧
      bond.linked { one with created := one.created + 1 } { other with created := other.created + 1 }) :
    Paired bond Eq (spawn settings here location) (spawn others here location) := by
  unfold spawn
  rw [limit]
  apply paired_same (paired_settled _)
  intro _ one other link
  obtain ⟨same, further⟩ := numbered one other link
  exact .answered same further

end

structure Reads (bond : Bond) : Prop where
  holds : ∀ here predicate location,
    Paired bond Eq (holds here predicate location) (holds here predicate location)
  expand : ∀ here location format,
    Paired bond Eq (evaluate here location (·.expand format)) (evaluate here location (·.expand format))
  value : ∀ here location name,
    Paired bond Value.Interchangeable (readVariable here location name) (readVariable here location name)
  assign : ∀ here name value, Paired bond Eq (assign here name value) (assign here name value)
  define : ∀ here name block, Paired bond Eq (define here name block) (define here name block)
  enter : ∀ here label, Paired bond Eq (enter here label) (enter here label)
  find : ∀ here location name, Paired bond Eq (find here location name) (find here location name)

structure Bridge (bond : Bond) (settings : Settings σ) (others : Settings τ) : Prop extends Reads bond where
  record : ∀ here statement,
    Paired bond Eq (record settings here statement) (record others here statement)
  spawn : ∀ here location, Paired bond Eq (spawn settings here location) (spawn others here location)
  leave : ∀ id, Paired bond Eq (leave id) (leave id)

def Emits (bond : Bond) (settings : Settings σ) (others : Settings τ) (location : Location) : Prop :=
  ∀ text, Paired bond Eq (emit settings location text) (emit others location text)

section

variable {settings : Settings σ} {others : Settings τ}

theorem bridge_self {excused : Failure → Prop} (verbose : settings.verbose = others.verbose)
    (spawn : ∀ here location,
      Paired (.same excused) Eq (spawn settings here location) (spawn others here location)) :
    Bridge (.same excused) settings others where
  record here statement := by
    unfold record
    rw [verbose]
    exact paired_self _
  holds here predicate location := paired_self (holds here predicate location)
  expand here location format := paired_self (evaluate here location (·.expand format))
  value here location name := paired_interchangeable (paired_self (readVariable here location name))
  assign here name value := paired_self (assign here name value)
  define here name block := paired_self (define here name block)
  enter here label := paired_self (enter here label)
  find here location name := paired_self (find here location name)
  spawn := spawn
  leave id := paired_self (leave id)

theorem emits_self {excused : Failure → Prop} (verbose : settings.verbose = others.verbose)
    (location : Location) : Emits (.same excused) settings others location := by
  intro text
  unfold emit
  rw [verbose]
  exact paired_self _

theorem admits_paired (reads : Reads bond) (here : Activation) (location : Location)
    (predicate : Option Text) :
    Paired bond Eq (admits here location predicate) (admits here location predicate) := by
  cases predicate with
  | some text => exact reads.holds here text location
  | none => exact paired_pure true true rfl

theorem choose_paired (reads : Reads bond) (here : Activation)
    (predicate : Option Text) (location : Location) (cursor : Cursor) :
    Paired bond Eq (choose here predicate location cursor) (choose here predicate location cursor) := by
  cases reading : Block.read BlockKind.branch.keyword location true cursor with
  | error fault =>
      rw [choose_unread here predicate location cursor fault reading]
      exact paired_settled _
  | ok carved =>
      obtain ⟨block, rest⟩ := carved
      rw [choose_read here predicate location cursor rest block reading]
      apply paired_same (admits_paired reads here location predicate)
      intro taken
      split
      · exact paired_pure _ _ rfl
      · split
        · exact paired_pure _ _ rfl
        · cases taking : Cursor.next? rest with
          | none => exact paired_settled _
          | some ahead =>
              obtain ⟨line, after⟩ := ahead
              dsimp only
              cases Boundary.readElse line with
              | error fault => exact paired_settled _
              | ok next => exact choose_paired reads here next line.location after
termination_by cursor.length
decreasing_by
  have kept := Block.read_rest_length reading
  have shorter := Cursor.next_shorter _ _ _ taking
  omega

theorem skip_paired (terminator : Line) (cursor : Cursor) :
    Paired bond Eq (skip terminator cursor) (skip terminator cursor) := by
  unfold skip
  split
  · split
    · exact paired_settled _
    · exact paired_same (paired_settled _) fun _ => paired_pure _ _ rfl
  · exact paired_pure _ _ rfl

theorem count_paired (reads : Reads bond) (here : Activation) (location : Location)
    (direction : Direction) (name : Text) :
    Paired bond Eq (count here location direction name) (count here location direction name) := by
  apply paired_bind (reads.value here location name)
  rintro one other ⟨integer, text⟩
  rw [integer]
  apply paired_same (paired_settled _)
  intro number
  cases number with
  | some n => exact reads.assign here name _
  | none =>
      unfold written
      rw [text]
      exact paired_same (paired_settled _) fun _ => paired_settled _

theorem at_once_paired (reads : Reads bond) (here : Activation)
    (statement : Statement) (emits : Emits bond settings others statement.location) :
    Paired bond Eq (atOnce settings here statement) (atOnce others here statement) := by
  rcases statement with ⟨location, command⟩
  cases command with
  | clear name => exact reads.assign here name _
  | count direction name => exact count_paired reads here location direction name
  | debug name =>
      apply paired_bind (reads.value here location name)
      rintro one other ⟨_, text⟩
      unfold written
      rw [text]
      exact paired_same (paired_settled _) fun written => emits _
  | print format => exact paired_same (reads.expand here location format) fun text => emits text
  | assign name format =>
      exact paired_same (reads.expand here location format) fun text => reads.assign here name _
  | _ => exact paired_settled _

def Kin (numbers : Nat → Nat → Prop) (one other : Cursor × Option Frame) : Prop :=
  one.1 = other.1 ∧ Option.Rel (Frame.Alias numbers) one.2 other.2

theorem kin_eq {one other : Cursor × Option Frame} (kin : Kin Eq one other) : one = other := by
  obtain ⟨cursor, frame⟩ := one
  obtain ⟨there, counterpart⟩ := other
  obtain ⟨rfl, frames⟩ := kin
  cases frames with
  | none => rfl
  | some aliased => exact congrArg (cursor, some ·) (Frame.alias_eq aliased)

section

variable {numbers : Nat → Nat → Prop} (reads : Reads bond)
  (spawns : ∀ here location, Paired bond numbers (spawn settings here location) (spawn others here location))

include reads spawns

theorem round_numbered (here : Activation) (statement : Statement) (predicate : Text) (block : Block) :
    Paired bond (Option.Rel (Frame.Alias numbers)) (round settings here statement predicate block)
      (round others here statement predicate block) := by
  apply paired_same (reads.holds here predicate statement.location)
  intro holds
  cases holds with
  | true =>
      exact paired_bind (spawns here statement.location) fun _ _ number =>
        paired_pure _ _ (.some ⟨number, rfl⟩)
  | false => exact paired_pure _ _ .none

theorem perform_numbered (here : Activation) (statement : Statement) (rest : Cursor)
    (emits : Emits bond settings others statement.location) :
    Paired bond (Kin numbers) (perform settings here statement rest)
      (perform others here statement rest) := by
  have plain : Paired bond (Kin numbers)
      (do atOnce settings here statement; return (rest, (none : Option Frame)))
      (do atOnce others here statement; return (rest, none)) :=
    paired_same (at_once_paired reads here statement emits) fun _ => paired_pure _ _ ⟨rfl, .none⟩
  rcases statement with ⟨location, command⟩
  cases command with
  | define name =>
      apply paired_same (paired_settled _)
      rintro ⟨block, left⟩
      exact paired_same (reads.define here name block) fun _ => paired_pure _ _ ⟨rfl, .none⟩
  | loop predicate =>
      apply paired_same (paired_settled _)
      rintro ⟨block, left⟩
      apply paired_same (reads.enter here _)
      intro _
      exact paired_bind (round_numbered reads spawns here _ predicate block) fun _ _ frames =>
        paired_pure _ _ ⟨rfl, frames⟩
  | branch predicate =>
      apply paired_same (choose_paired reads here (some predicate) location rest)
      rintro ⟨chosen, left⟩
      cases chosen with
      | none => exact paired_pure _ _ ⟨rfl, .none⟩
      | some taken =>
          obtain ⟨block, clause⟩ := taken
          apply paired_same (reads.enter here _)
          intro _
          exact paired_bind (spawns here clause) fun _ _ number =>
            paired_pure _ _ ⟨rfl, .some ⟨number, rfl⟩⟩
  | call name arguments =>
      apply paired_same (reads.find here location name)
      intro block
      apply paired_same (reads.enter here name)
      intro _
      exact paired_bind (spawns here location) fun _ _ number =>
        paired_pure _ _ ⟨rfl, .some ⟨number, rfl⟩⟩
  | clear name => exact plain
  | count direction name => exact plain
  | debug name => exact plain
  | print format => exact plain
  | assign name format => exact plain
  | unsupported => exact plain

theorem complete_numbered (here : Activation) (cursor : Cursor) (pending : Option Resume) :
    Paired bond (Kin numbers) (complete settings here cursor pending)
      (complete others here cursor pending) := by
  rcases pending with _ | ⟨statement, predicate, block⟩ | ⟨statement, terminator⟩ | _
  · exact paired_pure _ _ ⟨rfl, .none⟩
  · exact paired_bind (round_numbered reads spawns here statement predicate block) fun _ _ frames =>
      paired_pure _ _ ⟨rfl, frames⟩
  · exact paired_same (skip_paired terminator cursor) fun _ => paired_pure _ _ ⟨rfl, .none⟩
  · exact paired_pure _ _ ⟨rfl, .none⟩

end

theorem perform_paired (bridge : Bridge bond settings others) (here : Activation)
    (statement : Statement) (rest : Cursor) (emits : Emits bond settings others statement.location) :
    Paired bond Eq (perform settings here statement rest) (perform others here statement rest) :=
  paired_mono (perform_numbered bridge.toReads bridge.spawn here statement rest emits) fun _ _ => kin_eq

theorem complete_paired (bridge : Bridge bond settings others) (here : Activation) (cursor : Cursor)
    (pending : Option Resume) :
    Paired bond Eq (complete settings here cursor pending) (complete others here cursor pending) :=
  paired_mono (complete_numbered bridge.toReads bridge.spawn here cursor pending) fun _ _ => kin_eq

theorem launch_paired (bridge : Bridge bond settings others) (here : Activation) (line : Line)
    (rest : Cursor) (emits : Emits bond settings others line.location) :
    Paired bond Eq (launch settings here line rest) (launch others here line rest) := by
  unfold launch read
  cases reading : Statement.read line with
  | error failure => exact fun _ _ link => .failed link
  | ok statement =>
      rw [← Machine.read_location line statement reading] at emits
      have started : Paired bond Eq (start settings here statement rest)
          (start others here statement rest) :=
        paired_same (bridge.record here statement) fun _ =>
          perform_paired bridge here statement rest emits
      exact started

end

end Deed

namespace Machine

variable {σ τ α : Type} {bond : Bond}

inductive Together (bond : Bond) :
    Except Failure α × Machine σ → Except Failure α × Machine τ → Prop
  | answered {a : α} {one : Machine σ} {other : Machine τ} (same : one.stack = other.stack)
      (link : bond.linked one.world other.world) : Together bond (.ok a, one) (.ok a, other)
  | failed {failure : Failure} {one : Machine σ} {other : Machine τ} (frame : Frame)
      (below : List Frame) (here there : Cursor) (stands : one.stack = frame.moved here :: below)
      (beside : other.stack = frame.moved there :: below) (link : bond.linked one.world other.world) :
      Together bond (.error failure, one) (.error failure, other)
  | excused {failure : Failure} {one : Machine σ} {done : Except Failure α × Machine τ}
      (excuse : bond.excused failure) : Together bond (.error failure, one) done

theorem outcomes_together {frame : Frame} {below : List Frame}
    {done : Except Failure Bool × Machine σ} {counterpart : Except Failure Bool × Machine τ}
    {expected other : Except Failure (Cursor × Option Frame) × World}
    (outcome : Outcomes id frame below (Going frame below) done expected)
    (beside : Outcomes id frame below (Going frame below) counterpart other)
    (pairs : Deed.Pairs bond Eq expected other) : Together bond done counterpart := by
  cases pairs with
  | answered agrees link =>
      cases agrees
      cases outcome with
      | answered met =>
          cases beside with
          | answered near =>
              obtain ⟨rfl, stack⟩ := met
              obtain ⟨rfl, same⟩ := near
              exact .answered (stack.trans same.symm) link
  | failed link =>
      cases outcome with
      | failed here stands =>
          cases beside with
          | failed there near => exact .failed frame below here there stands near link
  | excused excuse =>
      cases outcome with
      | failed here stands => exact .excused excuse

section

variable {settings : Settings σ} {others : Settings τ}

theorem step_together (bridge : Deed.Bridge bond settings others) (discreet : Discreet settings)
    (silent : Discreet others) (one : Machine σ) (other : Machine τ)
    (emits : ∀ frame line rest, one.stack.head? = some frame →
      Cursor.next? frame.cursor = some (line, rest) → Deed.Emits bond settings others line.location)
    (same : one.stack = other.stack) (link : bond.linked one.world other.world) :
    Together bond (step settings one) (step others other) := by
  cases stands : one.stack with
  | nil =>
      have beside := same.symm.trans stands
      rw [step_empty settings one stands, step_empty others other beside]
      exact .answered same link
  | cons frame below =>
      have beside := same.symm.trans stands
      cases taking : Cursor.next? frame.cursor with
      | some taken =>
          obtain ⟨line, rest⟩ := taken
          refine outcomes_together (step_line settings one frame below line rest discreet stands taking)
            (step_line others other frame below line rest silent beside taking) ?_
          refine Deed.launch_paired bridge _ line rest (emits frame line rest ?_ taking) _ _ link
          rw [stands]
          rfl
      | none =>
          cases below with
          | nil =>
              rw [step_over settings one frame stands taking, step_over others other frame beside taking]
              exact .answered same link
          | cons caller below =>
              refine outcomes_together (step_return settings one frame caller below discreet stands
                taking) (step_return others other frame caller below silent beside taking) ?_
              refine Deed.paired_same (bridge.leave frame.id) (fun _ => ?_) _ _ link
              exact Deed.complete_paired bridge _ caller.cursor frame.resume

inductive Abreast (bond : Bond) : Option (Ending σ) → Option (Ending τ) → Prop
  | running : Abreast bond none none
  | ended {one : Ending σ} {other : Ending τ} (together : Together bond one other) :
      Abreast bond (some one) (some other)
  | excused {failure : Failure} {one : Machine σ} {other : Option (Ending τ)}
      (excuse : bond.excused failure) : Abreast bond (some (.error failure, one)) other

structure Companions (bond : Bond) (settings : Settings σ) (others : Settings τ) : Prop where
  bridge : Deed.Bridge bond settings others
  emits : ∀ location, Deed.Emits bond settings others location
  discreet : Discreet settings
  silent : Discreet others

theorem companions_step (companions : Companions bond settings others) (one : Machine σ)
    (other : Machine τ) (same : one.stack = other.stack) (link : bond.linked one.world other.world) :
    Together bond (step settings one) (step others other) :=
  step_together companions.bridge companions.discreet companions.silent one other
    (fun _ line _ _ _ => companions.emits line.location) same link

theorem drive_abreast (companions : Companions bond settings others) (fuel : Nat) (one : Machine σ)
    (other : Machine τ) (same : one.stack = other.stack) (link : bond.linked one.world other.world) :
    Abreast bond (drive settings fuel one) (drive others fuel other) := by
  induction fuel generalizing one other with
  | zero => exact .running
  | succ fuel ih =>
      have together := companions_step companions one other same link
      rw [drive, drive]
      generalize step settings one = done, step others other = counterpart at together
      cases together with
      | @answered going _ _ same link =>
          cases going with
          | true => exact ih _ _ same link
          | false => exact .ended (.answered same link)
      | failed frame below here there stands beside link =>
          exact .ended (.failed frame below here there stands beside link)
      | excused excuse => exact .excused excuse

theorem conclude_together {excused : Failure → Prop} {ending : Ending σ} {counterpart : Ending τ}
    (together : Together (.same excused) ending counterpart)
    (sound : ∀ failure, ending.1 = .error failure → ¬excused failure) :
    (conclude ending).1 = (conclude counterpart).1 ∧
      (conclude ending).2.world = (conclude counterpart).2.world ∧
      (conclude ending).2.stack.length = (conclude counterpart).2.stack.length := by
  cases together with
  | answered same link => exact ⟨rfl, link, congrArg (·.tail.length) same⟩
  | @failed failure one other frame below here there stands beside link =>
      refine ⟨?_, link, ?_⟩
      · exact congrArg (fun world : World => Except.error (Failure.fault (world.faultOf failure))) link
      · change one.stack.length = other.stack.length
        rw [stands, beside]
        rfl
  | excused excuse => exact absurd excuse (sound _ rfl)

theorem fault_of_seen {β : Type} {view : Entry Nat → β} (fault : Fault) (one : Machine σ)
    (other : Machine τ) (numbers : ∀ first second, view first = view second → first.step = second.step)
    (same : one.journal.seen view = other.journal.seen view) :
    one.faultOf (.fault fault) = other.faultOf (.fault fault) := by
  have last := Journal.last_seen same
  unfold faultOf
  cases first : one.journal.last? with
  | none =>
      rw [first] at last
      cases second : other.journal.last? with
      | none => rfl
      | some entry =>
          rw [second] at last
          cases last
  | some entry =>
      rw [first] at last
      cases second : other.journal.last? with
      | none =>
          rw [second] at last
          cases last
      | some counterpart =>
          rw [second] at last
          simp only [numbers entry counterpart (Option.some.inj last)]

end

end Machine
end BareBones
