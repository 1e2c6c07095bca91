import BareBones.Proofs.Enclosure
import BareBones.Proofs.Keeping
import BareBones.Proofs.Pointing

set_option autoImplicit false

namespace BareBones.Machine

variable {σ α β : Type} {settings : Settings σ}

def chronicle (machine : Machine σ) : Nat × List (Entry Nat) :=
  (machine.journal.capacity, machine.journal.recent)

theorem chronicle_oblivious : Oblivious (@chronicle σ) where
  moved := by
    intro cursor machine
    unfold setCursor
    split <;> rfl
  traced _ _ := rfl
  stored _ _ := rfl

theorem chronicle_newest {one other : Machine σ} (same : one.chronicle = other.chronicle) :
    one.lastLocation? = other.lastLocation? := by
  have recent : one.journal.recent = other.journal.recent := congrArg Prod.snd same
  unfold lastLocation? Journal.last?
  rw [recent]

theorem keeps_write_line (text : Text) (location : Location) :
    Keeps chronicle (writeLine settings text location) :=
  keeps_modify _ fun _ => rfl

theorem keeps_enter (frame : Frame) (label : Text) :
    Keeps chronicle (enterChild frame label : Act σ Path) :=
  keeps_bind (keeps_modify _ fun _ => rfl) fun _ => keeps_pure _

theorem keeps_spawn (body : List Line) (name : Text) (path : Path) (arguments : List Text)
    (calledFrom : Location) (resume : Resume) :
    Keeps chronicle (spawn settings body name path arguments calledFrom resume) := by
  refine keeps_bind keeps_get fun machine => keeps_bind (keeps_settle _) fun _ => ?_
  exact keeps_bind (keeps_note chronicle_oblivious _ _) fun _ => keeps_modify _ fun _ => rfl

section

variable (keeps : settings.Keeps chronicle) (frame : Frame)
include keeps

theorem keeps_round (statement : Statement) (predicate : Text) (block : Block) :
    Keeps chronicle (loopRound settings frame statement predicate block) := by
  refine keeps_bind (keeps_test chronicle_oblivious _ _) fun holds => ?_
  split
  · exact keeps_spawn _ _ _ _ _ _
  · exact keeps_announce keeps _

theorem keeps_call (statement : Statement) (name : Text) (arguments : List Text) :
    Keeps chronicle (call settings frame statement name arguments) := by
  refine keeps_bind keeps_get fun machine => ?_
  split
  · exact keeps_throw _
  · refine keeps_bind (keeps_announce keeps _) fun _ => ?_
    exact keeps_bind (keeps_enter frame name) fun _ => keeps_spawn _ _ _ _ _ _

theorem keeps_resume (pending : Resume) : Keeps chronicle (resume settings frame pending) := by
  cases pending with
  | loop statement predicate block => exact keeps_round keeps frame statement predicate block
  | call statement name arguments =>
      exact keeps_bind (keeps_announce keeps _) fun _ => keeps_announce keeps _
  | branch statement terminator =>
      unfold resume
      dsimp only
      split
      · split
        · exact keeps_throw _
        · exact keeps_bind (keeps_read_block chronicle_oblivious _ _ _) fun _ => keeps_announce keeps _
      · exact keeps_announce keeps _

theorem keeps_return (caller : Frame) : Keeps chronicle (returnFrom settings frame caller) := by
  refine keeps_bind (keeps_modify _ fun _ => rfl) fun _ => ?_
  split
  · exact keeps_resume keeps caller _
  · exact keeps_pure _

end

def Logged (location : Location) (before after : Machine σ) : Prop :=
  ∃ entry : Entry Nat, entry.location = some location ∧
    after.chronicle = (before.chronicle.1, (entry :: before.chronicle.2).take before.chronicle.1)

def Logs (location : Location) (act : Act σ α) : Prop :=
  ∀ machine a after, act machine = (.ok a, after) → Logged location machine after

section

variable {location : Location}

theorem logs_first {act : Act σ β} {next : β → Act σ α} (first : Logs location act)
    (second : ∀ b, Keeps chronicle (next b)) : Logs location (act >>= next) := by
  intro machine a last answered
  rw [effect_bind] at answered
  cases done : act machine with
  | mk result after =>
      rw [done] at answered
      cases result with
      | error failure => cases answered
      | ok b =>
          have kept := second b after
          change next b after = (.ok a, last) at answered
          rw [answered] at kept
          obtain ⟨entry, located, same⟩ := first machine b after done
          exact ⟨entry, located, kept.trans same⟩

theorem logs_second {act : Act σ β} {next : β → Act σ α} (first : Keeps chronicle act)
    (second : ∀ b, Logs location (next b)) : Logs location (act >>= next) := by
  intro machine a last answered
  have kept := first machine
  rw [effect_bind] at answered
  cases done : act machine with
  | mk result after =>
      rw [done] at answered kept
      cases result with
      | error failure => cases answered
      | ok b =>
          obtain ⟨entry, located, same⟩ := second b after a last answered
          rw [show after.chronicle = machine.chronicle from kept] at same
          exact ⟨entry, located, same⟩

theorem logs_locating {act : Act σ α} (place : Location) (logs : Logs location act) :
    Logs location (locating place act) := by
  intro machine a after answered
  unfold locating at answered
  rcases done : act machine with ⟨failure | b, last⟩
  · rw [done] at answered
    cases answered
  · rw [done] at answered
    cases answered
    exact logs machine _ _ done

end

theorem logs_record (statement : Statement) :
    Logs statement.location (recordStep settings statement) := by
  refine logs_second keeps_get fun machine => ?_
  have enters : ∀ (frame : Option Nat) (snapshot : Option Snapshot),
      Logs statement.location (modify fun machine => { machine with
        journal := machine.journal.record frame (some statement.location)
          statement.command.label snapshot } : Act σ Unit) := by
    rintro frame snapshot machine _ _ ⟨⟩
    exact ⟨_, rfl, rfl⟩
  dsimp only
  split
  · exact logs_second (keeps_bind (keeps_settle _) fun _ => keeps_pure _) fun _ => enters _ _
  · exact logs_second (keeps_pure _) fun _ => enters _ _

theorem logs_execute (keeps : settings.Keeps chronicle) (frame : Frame) (statement : Statement) :
    Logs statement.location (execute settings frame statement) := by
  have blind := @chronicle_oblivious σ
  refine logs_first (logs_record statement) fun _ => ?_
  rcases statement with ⟨location, command⟩
  cases command with
  | clear name => exact keeps_bind (keeps_assign blind _ _) fun _ => keeps_pure _
  | count direction name => exact keeps_bind (keeps_count blind _ _ _) fun _ => keeps_pure _
  | debug name =>
      refine keeps_bind (keeps_read_variable frame name) fun value => ?_
      refine keeps_bind (keeps_settle _) fun written => ?_
      exact keeps_bind (keeps_write_line _ _) fun _ => keeps_pure _
  | print format =>
      refine keeps_bind keeps_get fun machine => keeps_bind (keeps_settle _) fun text => ?_
      exact keeps_bind (keeps_write_line _ _) fun _ => keeps_pure _
  | assign name format =>
      refine keeps_bind keeps_get fun machine => keeps_bind (keeps_settle _) fun text => ?_
      refine keeps_bind (keeps_note blind _ _) fun _ => ?_
      exact keeps_bind (keeps_assign blind _ _) fun _ => keeps_pure _
  | define name =>
      refine keeps_bind (keeps_read_block blind _ _ _) fun block => ?_
      refine keeps_bind (keeps_modify _ fun machine => blind.stored machine _) fun _ => ?_
      exact keeps_bind (keeps_note blind _ _) fun _ => keeps_pure _
  | loop predicate =>
      refine keeps_bind (keeps_read_block blind _ _ _) fun block => ?_
      refine keeps_bind (keeps_enter frame _) fun _ => ?_
      exact keeps_bind (keeps_round keeps frame _ _ _) fun _ => keeps_pure _
  | branch predicate =>
      refine keeps_bind (keeps_choose blind _ _ _) fun chosen => ?_
      cases chosen with
      | none => exact keeps_pure _
      | some taken =>
          refine keeps_bind (keeps_enter frame _) fun path => ?_
          exact keeps_bind (keeps_spawn _ _ _ _ _ _) fun _ => keeps_pure _
  | call name arguments =>
      exact keeps_bind (keeps_call keeps frame _ _ _) fun _ => keeps_pure _
  | unsupported => exact keeps_throw _

theorem logs_dispatch (keeps : settings.Keeps chronicle) (frame : Frame) (line : Line)
    (statement : Statement) (reading : Statement.read line = .ok statement) :
    Logs statement.location (dispatch settings frame line) := by
  refine logs_second (keeps_note chronicle_oblivious _ _) fun _ => ?_
  refine logs_first (logs_locating line.location ?_) ?_
  · have told : Logs statement.location (do
        announce settings (.beforeStatement statement frame.id)
        let deferred ← execute settings frame statement
        return (statement, deferred)) :=
      logs_second (keeps_announce keeps _) fun _ =>
        logs_first (logs_execute keeps frame statement) fun _ => keeps_pure _
    intro machine a after answered
    rw [reading, effect_bind] at answered
    exact told machine a after answered
  · rintro ⟨told, deferred⟩
    cases deferred with
    | true => exact keeps_pure _
    | false => exact keeps_announce keeps _

-- The lines of a run up to a state, as the statements that were told of, the newest first. A turn in
-- between returns from a body.
inductive Recites (settings : Settings σ) (start : Machine σ) : List Statement → Machine σ → Prop
  | start : Recites settings start [] start
  | statement {told : List Statement} {before after : Machine σ} {frame : Frame} {below : List Frame}
      {line : Line} {rest : Cursor} {statement : Statement} (path : Recites settings start told before)
      (goes : Goes settings before after) (stands : before.stack = frame :: below)
      (taking : Cursor.next? frame.cursor = some (line, rest))
      (reading : Statement.read line = .ok statement) : Recites settings start (statement :: told) after
  | back {told : List Statement} {before after : Machine σ} {frame : Frame} {below : List Frame}
      (path : Recites settings start told before) (goes : Goes settings before after)
      (stands : before.stack = frame :: below) (spent : Cursor.next? frame.cursor = none) :
      Recites settings start told after

theorem dispatch_reads {frame : Frame} {line : Line} {before after : Machine σ}
    (answered : dispatch settings frame line before = (.ok (), after)) :
    ∃ statement, Statement.read line = .ok statement := by
  cases reading : Statement.read line with
  | ok statement => exact ⟨statement, rfl⟩
  | error failure =>
      unfold dispatch at answered
      rw [effect_bind] at answered
      simp only [reading] at answered
      cases answered

theorem going_on (act : Act σ Unit) (machine : Machine σ) :
    (act >>= fun _ => pure true) machine =
      match act machine with
      | (.ok _, after) => (.ok true, after)
      | (.error failure, after) => (.error failure, after) := by
  rw [effect_bind]
  rcases act machine with ⟨failure | _, after⟩
  · rfl
  · rfl

theorem step_dispatch {machine : Machine σ} {frame : Frame} {below : List Frame} {line : Line}
    {rest : Cursor} (stands : machine.stack = frame :: below)
    (taking : Cursor.next? frame.cursor = some (line, rest)) :
    step settings machine =
      match dispatch settings (frame.moved rest) line (machine.setCursor rest) with
      | (.ok _, after) => (.ok true, after)
      | (.error failure, after) => (.error failure, after) := by
  unfold step
  rw [effect_bind, effect_get]
  simp only [stands, taking]
  rw [effect_bind, effect_modify]
  exact going_on _ _

theorem step_back {machine : Machine σ} {frame caller : Frame} {below : List Frame}
    (stands : machine.stack = frame :: caller :: below) (spent : Cursor.next? frame.cursor = none) :
    step settings machine =
      match returnFrom settings frame caller machine with
      | (.ok _, after) => (.ok true, after)
      | (.error failure, after) => (.error failure, after) := by
  unfold step
  rw [effect_bind, effect_get]
  simp only [stands, spent]
  exact going_on _ _

section

variable {start before after machine : Machine σ} {frame : Frame} {below : List Frame}

theorem goes_dispatch {line : Line} {rest : Cursor} (goes : Goes settings before after)
    (stands : before.stack = frame :: below) (taking : Cursor.next? frame.cursor = some (line, rest)) :
    dispatch settings (frame.moved rest) line (before.setCursor rest) = (.ok (), after) := by
  unfold Goes at goes
  rw [step_dispatch stands taking] at goes
  generalize dispatch settings _ line _ = done at goes ⊢
  rcases done with ⟨failure | _, last⟩
  · cases goes
  · cases goes
    rfl

theorem goes_back (goes : Goes settings before after) (stands : before.stack = frame :: below)
    (spent : Cursor.next? frame.cursor = none) :
    ∃ caller, returnFrom settings frame caller before = (.ok (), after) := by
  unfold Goes at goes
  cases below with
  | nil =>
      rw [step_over settings before frame stands spent] at goes
      cases goes
  | cons caller lower =>
      refine ⟨caller, ?_⟩
      rw [step_back stands spent] at goes
      generalize returnFrom settings frame caller before = done at goes ⊢
      rcases done with ⟨failure | _, last⟩
      · cases goes
      · cases goes
        rfl

theorem reaches_recites (path : Reaches settings start machine) :
    ∃ told, Recites settings start told machine := by
  induction path with
  | refl => exact ⟨[], .start⟩
  | @tail before after _ goes ih =>
      obtain ⟨told, recites⟩ := ih
      cases stands : before.stack with
      | nil =>
          unfold Goes at goes
          rw [step_empty settings before stands] at goes
          cases goes
      | cons frame below =>
          cases taking : Cursor.next? frame.cursor with
          | none => exact ⟨told, .back recites goes stands taking⟩
          | some taken =>
              obtain ⟨line, rest⟩ := taken
              obtain ⟨statement, reading⟩ := dispatch_reads (goes_dispatch goes stands taking)
              exact ⟨statement :: told, .statement recites goes stands taking reading⟩

theorem recites_newest {told : List Statement} {capacity : Nat} (keeps : settings.Keeps chronicle)
    (room : 0 < capacity) (begins : start.chronicle = (capacity, []))
    (recites : Recites settings start told machine) :
    machine.chronicle.1 = capacity ∧
      machine.lastLocation? = told.head?.map (·.location) := by
  induction recites with
  | start =>
      refine ⟨congrArg Prod.fst begins, ?_⟩
      have empty : start.journal.recent = [] := congrArg Prod.snd begins
      simp [lastLocation?, Journal.last?, empty]
  | @statement told before after frame below line rest statement _ goes stands taking reading ih =>
      obtain ⟨entry, located, grown⟩ := logs_dispatch keeps _ line statement reading _ _ _
        (goes_dispatch goes stands taking)
      rw [chronicle_oblivious.moved, ih.1] at grown
      refine ⟨congrArg Prod.fst grown, ?_⟩
      have recent : after.journal.recent = (entry :: before.chronicle.2).take capacity :=
        congrArg Prod.snd grown
      obtain ⟨less, rfl⟩ := Nat.exists_eq_succ_of_ne_zero (Nat.ne_of_gt room)
      simp [lastLocation?, Journal.last?, recent, located]
  | @back told before after frame below _ goes stands spent ih =>
      obtain ⟨caller, returned⟩ := goes_back goes stands spent
      have same := keeps_return keeps frame caller before
      rw [returned] at same
      change after.chronicle = before.chronicle at same
      rw [same, chronicle_newest same]
      exact ih

end

def poised (settings : Settings σ) (line : Line) (rest : Cursor) (machine : Machine σ) : Machine σ :=
  (note settings (some line.location) ("Parsing line ".toList ++ line.text.trim.cited)
    (machine.setCursor rest)).2

theorem poised_world (settings : Settings σ) (line : Line) (rest : Cursor) (machine : Machine σ) :
    (poised settings line rest machine).world = machine.world := by
  obtain ⟨after, noted, same, _⟩ := note_silent settings (some line.location)
    ("Parsing line ".toList ++ line.text.trim.cited) (machine.setCursor rest)
  rw [poised, noted]
  exact same.trans (set_cursor_world rest machine)

def interrupted (line : Line) (broken : Breakdown) (left : Machine σ) : Fault :=
  ⟨.handlerFailed Event.beforeStatement.name broken.message,
    left.lastLocation? <|> some line.location, none⟩

theorem step_interrupted {machine left : Machine σ} {frame : Frame} {below : List Frame} {line : Line}
    {rest : Cursor} {statement : Statement} {broken : Breakdown}
    (stands : machine.stack = frame :: below)
    (taking : Cursor.next? frame.cursor = some (line, rest))
    (reading : Statement.read line = .ok statement)
    (breaks : settings.handlers.notify .beforeStatement
      (fun handler => handler (.beforeStatement statement frame.id)) (poised settings line rest machine) =
        (.error (.breakdown broken), left)) :
    step settings machine = (.error (.fault (interrupted line broken left)), left) := by
  have told : announce settings (.beforeStatement statement frame.id) (poised settings line rest machine) =
      (.error (.fault ⟨.handlerFailed Event.beforeStatement.name broken.message, left.lastLocation?,
        none⟩), left) := by
    unfold announce
    rw [show Notice.event (.beforeStatement statement frame.id) = .beforeStatement from rfl, breaks]
  have placed : locating line.location (do
      let statement ← settle (Statement.read line)
      announce settings (.beforeStatement statement (frame.moved rest).id)
      let deferred ← execute settings (frame.moved rest) statement
      return (statement, deferred)) (poised settings line rest machine) =
        (.error (.fault (interrupted line broken left)), left) := by
    unfold locating
    rw [reading, effect_bind]
    dsimp only [settle]
    rw [effect_bind, show (frame.moved rest).id = frame.id from rfl, told]
    rfl
  have noted : note settings (some line.location) ("Parsing line ".toList ++ line.text.trim.cited)
      (machine.setCursor rest) = (.ok ⟨⟩, poised settings line rest machine) := rfl
  rw [step_dispatch stands taking]
  unfold dispatch
  rw [effect_bind, noted]
  dsimp only
  rw [effect_bind, placed]

theorem announce_unheard (settings : Settings σ) (notice : Notice) (machine : Machine σ)
    (unheard : settings.handlers.of notice.event = []) :
    announce settings notice machine = (.ok (), machine) := by
  unfold announce Registry.notify
  rw [unheard]
  rfl

theorem breaks_keeps {γ : Type} {view : Machine σ → γ} {event : Event} {notice : Notice}
    {machine left : Machine σ} {failure : Failure} (keeps : settings.Keeps view)
    (breaks : settings.handlers.notify event (fun handler => handler notice) machine =
      (.error failure, left)) : view left = view machine := by
  have kept := call_all_keeps notice (settings.handlers.of event) (keeps event) machine
  rwa [show Registry.callAll _ _ machine = _ from breaks] at kept

-- A run whose next statement makes the observers break down ends by their fault, and the machine is left as
-- they leave it: the statement does nothing. The fault is placed at the statement that was told of before,
-- and at the statement itself only if it is the first.
theorem interruption_placed (settings : Settings σ) (source : Text) (capacity : Nat) (host : σ)
    (begun last left : Machine σ) (frame : Frame) (below : List Frame) (line : Line) (rest : Cursor)
    (statement : Statement) (broken : Breakdown) (room : 0 < capacity)
    (keeps : settings.Keeps chronicle) (unheard : settings.handlers.of .onError = [])
    (begins : Machine.start settings (fresh (.empty capacity) host) = (.ok (), begun))
    (path : Reaches settings (begun.load settings source) last)
    (stands : last.stack = frame :: below) (taking : Cursor.next? frame.cursor = some (line, rest))
    (reading : Statement.read line = .ok statement)
    (breaks : settings.handlers.notify .beforeStatement
      (fun handler => handler (.beforeStatement statement frame.id)) (poised settings line rest last) =
        (.error (.breakdown broken), left)) :
    (∃ fuel fault told, run settings fuel source (fresh (.empty capacity) host) =
        some (.error (.fault fault), left) ∧
      fault.cause = .handlerFailed Event.beforeStatement.name broken.message ∧
      fault.kind = .general ∧ fault.rule = some "hook".toList ∧
      Recites settings (begun.load settings source) told last ∧
      fault.location = some (told.headD statement).location) ∧
    (settings.Keeps Machine.store → left.store = last.store) ∧
    (settings.Keeps Machine.output → left.output = last.output) := by
  have same := poised_world settings line rest last
  refine ⟨?_, ?_, ?_⟩
  · obtain ⟨told, recites⟩ := reaches_recites path
    have opens : (begun.load settings source).chronicle = (capacity, []) := by
      have kept := keeps_announce keeps (.programStart [settings.program])
        ((fresh (.empty capacity) host).enterProgram settings)
      rw [show announce settings _ _ = _ from begins] at kept
      exact (chronicle_oblivious.moved _ begun).trans kept
    have newest := (recites_newest keeps room opens recites).2
    have poise : (poised settings line rest last).chronicle = last.chronicle :=
      congrArg (fun world : World => (world.journal.capacity, world.journal.recent)) same
    have kept := chronicle_newest ((breaks_keeps keeps breaks).trans poise)
    have drives : drive settings 1 last = some (.error (.fault (interrupted line broken left)), left) := by
      rw [drive, step_interrupted stands taking reading breaks]
    obtain ⟨fuel, driven⟩ := drive_reaches settings 1 _ last _ path drives
    have caused := fault_of_cause left (.fault (interrupted line broken left))
    refine ⟨fuel, left.faultOf (.fault (interrupted line broken left)), told, ?_, caused, ?_, ?_, recites,
      ?_⟩
    · unfold run runSource
      rw [begins]
      dsimp only
      rw [driven]
      simp only [Option.map_some, finish, fail, announce_unheard settings (.onError _) left unheard]
    · exact congrArg Cause.kind caused
    · exact congrArg Cause.rule caused
    · rw [fault_of_location, interrupted, kept, newest]
      cases told with
      | nil => exact congrArg some (read_location line statement reading).symm
      | cons earlier _ => rfl
  · exact fun kept => (breaks_keeps kept breaks).trans (congrArg World.store same)
  · intro kept
    exact (breaks_keeps kept breaks).trans (congrArg (List.reverse ∘ World.written) same)

def impatient : Handler (List Int) := fun notice machine =>
  match notice with
  | .beforeStatement statement _ =>
      (if machine.host.length = 1 then .error (.breakdown (.raised "boom".toList)) else .ok (),
        { machine with host := statement.location.line :: machine.host })
  | _ => (.ok (), machine)

def hurried : Settings (List Int) :=
  ⟨"f.bb".toList, "f".toList, false, [], .atMost 2,
    ⟨[(.beforeStatement, [⟨0, impatient⟩])]⟩⟩

def twofold : Text :=
  "print a\nprint b".toList

theorem hurried_keeps {γ : Type} (view : Machine (List Int) → γ)
    (blind : ∀ machine host, view { machine with host } = view machine) : hurried.Keeps view := by
  intro event registration member
  cases event with
  | beforeStatement =>
      rw [List.mem_singleton.mp member]
      intro notice machine
      cases notice with
      | beforeStatement statement frame => exact blind machine _
      | _ => rfl
  | _ => cases member

theorem hurried_breaks (machine : Machine (List Int)) (first : Int) (statement : Statement) (frame : Nat)
    (heard : machine.host = [first]) :
    hurried.handlers.notify .beforeStatement
        (fun handler => handler (.beforeStatement statement frame)) machine =
      (.error (.breakdown (.raised "boom".toList)),
        { machine with host := [statement.location.line, first] }) := by
  change Registry.callAll _ [⟨0, impatient⟩] machine = _
  simp [Registry.callAll, impatient, heard]

theorem interruption_placed_hurried :
    let begun : Machine (List Int) := (fresh (.empty 5) []).enterProgram hurried
    let last := ahead hurried 1 (begun.load hurried twofold)
    ∃ left fuel fault told, run hurried fuel twofold (fresh (.empty 5) []) =
        some (.error (.fault fault), left) ∧ fault.rule = some "hook".toList ∧
      Recites hurried (begun.load hurried twofold) told last ∧ left.store = last.store ∧
      left.output = last.output := by
  intro begun last
  have goes : Goes hurried (begun.load hurried twofold) last :=
    ahead_goes hurried 0 (begun.load hurried twofold) (by decide +kernel)
  let line : Line := ⟨⟨"f.bb".toList, 2, "print b".toList⟩, "print b".toList⟩
  have stands : last.stack = [(outermost hurried twofold).moved [line]] := by decide +kernel
  have breaks := hurried_breaks (poised hurried line [] last) 1 ⟨line.location, .print "b".toList⟩ 0
    (by decide +kernel)
  obtain ⟨⟨fuel, fault, told, ran, _, _, rule, recites, _⟩, stored, silent⟩ :=
    interruption_placed hurried twofold 5 [] begun last _ _ [] line [] ⟨line.location, .print "b".toList⟩
      (.raised "boom".toList) (by decide) (hurried_keeps _ fun _ _ => rfl) rfl rfl (.single goes) stands
      (by decide +kernel) (by decide +kernel) breaks
  exact ⟨_, fuel, fault, told, ran, rule, recites, stored (hurried_keeps _ fun _ _ => rfl),
    silent (hurried_keeps _ fun _ _ => rfl)⟩

theorem interruption_strays : ∃ fault machine,
    run hurried 2 twofold (fresh (.empty 5) []) = some (.error (.fault fault), machine) ∧
      machine.host = [2, 1] ∧ fault.rule = some "hook".toList ∧
      fault.location.map (·.line) = some 1 := by
  have outline : (run hurried 2 twofold (fresh (.empty 5) [])).map (fun ending =>
      (ending.place?.map (·.line), ending.refusal?.map (·.1.rule), ending.2.host)) =
        some (some 1, some (some "hook".toList), [2, 1]) := by decide +kernel
  obtain ⟨⟨result, machine⟩, ran, same⟩ := Option.map_eq_some_iff.mp outline
  obtain ⟨place, placed, line⟩ := Option.map_eq_some_iff.mp (congrArg Prod.fst same)
  obtain ⟨fault, rfl, located⟩ := ending_fails placed
  refine ⟨fault, machine, ran, congrArg (·.2.2) same, Option.some.inj (congrArg (·.2.1) same), ?_⟩
  rw [located]
  exact congrArg some line

end BareBones.Machine
