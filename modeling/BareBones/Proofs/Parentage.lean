import BareBones.Proofs.Refusal

set_option autoImplicit false

namespace BareBones

theorem Block.clause_drawn {cursor : Cursor} {clause : Line} (found : Clause cursor clause) :
    clause ∈ cursor ∧ clause.isBlank = false := by
  induction found with
  | next carved stops =>
      have drawn := carve_drawn true 0 _ _ carved
      refine ⟨drawn.subset ?_, (carve_terminator true 0 _ _ carved).1⟩
      simp
  | later carved stops further ih =>
      have drawn := carve_drawn true 0 _ _ carved
      refine ⟨drawn.subset ?_, ih.2⟩
      simp [ih.1]

-- What frames are spawned for: a loop, by its header, a clause of an `if`, and the calls of a function.
inductive Construct where
  | loop (header : Line)
  | branch (clause : Line)
  | call (name : Text)
deriving DecidableEq, Repr

def Construct.label : Construct → Text
  | .loop header => Machine.blockLabel .loop header.location
  | .branch clause => Machine.blockLabel .branch clause.location
  | .call name => name

inductive Construct.Spawns (lines : List Line) : Construct → Resume → Prop
  | loop {header : Line} {predicate : Text} {block : Block} (stands : header ∈ lines)
      (solid : header.isBlank = false)
      (reading : Statement.read header = .ok ⟨header.location, .loop predicate⟩) :
      Spawns lines (.loop header) (.loop ⟨header.location, .loop predicate⟩ predicate block)
  | branch {header clause terminator : Line} {rest : Cursor} {predicate : Text}
      (drawn : (header :: rest).Sublist lines) (solid : header.isBlank = false)
      (reading : Statement.read header = .ok ⟨header.location, .branch predicate⟩)
      (taken : clause = header ∨ Block.Clause rest clause)
      (ends : Boundary.isElse terminator.text = true → Block.Clause rest terminator) :
      Spawns lines (.branch clause) (.branch ⟨header.location, .branch predicate⟩ terminator)
  | call {line : Line} {name : Text} {arguments : List Text} (stands : line ∈ lines)
      (solid : line.isBlank = false)
      (reading : Statement.read line = .ok ⟨line.location, .call name arguments⟩) :
      Spawns lines (.call name) (.call ⟨line.location, .call name arguments⟩ name arguments)

structure Frame.SpawnedBy (lines : List Line) (construct : Construct) (frame : Frame) : Prop where
  name : frame.name = construct.label
  resumes : ∃ resume, frame.resume = some resume ∧ construct.Spawns lines resume

namespace Deed

variable {σ : Type} {settings : Settings σ} {here : Activation} {before after : World}
  {lines : List Line}

theorem rounds_spawned {statement : Statement} {predicate : Text} {block : Block}
    {next : Option Frame} {header : Line}
    (rounds : Rounds settings here statement predicate block before next after)
    (located : statement.location = header.location)
    (spawns : (Construct.loop header).Spawns lines (.loop statement predicate block)) :
    ∀ body ∈ next, body.SpawnedBy lines (.loop header) := by
  cases rounds with
  | stopped _ => exact Frame.nobody
  | again _ _ =>
      rintro _ ⟨⟩
      exact ⟨by rw [located]; rfl, _, rfl, spawns⟩

theorem performs_spawned {line : Line} {statement : Statement} {rest : Cursor}
    {next : Cursor × Option Frame} (performs : Performs settings here statement rest before next after)
    (drawn : (line :: rest).Sublist lines) (solid : line.isBlank = false)
    (reading : Statement.read line = .ok statement) :
    ∀ body ∈ next.2, ∃ construct, body.SpawnedBy lines construct := by
  have stands : line ∈ lines := drawn.subset List.mem_cons_self
  have located := Machine.read_location line statement reading
  have reads : ∀ command, statement.command = command → statement = ⟨line.location, command⟩ := by
    rintro _ rfl
    rw [← located]
  cases performs with
  | atOnce _ => exact Frame.nobody
  | defined _ _ => exact Frame.nobody
  | passed _ _ => exact Frame.nobody
  | looped asked _ rounds =>
      cases reads _ asked
      intro body spawned
      exact ⟨.loop line, rounds_spawned rounds rfl (.loop stands solid reading) body spawned⟩
  | called asked _ _ =>
      cases reads _ asked
      rintro _ ⟨⟩
      exact ⟨.call _, rfl, _, rfl, .call stands solid reading⟩
  | branched asked chosen _ =>
      cases reads _ asked
      obtain ⟨place, ends⟩ := ensures_answered (choose_blame settings here _ _ _ _) chosen
      have terminates := fun clause => (ends clause).1
      rintro _ ⟨⟩
      rcases place with rfl | ⟨clause, found, rfl⟩
      · exact ⟨.branch line, rfl, _, rfl, .branch drawn solid reading (.inl rfl) terminates⟩
      · exact ⟨.branch clause, rfl, _, rfl, .branch drawn solid reading (.inr found) terminates⟩

end Deed

namespace Machine

variable {σ : Type} {settings : Settings σ} {lines : List Line}

def Parented (lines : List Line) (stack : List Frame) : Prop :=
  ∀ frame ∈ stack, frame.resume = none ∨ ∃ construct, frame.SpawnedBy lines construct

theorem moved_spawned {construct : Construct} {frame : Frame} (cursor : Cursor)
    (spawned : frame.SpawnedBy lines construct) : (frame.moved cursor).SpawnedBy lines construct :=
  ⟨spawned.name, spawned.resumes⟩

theorem parented_moved {frame : Frame} {below : List Frame} (cursor : Cursor)
    (parented : Parented lines (frame :: below)) : Parented lines (frame.moved cursor :: below) := by
  intro other member
  rcases List.mem_cons.mp member with rfl | lower
  · exact (parented frame List.mem_cons_self).imp_right fun ⟨construct, spawned⟩ =>
      ⟨construct, moved_spawned cursor spawned⟩
  · exact parented other (List.mem_cons_of_mem _ lower)

theorem complete_spawned {here : Activation} {ended : Frame} {cursor : Cursor}
    {next : Cursor × Option Frame} {before after : World}
    (done : Deed.complete settings here cursor ended.resume before = (.ok next, after))
    (parent : ended.resume = none ∨ ∃ construct, ended.SpawnedBy lines construct) :
    ∀ body ∈ next.2, ∃ construct, body.SpawnedBy lines construct := by
  rcases Deed.complete_answers done with
    ⟨statement, predicate, block, resumes, _, rounds⟩ | ⟨_, _, _, _, spawned, _⟩ | ⟨rfl, _⟩
  · rcases parent with program | ⟨construct, _, resume, same, spawns⟩
    · rw [resumes] at program
      cases program
    · rw [resumes] at same
      cases same
      cases spawns with
      | loop stands solid reading =>
          intro body spawned
          exact ⟨_, Deed.rounds_spawned rounds rfl (.loop stands solid reading) body spawned⟩
  · rw [spawned]
    exact Frame.nobody
  · exact Frame.nobody

theorem turn_parented {before after : World} {stack : List Frame} {frame : Frame}
    {below : List Frame} {deed : Deed (Cursor × Option Frame)} {next : Cursor × Option Frame}
    (turn : Turn settings stack frame below deed) (done : deed before = (.ok next, after))
    (drawn : Drawn lines before stack) (parented : Parented lines stack) :
    Parented lines (next.2.toList ++ frame.moved next.1 :: below) := by
  have kept (spawned : ∀ body ∈ next.2, ∃ construct, body.SpawnedBy lines construct)
      (others : Parented lines (frame :: below)) :
      Parented lines (next.2.toList ++ frame.moved next.1 :: below) := by
    intro other member
    rcases List.mem_append.mp member with new | old
    · exact .inr (spawned other (Option.mem_toList.mp new))
    · exact parented_moved next.1 others other old
  cases turn with
  | line _ _ line rest taking =>
      obtain ⟨ahead, solid⟩ := Cursor.next_drawn frame.cursor rest line taking
      have whole := ahead.trans (drawn.frames frame List.mem_cons_self).cursor
      obtain ⟨statement, snapshot, reading, performs⟩ := Deed.launch_answers done
      exact kept (Deed.performs_spawned performs whole solid reading) parented
  | back ended _ _ spent =>
      obtain ⟨_, _, ⟨⟩, going⟩ := Deed.bind_answers done
      refine kept (complete_spawned going (parented ended List.mem_cons_self)) ?_
      exact fun other member => parented other (List.mem_cons_of_mem _ member)

theorem reaches_parented {before after : Machine σ} (unobserved : settings.Unobserved)
    (path : Reaches settings before after) (drawn : Drawn lines before.world before.stack)
    (parented : Parented lines before.stack) : Parented lines after.stack := by
  induction path with
  | refl => exact parented
  | @tail middle after path goes ih =>
      obtain ⟨frame, below, deed, next, turn, done, stack⟩ :=
        goes_turn settings middle after unobserved goes
      rw [stack]
      exact turn_parented turn done (reaches_drawn unobserved path drawn) ih

theorem opening_parented (settings : Settings σ) (source : Text) (journal : Journal Nat) (host : σ) :
    Parented lines (opening settings source (fresh journal host)).stack := by
  rw [opening_stack]
  intro frame member
  rw [List.mem_singleton.mp member]
  exact .inl rfl

theorem comes_parented {before after : Machine σ} (unobserved : settings.Unobserved)
    (comes : ComesTo settings before after) (drawn : Drawn lines before.world before.stack)
    (parented : Parented lines before.stack) : Parented lines after.stack := by
  cases comes with
  | head path => exact reaches_parented unobserved path drawn parented
  | @failure last _ failure path failed =>
      obtain ⟨frame, below, deed, cursor, turn, _, stack⟩ :=
        fails_turn settings last after failure unobserved failed
      have stands := reaches_parented unobserved path drawn parented
      rw [stack]
      exact parented_moved cursor fun other member => stands other (turn_keeps turn other member)

end Machine
end BareBones
