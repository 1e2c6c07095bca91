import BareBones.Proofs.Refusal

set_option autoImplicit false

namespace BareBones

namespace Store

def Sound (store : Store) : Prop :=
  ∀ path scope name block, store.scopeAt? path = some scope → scope.functions.get? name = some block →
    Closes 0 block.body

end Store

namespace Deed

variable {σ α β : Type}

def Innocent (deed : Deed α) : Prop :=
  ∀ world, Ensures deed world (fun _ _ => True) (fun failure _ => failure.Harmless)

theorem innocent_blamed {deed : Deed α} {location : Location}
    (blamed : Blamed (Failure.Stated location) deed) : Innocent deed :=
  blamed_mono blamed (stated_harmless location)

theorem ensures_innocent {deed : Deed α} {world : World} {answered : α → World → Prop}
    {failed : Failure → World → Prop} (innocent : Innocent deed)
    (ensures : Ensures deed world answered failed) :
    Ensures deed world answered (fun failure _ => failure.Harmless) :=
  ensures_blamed innocent ensures

theorem innocent_spawn (settings : Settings σ) (here : Activation) (location : Location) :
    Innocent (spawn settings here location) := by
  refine blamed_bind (blamed_settled _ ?_) fun _ => ?_
  · cases settings.maxDepth with
    | blank => exact fails_error _ trivial
    | atMost count =>
        intro failure refused
        rw [(DepthLimit.allow_refused refused).2]
        cases DepthLimit.refusal_cases count location with
        | inl written =>
            rw [written]
            exact fault_harmless _ rfl rfl
        | inr long =>
            rw [long]
            trivial
  · refine blamed_bind (fun _ => trivial) fun world => ?_
    exact blamed_bind (blamed_modify _) fun _ => blamed_pure _

end Deed

def Awaits : Option Resume → Cursor → Prop
  | some (.loop _ _ block), cursor => Closes 0 block.body ∧ Closes 0 cursor
  | some (.branch _ terminator), cursor => Block.Ended terminator cursor
  | some (.call _ _ _), cursor => Closes 0 cursor
  | none, cursor => Closes 0 cursor

def Fit : Cursor × Option Frame → Prop
  | (cursor, none) => Closes 0 cursor
  | (cursor, some body) => Closes 0 body.cursor ∧ Awaits body.resume cursor

namespace Deed

variable {σ : Type}

def Balances (deed : Deed (Cursor × Option Frame)) (world : World) : Prop :=
  Ensures deed world (fun next after => after.store.Sound ∧ Fit next)
    (fun failure _ => failure.Harmless)

theorem carve_ensures (kind : BlockKind) (header : Location) (cursor : Cursor) (world : World)
    (closes : Closes 1 cursor) :
    Ensures (carve kind header cursor) world
      (fun carved after => after = world ∧ Closes 0 carved.1.body ∧ Closes 0 carved.2)
      (fun failure _ => failure.Harmless) := by
  obtain ⟨block, rest, reading, body, _, whole⟩ :=
    Block.read_closes kind.keyword header false cursor closes
  rw [carve, reading]
  exact ⟨rfl, body, whole rfl⟩

theorem balances_still {α : Type} {deed : Deed α} {next : α → Deed (Cursor × Option Frame)}
    {world : World} (innocent : Innocent deed) (still : Still deed)
    (rest : ∀ a, deed world = (.ok a, world) → Balances (next a) world) :
    Balances (deed >>= next) world := by
  have blameless := ensures_innocent innocent (ensures_still_self still world)
  apply ensures_then blameless
  rintro a _ ⟨rfl, done⟩
  exact rest a done

theorem find_ensures (here : Activation) (location : Location) (name : Text) (world : World)
    (sound : world.store.Sound) :
    Ensures (find here location name) world (fun block after => after = world ∧ Closes 0 block.body)
      (fun failure _ => failure.Harmless) := by
  unfold find Ensures
  rw [effect_bind, effect_get]
  dsimp only
  cases found : world.store.function? here.path name with
  | none => exact fault_harmless _ rfl rfl
  | some block => exact ⟨rfl, Store.bodies_function here.path name block sound found⟩

theorem spawn_balances (settings : Settings σ) (here : Activation) (location : Location) (world : World)
    (next : Nat → Cursor × Option Frame) (sound : world.store.Sound) (fit : ∀ id, Fit (next id)) :
    Balances (do
      let id ← spawn settings here location
      return next id) world := by
  refine ensures_then (ensures_innocent (innocent_spawn settings here location)
    (spawn_ensures settings here location world)) ?_
  rintro id _ ⟨rfl, rfl, _⟩
  exact ⟨sound, fit _⟩

theorem round_balances (settings : Settings σ) (here : Activation) (statement : Statement)
    (predicate : Text) (block : Block) (cursor : Cursor) (world : World) (sound : world.store.Sound)
    (body : Closes 0 block.body) (closes : Closes 0 cursor) :
    Balances (do
      let next ← round settings here statement predicate block
      return (cursor, next)) world := by
  unfold round
  rw [bind_assoc]
  refine balances_still (innocent_blamed (blamed_holds here predicate statement.location))
    (still_evaluate here _ _) ?_
  intro holds _
  cases holds with
  | false => exact ⟨sound, closes⟩
  | true =>
      simp only [if_true, bind_assoc, pure_bind]
      exact spawn_balances settings here statement.location world _ sound fun _ => ⟨body, body, closes⟩

def Chosen : Option (Block × Location) × Cursor → Prop
  | (none, rest) => Closes 0 rest
  | (some (block, _), rest) => Closes 0 block.body ∧ Block.Ended block.terminator rest

theorem choose_ensures (here : Activation) (predicate : Option Text) (location : Location)
    (cursor : Cursor) (world : World) (closes : Closes 1 cursor) :
    Ensures (choose here predicate location cursor) world
      (fun chosen after => after = world ∧ Chosen chosen) (fun failure _ => failure.Harmless) := by
  obtain ⟨block, rest, reading, body, ended, _⟩ :=
    Block.read_closes BlockKind.branch.keyword location true cursor closes
  rw [choose_read here predicate location cursor rest block reading]
  refine ensures_then (ensures_innocent (innocent_blamed (blamed_admits here location predicate))
    (ensures_still_self (still_admits here location predicate) world)) ?_
  rintro taken _ ⟨rfl, _⟩
  cases taken with
  | true => exact ⟨rfl, body, ended⟩
  | false =>
      rw [Block.Ended] at ended
      cases clause : Boundary.isElse block.terminator.text with
      | false =>
          have whole : block.endsAtElse = false := clause
          rw [clause, if_neg Bool.false_ne_true] at ended
          simp only [Bool.false_eq_true, if_false, whole, Bool.not_false, if_true]
          exact ⟨rfl, ended⟩
      | true =>
          have stops : block.endsAtElse = true := clause
          rw [if_pos clause] at ended
          obtain ⟨after, taking, pending⟩ := ended
          obtain ⟨next, reads⟩ := Option.isSome_iff_exists.mp clause
          have readable : Boundary.readElse block.terminator = .ok next := by
            rw [Boundary.readElse, reads]
          simp only [Bool.false_eq_true, if_false, stops, Bool.not_true, taking, readable]
          exact choose_ensures here next block.terminator.location after _ pending
termination_by cursor.length
decreasing_by
  have kept := Block.read_rest_length reading
  have shorter := Cursor.next_shorter _ _ _ taking
  omega

theorem skip_balances (terminator : Line) (cursor : Cursor) (world : World)
    (sound : world.store.Sound) (ended : Block.Ended terminator cursor) :
    Balances (do
      let rest ← skip terminator cursor
      return (rest, none)) world := by
  rw [Block.Ended] at ended
  unfold skip
  cases clause : Boundary.isElse terminator.text with
  | false =>
      rw [clause, if_neg Bool.false_ne_true] at ended
      rw [if_neg Bool.false_ne_true, pure_bind]
      exact ⟨sound, ended⟩
  | true =>
      rw [if_pos clause] at ended
      obtain ⟨after, taking, pending⟩ := ended
      rw [if_pos rfl, taking]
      dsimp only
      rw [bind_assoc]
      apply ensures_then (carve_ensures .branch terminator.location after world pending)
      rintro ⟨block, rest⟩ _ ⟨rfl, _, whole⟩
      exact ⟨sound, whole⟩

theorem at_once_balances (settings : Settings σ) (here : Activation) (statement : Statement)
    (rest : Cursor) (world : World) (sound : world.store.Sound) (closes : Closes 0 rest) :
    Balances (do
      atOnce settings here statement
      return (rest, none)) world := by
  refine ensures_then (ensures_innocent (innocent_blamed (blamed_at_once settings here statement))
    (at_once_ensures settings here statement world)) ?_
  rintro _ after ⟨stored, _⟩
  refine ⟨?_, closes⟩
  rcases stored with same | ⟨_, name, value, wrote⟩
  · rw [same]
    exact sound
  · rw [wrote]
    exact Store.bodies_write here.path name value sound

theorem perform_balances (settings : Settings σ) (here : Activation) (statement : Statement)
    (rest : Cursor) (world : World) (sound : world.store.Sound)
    (closes : Closes (if statement.command.opens then 1 else 0) rest) :
    Balances (perform settings here statement rest) world := by
  have entered : ∀ label, (world.store.enter (here.path ++ [label])).Sound :=
    fun label => Store.bodies_enter _ sound
  rcases statement with ⟨location, command⟩
  cases command with
  | define name =>
      apply ensures_then (carve_ensures .function location rest world closes)
      rintro ⟨block, left⟩ _ ⟨rfl, body, whole⟩
      exact ⟨Store.bodies_define here.path name block sound body, whole⟩
  | loop predicate =>
      apply ensures_then (carve_ensures .loop location rest world closes)
      rintro ⟨block, left⟩ world ⟨rfl, body, whole⟩
      apply ensures_bind
      exact round_balances settings here _ predicate block left
        { world with store := world.store.enter _ } (entered _) body whole
  | branch predicate =>
      apply ensures_then (choose_ensures here (some predicate) location rest world closes)
      rintro ⟨chosen, left⟩ world ⟨rfl, fit⟩
      cases chosen with
      | none => exact ⟨sound, fit⟩
      | some taken =>
          obtain ⟨block, clause⟩ := taken
          apply ensures_bind
          exact spawn_balances settings here clause { world with store := world.store.enter _ } _
            (entered _) fun _ => ⟨fit.1, fit.2⟩
  | call name arguments =>
      apply ensures_then (find_ensures here location name world sound)
      rintro block world ⟨rfl, body⟩
      apply ensures_bind
      exact spawn_balances settings here location { world with store := world.store.enter _ } _
        (entered _) fun _ => ⟨body, closes⟩
  | clear name => exact at_once_balances settings here _ rest world sound closes
  | count direction name => exact at_once_balances settings here _ rest world sound closes
  | debug name => exact at_once_balances settings here _ rest world sound closes
  | print format => exact at_once_balances settings here _ rest world sound closes
  | assign name format => exact at_once_balances settings here _ rest world sound closes
  | unsupported => exact at_once_balances settings here _ rest world sound closes

theorem closes_line (line : Line) (rest : Cursor) (solid : line.isBlank = false)
    (closes : Closes 0 (line :: rest)) :
    Boundary.isEnd line.text = false ∧ ∀ statement, Statement.read line = .ok statement →
      Closes (if statement.command.opens then 1 else 0) rest := by
  cases header : Boundary.isHeader line.text with
  | true =>
      obtain ⟨spaced, closed⟩ := (closes_header solid header).mp closes
      refine ⟨Boundary.header_no_end line.text header, fun statement reading => ?_⟩
      rw [if_pos (Statement.spaced_opens line statement spaced reading)]
      exact closed
  | false =>
      have going : Boundary.isEnd line.text = false := by
        cases ends : Boundary.isEnd line.text with
        | false => rfl
        | true =>
            obtain ⟨outer, impossible, _⟩ := (closes_end solid ends).mp closes
            cases impossible
      refine ⟨going, fun statement reading => ?_⟩
      rw [if_neg]
      · exact (closes_plain solid header going).mp closes
      · intro opens
        rw [Statement.opens_header line statement reading opens] at header
        cases header

theorem launch_balances (settings : Settings σ) (here : Activation) (line : Line) (rest : Cursor)
    (world : World) (sound : world.store.Sound) (solid : line.isBlank = false)
    (closes : Closes 0 (line :: rest)) :
    Balances (launch settings here line rest) world := by
  obtain ⟨going, behind⟩ := closes_line line rest solid closes
  have readable : Fails Failure.Harmless (Statement.read line) :=
    fails_mono (Statement.read_fails line) fun _ blamed => blamed going
  refine balances_still (blamed_settled _ (fails_placed line.location _ readable
    (located_harmless line.location))) (still_settled _) ?_
  intro statement answered
  have reading := read_answers line statement world answered
  refine ensures_then (ensures_innocent (innocent_blamed (blamed_record settings here statement))
    (record_ensures settings here statement world)) ?_
  rintro _ recorded ⟨store, _⟩
  rw [← store] at sound
  exact perform_balances settings here statement rest recorded sound (behind statement reading)

theorem complete_balances (settings : Settings σ) (here : Activation) (cursor : Cursor)
    (pending : Option Resume) (world : World) (sound : world.store.Sound)
    (awaits : Awaits pending cursor) :
    Balances (complete settings here cursor pending) world := by
  rcases pending with _ | ⟨statement, predicate, block⟩ | ⟨statement, terminator⟩ | _
  · exact ⟨sound, awaits⟩
  · exact round_balances settings here statement predicate block cursor world sound awaits.1 awaits.2
  · exact skip_balances terminator cursor world sound awaits
  · exact ⟨sound, awaits⟩

end Deed
end BareBones
