import BareBones.Proofs.LiveFrames

set_option autoImplicit false

namespace BareBones.Machine

variable {σ : Type} {settings : Settings σ}

def InBlock (frame : Frame) : Prop :=
  ∃ statement, (∃ predicate block, frame.resume = some (.loop statement predicate block)) ∨
    ∃ terminator, frame.resume = some (.branch statement terminator)

theorem serves_block (caller : List Text) (body : Frame) (serves : body.Serves caller)
    (block : InBlock body) : body.arguments = caller := by
  obtain ⟨statement, ⟨predicate, block, resumes⟩ | ⟨terminator, resumes⟩⟩ := block
  · rw [Frame.Serves, resumes] at serves
    exact serves.2
  · rw [Frame.Serves, resumes] at serves
    exact serves

section

variable {world : World} {stack below : List Frame} {frame : Frame}

theorem stacked_bottom (stacked : Stacked settings world stack) :
    ∃ bottom, stack.getLast? = some bottom ∧ bottom.name = settings.program ∧
      bottom.path = [settings.program] ∧ bottom.arguments = settings.arguments ∧ bottom.id = 0 ∧
      bottom.resume = none := by
  induction stacked with
  | program frame name path arguments first resumes _ _ =>
      exact ⟨frame, rfl, name, path, arguments, first, resumes⟩
  | body body caller below _ _ _ _ _ _ _ ih =>
      rw [List.getLast?_cons_cons]
      exact ih

theorem stacked_bounded (count : Int) (limit : settings.maxDepth = .atMost count)
    (stacked : Stacked settings world stack) : (stack.length : Int) ≤ max 1 count := by
  cases stacked with
  | program frame _ _ _ _ _ _ _ => exact Int.le_max_left 1 count
  | body body caller below _ _ _ _ _ allowed _ =>
      obtain ⟨location, allowed⟩ := allowed
      rw [limit, DepthLimit.allow_atMost] at allowed
      simp only [List.length_cons]
      omega

theorem stacked_alone (limit : settings.maxDepth = .blank)
    (stacked : Stacked settings world stack) : stack.length = 1 := by
  cases stacked with
  | program frame _ _ _ _ _ _ _ => rfl
  | body body caller below _ _ _ _ _ allowed _ =>
      obtain ⟨location, allowed⟩ := allowed
      rw [limit] at allowed
      cases allowed

theorem stacked_child (stacked : Stacked settings world stack) :
    stack.IsChain fun above below => above.path = below.path ++ [above.name] := by
  induction stacked with
  | program frame _ _ _ _ _ _ _ => exact .singleton frame
  | body body caller below _ path _ _ _ _ _ ih => exact .cons_cons path ih

theorem stacked_inherits (stacked : Stacked settings world stack) :
    stack.IsChain fun above below => InBlock above → above.arguments = below.arguments := by
  induction stacked with
  | program frame _ _ _ _ _ _ _ => exact .singleton frame
  | body body caller below _ _ _ _ _ _ serves ih =>
      exact .cons_cons (serves_block caller.arguments body serves) ih

theorem stacked_present (stacked : Stacked settings world stack) (member : frame ∈ stack) :
    (world.store.scopeAt? frame.path).isSome := by
  induction stacked with
  | program _ _ _ _ _ _ _ present =>
      rw [List.mem_singleton.mp member]
      exact present
  | body body caller below _ _ present _ _ _ _ ih =>
      rcases List.mem_cons.mp member with rfl | lower
      · exact present
      · exact ih lower

theorem stacked_numbered (stacked : Stacked settings world stack) (member : frame ∈ stack) :
    frame.id < world.created := by
  induction stacked with
  | program first _ _ _ same _ created _ =>
      rw [List.mem_singleton.mp member, same]
      exact created
  | body body caller below _ _ _ _ created _ _ ih =>
      rcases List.mem_cons.mp member with rfl | lower
      · exact created
      · exact ih lower

theorem stacked_ordered (stacked : Stacked settings world stack) :
    stack.Pairwise fun above below => below.id < above.id := by
  induction stacked with
  | program frame _ _ _ _ _ _ _ => exact List.pairwise_singleton _ frame
  | body body caller below _ _ _ older _ _ _ ih =>
      refine List.pairwise_cons.mpr ⟨?_, ih⟩
      intro lower member
      rcases List.mem_cons.mp member with rfl | deeper
      · exact older
      · exact Nat.lt_trans ((List.pairwise_cons.mp ih).1 lower deeper) older

theorem stacked_distinct (stacked : Stacked settings world stack) :
    (stack.map fun frame => Frame.describeId frame.id).Nodup := by
  refine List.pairwise_map.mpr ((stacked_ordered stacked).imp ?_)
  intro above below older same
  rw [Frame.describeId_injective above.id below.id same] at older
  exact Nat.lt_irrefl _ older

theorem stacked_path (stacked : Stacked settings world (frame :: below)) :
    frame.path = (frame :: below).reverse.map (·.name) := by
  generalize same : frame :: below = stack at stacked
  induction stacked generalizing frame below with
  | program first name path _ _ _ _ _ =>
      cases same
      rw [path, ← name]
      rfl
  | body body caller lower _ path _ _ _ _ _ ih =>
      cases same
      rw [path, ih rfl, ← List.map_singleton, ← List.map_append, ← List.reverse_cons]

theorem stacked_chain (stacked : Stacked settings world (frame :: below)) :
    Path.chain frame.path = (frame :: below).map (·.path) := by
  generalize same : frame :: below = stack at stacked
  induction stacked generalizing frame below with
  | program first _ path _ _ _ _ _ =>
      cases same
      rw [List.map_singleton, path]
      rfl
  | body body caller lower _ path _ _ _ _ _ ih =>
      cases same
      rw [List.map_cons, ← ih rfl, path, Path.chain_append]

end

structure Layered (settings : Settings σ) (machine : Machine σ) : Prop where
  living : machine.stack ≠ []
  bounded : ∀ count, settings.maxDepth = .atMost count → (machine.stack.length : Int) ≤ max 1 count
  alone : settings.maxDepth = .blank → machine.stack.length = 1
  program : ∃ bottom, machine.stack.getLast? = some bottom ∧ bottom.name = settings.program ∧
    bottom.path = [settings.program] ∧ bottom.arguments = settings.arguments ∧ bottom.id = 0 ∧
    bottom.resume = none
  child : machine.stack.IsChain fun above below => above.path = below.path ++ [above.name]
  present : ∀ frame ∈ machine.stack, (machine.store.scopeAt? frame.path).isSome
  chain : ∀ top ∈ machine.stack.head?, Path.chain top.path = machine.stack.map (·.path)
  reads : ∀ top ∈ machine.stack.head?, ∀ name, machine.store.read? top.path name =
    machine.stack.findSome? fun frame => (machine.store.scopeAt? frame.path).bind (·.values.get? name)
  calls : ∀ top ∈ machine.stack.head?, ∀ name, machine.store.function? top.path name =
    machine.stack.findSome? fun frame =>
      (machine.store.scopeAt? frame.path).bind (·.functions.get? name)
  writes : ∀ top ∈ machine.stack.head?, ∀ name value, machine.store.write top.path name value =
    machine.store.update (Scope.assign name value) (((machine.stack.find? fun frame =>
      (machine.store.scopeAt? frame.path).any (·.values.isBound name)).getD top).path)
  zero : ∀ top ∈ machine.stack.head?, ∀ strict, (machine.env top).resolve strict "#0".toList =
    .ok (.text (Text.join "/".toList (machine.stack.reverse.map (·.name))))
  inherits : machine.stack.IsChain fun above below => InBlock above → above.arguments = below.arguments
  distinct : (machine.stack.map fun frame => Frame.describeId frame.id).Nodup
  numbered : ∀ frame ∈ machine.stack, frame.id < machine.created
  latest : ∀ id ∈ machine.journal.latest.keys, ∃ frame ∈ machine.stack, frame.id = id

theorem resolve_zero (env : Env) (strict : Bool) :
    env.resolve strict "#0".toList = .ok (.text env.path.describe) := by
  rw [Env.resolve]
  rfl

theorem standing_layered (machine : Machine σ)
    (standing : Standing settings machine.world machine.stack) : Layered settings machine := by
  obtain ⟨stacked, latest⟩ := standing
  have chain : ∀ top ∈ machine.stack.head?, Path.chain top.path = machine.stack.map (·.path) := by
    intro top first
    obtain ⟨below, stack⟩ := List.head?_eq_some_iff.mp first
    rw [stack] at stacked ⊢
    exact stacked_chain stacked
  exact {
    living := by
      intro empty
      rw [empty] at stacked
      cases stacked
    bounded := fun count limit => stacked_bounded count limit stacked
    alone := fun limit => stacked_alone limit stacked
    program := stacked_bottom stacked
    child := stacked_child stacked
    present := fun _ member => stacked_present stacked member
    chain
    reads := by
      intro top first name
      rw [Store.read_chain, chain top first, List.findSome?_map]
      rfl
    calls := by
      intro top first name
      rw [Store.function_chain, chain top first, List.findSome?_map]
      rfl
    writes := by
      intro top first name value
      rw [Store.write_chain, chain top first, List.find?_map, Option.getD_map]
      rfl
    zero := by
      intro top first strict
      obtain ⟨below, stack⟩ := List.head?_eq_some_iff.mp first
      rw [stack] at stacked ⊢
      rw [resolve_zero, ← stacked_path stacked]
      rfl
    inherits := stacked_inherits stacked
    distinct := stacked_distinct stacked
    numbered := fun _ member => stacked_numbered stacked member
    latest := fun id member => List.mem_map.mp (latest id member) }

def Shows (settings : Settings σ) (source : Text) (capacity : Nat) (host : σ) (machine : Machine σ) :
    Prop :=
  ComesTo settings (opening settings source (fresh (.empty capacity) host)) machine ∨
    ∃ fuel failure, run settings fuel source (fresh (.empty capacity) host) =
      some (.error failure, machine)

theorem shows_comes (source : Text) (capacity : Nat) (host : σ) (machine : Machine σ)
    (unobserved : settings.Unobserved) (shows : Shows settings source capacity host machine) :
    ComesTo settings (opening settings source (fresh (.empty capacity) host)) machine := by
  rcases shows with comes | ⟨fuel, failure, ran⟩
  · exact comes
  · rw [run_unobserved settings _ _ _ unobserved] at ran
    obtain ⟨ending, driven, same⟩ := Option.map_eq_some_iff.mp ran
    obtain ⟨result, last⟩ := ending
    obtain ⟨before, path, stepped⟩ := drive_ends settings fuel _ last result driven
    cases result with
    | ok _ => cases same
    | error cause =>
        cases same
        exact .failure path stepped

-- In every state of a run, the live frames lie on one another from the program up, each in the scope below
-- the one before it, and no number of a frame is used again.
theorem frames_layered (settings : Settings σ) (source : Text) (capacity : Nat) (host : σ)
    (machine : Machine σ) (unobserved : settings.Unobserved)
    (shows : Shows settings source capacity host machine) :
    Layered settings machine ∧
      ∀ earlier, Reaches settings (opening settings source (fresh (.empty capacity) host)) earlier →
        ComesTo settings earlier machine → ∀ frame ∈ machine.stack, frame.id < earlier.created →
          ∃ former ∈ earlier.stack, ∃ cursor, frame = former.moved cursor := by
  have opens := opening_standing settings source capacity host
  have comes := shows_comes source capacity host machine unobserved shows
  refine ⟨standing_layered machine (comes_standing unobserved comes opens).1, ?_⟩
  intro earlier path later
  have stands := (reaches_standing unobserved path opens).1
  exact (comes_standing unobserved later stands).2.old

def failing : Text :=
  "function f do\ndebug Y\nend\nf a".toList

theorem frames_layered_failing : quiet.Unobserved ∧ ∃ failure machine,
    run quiet 3 failing (fresh (.empty 5) ()) = some (.error failure, machine) ∧
      machine.stack.length = 2 ∧ Layered quiet machine := by
  have outline : (run quiet 3 failing (fresh (.empty 5) ())).map (fun ending =>
      (ending.1.toOption, ending.2.stack.length)) = some (none, 2) := by decide +kernel
  obtain ⟨⟨result, machine⟩, ran, same⟩ := Option.map_eq_some_iff.mp outline
  cases result with
  | ok _ => cases same
  | error failure =>
      refine ⟨quiet_unobserved, failure, machine, ran, congrArg Prod.snd same, ?_⟩
      exact (frames_layered quiet failing 5 () machine quiet_unobserved (.inr ⟨3, failure, ran⟩)).1

end BareBones.Machine
