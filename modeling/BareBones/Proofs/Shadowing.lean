import BareBones.Proofs.Sprouting

set_option autoImplicit false

namespace BareBones

section

variable {α β : Type}

theorem find_some_find (items : List α) (pick : α → Option β) :
    items.findSome? pick = (items.find? fun item => (pick item).isSome).bind pick := by
  induction items with
  | nil => rfl
  | cons item rest ih =>
      rw [List.findSome?_cons, List.find?_cons]
      cases found : pick item with
      | none => simpa using ih
      | some value => simp [found]

theorem find_some_apart {items : List α} {first second : α → Option β} {home : α}
    (elsewhere : ∀ item, item ≠ home → second item = first item) (holds : (second home).isSome)
    (apart : (items.find? fun item => (second item).isSome) ≠ some home) :
    items.findSome? second = items.findSome? first := by
  induction items with
  | nil => rfl
  | cons item rest ih =>
      rw [List.find?_cons] at apart
      cases found : second item with
      | none =>
          have other : item ≠ home := by
            rintro rfl
            simp [found] at holds
          simp only [found, Option.isSome_none] at apart
          simpa [found, ← elsewhere item other] using ih apart
      | some value =>
          have other : item ≠ home := by simpa [found] using apart
          simp [found, ← elsewhere item other]

end

namespace Store

variable {store : Store} {path query home : Path} {name other : Text} {value : Value}

def held? (store : Store) (name : Text) (place : Path) : Option Value :=
  (store.scopeAt? place).bind (·.values.get? name)

def binder? (store : Store) (path : Path) (name : Text) : Option Path :=
  (Path.chain path).find? fun place => (store.held? name place).isSome

theorem read_held (store : Store) (path : Path) (name : Text) :
    store.read? path name = (Path.chain path).findSome? (store.held? name) :=
  read_chain store path name

theorem read_binder (store : Store) (path : Path) (name : Text) :
    store.read? path name = (store.binder? path name).bind (store.held? name) := by
  rw [read_held, find_some_find, binder?]

theorem defined_binder (store : Store) (path : Path) (name : Text) :
    store.isDefined path name = (store.binder? path name).isSome := by
  rw [isDefined, read_binder]
  cases found : store.binder? path name with
  | none => rfl
  | some place => simpa using List.find?_some found

theorem write_binder (store : Store) (path : Path) (name : Text) (value : Value) :
    store.write path name value =
      store.update (Scope.assign name value) ((store.binder? path name).getD path) := by
  have binds : (fun place => (store.scopeAt? place).any (·.values.isBound name)) =
      fun place => (store.held? name place).isSome := by
    funext place
    cases here : store.scopeAt? place <;> simp [held?, here, Bindings.isBound]
  rw [write_chain, binds, binder?]

theorem binder_chain (found : store.binder? path name = some home) :
    home ∈ Path.chain path ∧ (store.held? name home).isSome :=
  ⟨List.mem_of_find?_eq_some found,
    List.find?_some (p := fun place => (store.held? name place).isSome) found⟩

-- What a write from one scope does: it changes one scope on the chain of that scope, `home`, and there one
-- binding, which is new only where the name was undefined.
structure Writes (path : Path) (name : Text) (value : Value) (home : Path) (before after : Store) :
    Prop where
  chained : home ∈ Path.chain path
  elsewhere : ∀ place, place ≠ home → after.scopeAt? place = before.scopeAt? place
  bindings : ∃ old new, before.scopeAt? home = some old ∧ after.scopeAt? home = some new ∧
    new.functions = old.functions ∧ new.values.get? name = some value ∧
    (∀ other, other ≠ name → new.values.get? other = old.values.get? other) ∧
    new.values.keys =
      if before.isDefined path name then old.values.keys else old.values.keys ++ [name]
  settles : before.isDefined path name = false → home = path
  own : after.read? path name = some value
  seen : ∀ query, after.binder? query name = some home → after.read? query name = some value
  unseen : ∀ query other, ¬ (other = name ∧ after.binder? query name = some home) →
    after.read? query other = before.read? query other ∧
      after.isDefined query other = before.isDefined query other

theorem held_assigned (store : Store) (place : Path) (name : Text) (value : Value)
    (different : place ≠ home ∨ other ≠ name) :
    (store.update (Scope.assign name value) home).held? other place = store.held? other place := by
  rw [held?, held?, scope_at_update]
  by_cases same : home = place
  · have apart : name ≠ other := Ne.symm (different.resolve_left (not_not_intro same.symm))
    rw [if_pos same]
    cases store.scopeAt? place with
    | none => rfl
    | some scope => exact Bindings.get_put_other name other value scope.values apart
  · rw [if_neg same]

theorem read_unseen (present : (store.scopeAt? home).isSome)
    (apart : ¬ (other = name ∧
      (store.update (Scope.assign name value) home).binder? query name = some home)) :
    (store.update (Scope.assign name value) home).read? query other = store.read? query other := by
  rw [read_held, read_held]
  by_cases same : other = name
  · subst other
    have holds := Option.isSome_of_eq_some (assigned_here store home name value present)
    exact find_some_apart (fun place moved => held_assigned store place name value (.inl moved)) holds
      fun found => apart ⟨rfl, found⟩
  · exact find_some_congr fun place _ => held_assigned store place name value (.inr same)

theorem write_home (store : Store) (name : Text) (value : Value) (proper : path ≠ [])
    (present : (store.scopeAt? path).isSome) :
    ∃ home, home ∈ Path.chain path ∧ (store.scopeAt? home).isSome ∧
      store.write path name value = store.update (Scope.assign name value) home ∧
      ((store.held? name home).isSome = store.isDefined path name) ∧
      (store.isDefined path name = false → home = path) := by
  have own : path ∈ Path.chain path := Path.chain_member path path proper (List.prefix_refl path)
  rw [write_binder, defined_binder]
  cases found : store.binder? path name with
  | none =>
      refine ⟨path, own, present, rfl, ?_, fun _ => rfl⟩
      simpa using List.find?_eq_none.mp found path own
  | some home =>
      obtain ⟨chained, holds⟩ := binder_chain found
      refine ⟨home, chained, ?_, rfl, holds, fun missing => by cases missing⟩
      obtain ⟨value, binds⟩ := Option.isSome_iff_exists.mp holds
      exact Option.isSome_of_eq_some (Option.bind_eq_some_iff.mp binds).choose_spec.1

theorem write_writes (store : Store) (name : Text) (value : Value) (proper : path ≠ [])
    (present : (store.scopeAt? path).isSome) :
    ∃ home, Writes path name value home store (store.write path name value) := by
  have own := read_written store path name value proper present
  obtain ⟨home, chained, stands, wrote, holds, settles⟩ := write_home store name value proper present
  obtain ⟨scope, here⟩ := Option.isSome_iff_exists.mp stands
  have unseen : ∀ query other,
      ¬ (other = name ∧ (store.write path name value).binder? query name = some home) →
        (store.write path name value).read? query other = store.read? query other := by
    intro query other apart
    rw [wrote] at apart ⊢
    exact read_unseen stands apart
  refine ⟨home, chained, ?_, ⟨scope, scope.assign name value, here, ?_, rfl, ?_, ?_, ?_⟩, settles, own, ?_, ?_⟩
  · intro place moved
    rw [wrote, scope_at_update, if_neg (Ne.symm moved)]
  · rw [wrote, scope_at_update, if_pos rfl, here, Option.map_some]
  · exact Bindings.get_put_same name value scope.values
  · exact fun other different => Bindings.get_put_other name other value scope.values different.symm
  · have bound := Bindings.get_present name scope.values
    rw [← holds, held?, here, Option.bind_some, Scope.assign, Bindings.keys_put]
    by_cases member : name ∈ scope.values.keys
    · rw [if_pos member, if_pos (bound.mpr member)]
    · rw [if_neg member, if_neg (mt bound.mp member)]
  · intro query found
    rw [read_binder, found, Option.bind_some, wrote]
    exact assigned_here store home name value stands
  · intro query other apart
    rw [isDefined, isDefined, unseen query other apart]
    exact ⟨rfl, rfl⟩

structure Views (one : Store) (path : Path) (other : Store) (query : Path) : Prop where
  read : ∀ name, one.read? path name = other.read? query name
  defined : ∀ name, one.isDefined path name = other.isDefined query name
  function : ∀ name, one.function? path name = other.function? query name

theorem views_of {one other : Store} (read : ∀ name, one.read? path name = other.read? query name)
    (function : ∀ name, one.function? path name = other.function? query name) :
    Views one path other query :=
  ⟨read, fun name => by rw [isDefined, isDefined, read name], function⟩

-- What the child of a scope is to the others: it is made once, nothing else sees a difference, and a new
-- one sees what its parent sees.
structure Grows (parent : Path) (label : Text) (before after : Store) : Prop where
  stands : (after.scopeAt? (parent ++ [label])).isSome
  again : after.enter (parent ++ [label]) = after
  spared : ∀ query, Views after query before query
  heir : before.scopeAt? (parent ++ [label]) = none → Views after (parent ++ [label]) after parent

theorem sprouts_bind {α : Type} {parent place : Path} {label : Text} {before after : Store}
    (sprouts : Sprouts parent label before after) (pick : Scope → Option α) (none : pick .empty = none) :
    (after.scopeAt? place).bind pick = (before.scopeAt? place).bind pick := by
  rw [sprouts.scopes]
  by_cases new : place = parent ++ [label]
  · rw [if_pos new, new, sprouts.fresh]
    exact none
  · rw [if_neg new]

theorem sprouts_view {parent : Path} {label : Text} {before after : Store}
    (sprouts : Sprouts parent label before after) (query : Path) : Views after query before query := by
  apply views_of
  · intro name
    rw [read_chain, read_chain]
    exact find_some_congr fun place _ => sprouts_bind sprouts (·.values.get? name) rfl
  · intro name
    rw [function_chain, function_chain]
    exact find_some_congr fun place _ => sprouts_bind sprouts (·.functions.get? name) rfl

theorem sprouts_heir {parent : Path} {label : Text} {before after : Store}
    (sprouts : Sprouts parent label before after) : Views after (parent ++ [label]) after parent := by
  have empty : after.scopeAt? (parent ++ [label]) = some .empty := by rw [sprouts.scopes, if_pos rfl]
  apply views_of
  · intro name
    rw [read_chain, read_chain, Path.chain_append, List.findSome?_cons, empty]
    rfl
  · intro name
    rw [function_chain, function_chain, Path.chain_append, List.findSome?_cons, empty]
    rfl

theorem enter_grows (store : Store) (parent : Path) (label : Text)
    (stands : (store.scopeAt? parent).isSome) :
    Grows parent label store (store.enter (parent ++ [label])) := by
  have made := scope_at_enter store (parent ++ [label])
  have again : (store.enter (parent ++ [label])).enter (parent ++ [label]) =
      store.enter (parent ++ [label]) := by
    have below := made
    rw [scope_at_proper _ _ (by simp)] at below
    rw [enter, Forest.enter_present _ _ below]
  rcases enter_sprouts store parent label stands with same | sprouts
  · refine ⟨made, again, fun query => ?_, fun fresh => ?_⟩
    · rw [same]
      exact views_of (fun _ => rfl) fun _ => rfl
    · rw [same, fresh] at made
      cases made
  · exact ⟨made, again, sprouts_view sprouts, fun _ => sprouts_heir sprouts⟩

inductive Change where
  | enter (path : Path)
  | write (path : Path) (name : Text) (value : Value)
  | define (path : Path) (name : Text) (body : Block)

namespace Change

def place : Change → Path
  | .enter path => path
  | .write path _ _ => path
  | .define path _ _ => path

def apply (store : Store) : Change → Store
  | .enter path => store.enter path
  | .write path name value => store.write path name value
  | .define path name body => store.define path name body

end Change

def changed (changes : List Change) (store : Store) : Store := changes.foldl Change.apply store

theorem update_programs (change : Scope → Scope) (store : Store) (path : Path) :
    (store.update change path).programs = store.programs.update change path := by
  cases path with
  | nil => cases programs : store.programs <;> exact programs
  | cons label below => rfl

theorem apply_programs (change : Change) {one other : Store} (same : one.programs = other.programs) :
    (change.apply one).programs = (change.apply other).programs := by
  cases change with
  | enter path => simp only [Change.apply, enter, same]
  | write path name value => simp only [Change.apply, write, update_programs, same]
  | define path name body => simp only [Change.apply, define, update_programs, same]

theorem apply_root (change : Change) (store : Store) (rooted : change.place = []) :
    (change.apply store).programs = store.programs := by
  cases change with
  | enter path =>
      cases rooted
      cases programs : store.programs <;> simp [Change.apply, enter, programs, Forest.enter]
  | write path name value =>
      cases rooted
      cases programs : store.programs <;> simp [Change.apply, write, update, programs, Forest.holder?]
  | define path name body =>
      cases rooted
      rfl

theorem programs_view {one other : Store} (same : one.programs = other.programs) (query : Path) :
    Views one query other query :=
  views_of (fun _ => by rw [read?, read?, same]) fun _ => by rw [function?, function?, same]

theorem changes_rootless (changes : List Change) {one other : Store}
    (same : one.programs = other.programs) :
    (changed changes one).programs =
      (changed (changes.filter (·.place ≠ [])) other).programs := by
  induction changes generalizing one other with
  | nil => exact same
  | cons change rest ih =>
      by_cases rooted : change.place = []
      · rw [List.filter_cons_of_neg (by simpa using rooted)]
        exact ih ((apply_root change one rooted).trans same)
      · rw [List.filter_cons_of_pos (by simpa using rooted)]
        exact ih (apply_programs change same)

theorem changes_seen (store : Store) :
    (∀ path name value, path ≠ [] → (store.scopeAt? path).isSome →
      ∃ home, Writes path name value home store (store.write path name value)) ∧
    (∀ parent label, (store.scopeAt? parent).isSome →
      Grows parent label store (store.enter (parent ++ [label]))) ∧
    (∀ name, store.read? [] name = none ∧ store.function? [] name = none) ∧
    ∀ root changes query, Views (changed changes store) query
      (changed (changes.filter (·.place ≠ [])) { store with root := root }) query := by
  refine ⟨?_, enter_grows store, ?_, ?_⟩
  · exact fun path name value proper present => write_writes store name value proper present
  · intro name
    rw [read_chain, function_chain]
    exact ⟨rfl, rfl⟩
  · intro root changes query
    have same : store.programs = { store with root := root : Store }.programs := rfl
    exact programs_view (changes_rootless changes same) query

theorem changes_seen_shadowed :
    let outer : Path := ["p".toList]
    let inner : Path := ["p".toList, "f".toList]
    let beside : Path := ["p".toList, "g".toList]
    let name : Text := "x".toList
    let store := changed [.enter outer, .enter inner, .write inner name (.int 1),
      .write outer name (.int 2), .enter beside] .empty
    let after := store.write outer name (.int 3)
    (∃ home, Writes outer name (.int 3) home store after) ∧
      after.read? outer name = some (.int 3) ∧ after.read? inner name = some (.int 1) ∧
      after.read? beside name = some (.int 3) := by
  intro outer inner beside name store after
  obtain ⟨home, writes⟩ := (changes_seen store).1 outer name (.int 3) (by decide) (by decide)
  obtain rfl : home = outer := List.mem_singleton.mp writes.chained
  refine ⟨⟨outer, writes⟩, writes.own, ?_, ?_⟩
  · rw [(writes.unseen inner name (by decide)).1]
    decide
  · exact writes.seen beside (by decide)

end Store
end BareBones
