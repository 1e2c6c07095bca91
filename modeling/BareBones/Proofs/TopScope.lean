import BareBones.Proofs.Scoping

set_option autoImplicit false

namespace BareBones.Store

structure Tops (program : Text) (scope : Scope) (store : Store) : Prop where
  here : store.scopeAt? [program] = some scope
  bare : ∀ below inner, below ≠ [] → store.scopeAt? (program :: below) = some inner → inner = .empty

variable {program : Text} {scope : Scope} {store : Store} {path : Path}

theorem tops_begun (program : Text) : (Store.empty.enter [program]).Tops program .empty where
  here := Forest.scope_at_here
  bare below inner proper found := by
    rcases Forest.scope_at_enter_new .nil [program] (program :: below) inner found with old | new
    · cases old
    · exact new

theorem tops_enter (path : Path) (tops : store.Tops program scope) :
    (store.enter path).Tops program scope where
  here := scope_at_enter_kept store path _ _ tops.here
  bare below inner proper found := by
    rcases Forest.scope_at_enter_new store.programs path (program :: below) inner found with old | new
    · exact tops.bare below inner proper old
    · exact new

theorem tops_update (change : Scope → Scope) (tops : store.Tops program scope) :
    (store.update change [program]).Tops program (change scope) where
  here := by
    rw [scope_at_update, if_pos rfl, tops.here]
    rfl
  bare below inner proper found := by
    have apart : [program] ≠ program :: below := by simpa using proper.symm
    rw [scope_at_update, if_neg apart] at found
    exact tops.bare below inner proper found

theorem tops_define (name : Text) (block : Block) (tops : store.Tops program scope) (home : path = [program]) :
    (store.define path name block).Tops program (scope.define name block) := by
  subst home
  exact tops_update _ tops

theorem tops_inside {below place : Path} (tops : store.Tops program scope)
    (member : place ∈ (Path.chain below).map (program :: ·)) :
    store.scopeAt? place = none ∨ store.scopeAt? place = some .empty := by
  obtain ⟨inner, found, rfl⟩ := List.mem_map.mp member
  cases stands : store.scopeAt? (program :: inner) with
  | none => exact .inl rfl
  | some other =>
      right
      rw [tops.bare inner other (Path.chain_proper below inner found) stands]

theorem tops_chain {α : Type} (pick : Scope → Option α) (blank : pick .empty = none)
    (tops : store.Tops program scope) (leads : [program] <+: path) :
    ((Path.chain path).findSome? fun place => (store.scopeAt? place).bind pick) = pick scope := by
  obtain ⟨below, rfl⟩ := leads
  have inside : ((Path.chain below).map (program :: ·)).findSome?
      (fun place => (store.scopeAt? place).bind pick) = none := by
    rw [List.findSome?_eq_none_iff]
    intro place member
    rcases tops_inside tops member with missing | empty
    · rw [missing, Option.bind_none]
    · rw [empty, Option.bind_some, blank]
  rw [List.singleton_append, Path.chain, List.findSome?_append, inside, Option.none_or,
    List.findSome?_singleton, tops.here]
  rfl

theorem tops_read (name : Text) (tops : store.Tops program scope) (leads : [program] <+: path) :
    store.read? path name = scope.values.get? name := by
  rw [read_chain]
  exact tops_chain (·.values.get? name) rfl tops leads

theorem tops_function (name : Text) (tops : store.Tops program scope) (leads : [program] <+: path) :
    store.function? path name = scope.functions.get? name := by
  rw [function_chain]
  exact tops_chain (·.functions.get? name) rfl tops leads

theorem tops_write (name : Text) (value : Value) (tops : store.Tops program scope)
    (leads : [program] <+: path) (bound : scope.values.isBound name = true) :
    (store.write path name value).Tops program (scope.assign name value) := by
  obtain ⟨below, rfl⟩ := leads
  have inside : ((Path.chain below).map (program :: ·)).find?
      (fun place => (store.scopeAt? place).any (·.values.isBound name)) = none := by
    rw [List.find?_eq_none]
    intro place member
    rcases tops_inside tops member with missing | empty
    · rw [missing]
      exact Bool.false_ne_true
    · rw [empty]
      exact Bool.false_ne_true
  rw [write_chain, List.singleton_append, Path.chain, List.find?_append, inside, Option.none_or,
    List.find?_singleton, tops.here, Option.any_some, if_pos bound]
  exact tops_update _ tops

theorem tops_assign (name : Text) (value : Value) (tops : store.Tops program scope) (home : path = [program]) :
    (store.write path name value).Tops program (scope.assign name value) := by
  subst home
  have stays : ((Path.chain [program]).find? fun place =>
      (store.scopeAt? place).any (·.values.isBound name)).getD [program] = [program] := by
    rw [Path.chain, Path.chain, List.map_nil, List.nil_append, List.find?_singleton]
    split <;> rfl
  rw [write_chain, stays]
  exact tops_update _ tops

end BareBones.Store
