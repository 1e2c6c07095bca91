import BareBones.Store
import Mathlib.Data.List.Basic
import Mathlib.Data.List.Find

set_option autoImplicit false

namespace BareBones

theorem find_some_congr {α β : Type} {items : List α} {first second : α → Option β}
    (same : ∀ item ∈ items, first item = second item) :
    items.findSome? first = items.findSome? second := by
  rw [← List.head?_filterMap, List.filterMap_congr same, List.head?_filterMap]

theorem Bindings.get_present {κ α : Type} [DecidableEq κ] (key : κ) (bindings : Bindings κ α) :
    (bindings.get? key).isSome ↔ key ∈ bindings.keys := by
  induction bindings with
  | nil =>
      constructor
      · intro found
        cases found
      · intro member
        cases member
  | cons binding rest ih =>
      obtain ⟨bound, value⟩ := binding
      rw [get?, keys, List.map_cons, List.mem_cons]
      by_cases same : bound = key
      · rw [if_pos same]
        exact ⟨fun _ => .inl same.symm, fun _ => rfl⟩
      · rw [if_neg same, ih, keys]
        exact ⟨.inr, fun found => found.resolve_left (Ne.symm same)⟩

namespace Path

def chain : Path → List Path
  | [] => []
  | label :: below => (chain below).map (label :: ·) ++ [[label]]

theorem chain_append (path : Path) (label : Text) :
    chain (path ++ [label]) = (path ++ [label]) :: chain path := by
  induction path with
  | nil => rfl
  | cons first rest ih =>
      rw [List.cons_append, chain, ih]
      rfl

theorem chain_proper (path place : Path) (member : place ∈ chain path) : place ≠ [] := by
  cases path with
  | nil => cases member
  | cons label below =>
      rcases List.mem_append.mp member with deeper | here
      · obtain ⟨inner, _, rfl⟩ := List.mem_map.mp deeper
        exact List.cons_ne_nil label inner
      · rw [List.mem_singleton.mp here]
        exact List.cons_ne_nil label []

theorem chain_member (path place : Path) (proper : place ≠ []) (leads : place <+: path) :
    place ∈ chain path := by
  induction path generalizing place with
  | nil => exact absurd (List.prefix_nil.mp leads) proper
  | cons label below ih =>
      cases place with
      | nil => exact absurd rfl proper
      | cons first rest =>
          obtain ⟨rfl, further⟩ := List.cons_prefix_cons.mp leads
          by_cases last : rest = []
          · rw [last]
            exact List.mem_append_right _ List.mem_cons_self
          · exact List.mem_append_left _ (List.mem_map_of_mem (ih rest last further))

theorem chain_prefix (path place : Path) (member : place ∈ chain path) : place <+: path := by
  induction path generalizing place with
  | nil => cases member
  | cons label below ih =>
      rcases List.mem_append.mp member with deeper | here
      · obtain ⟨inner, found, rfl⟩ := List.mem_map.mp deeper
        exact List.cons_prefix_cons.mpr ⟨rfl, ih inner found⟩
      · rw [List.mem_singleton.mp here]
        exact List.cons_prefix_cons.mpr ⟨rfl, List.nil_prefix⟩

end Path

namespace Forest

variable {α : Type} {label name : Text} {scope : Scope} {inner rest : Forest}

theorem scope_at_here : scopeAt? (.cons label scope inner rest) [label] = some scope := by
  rw [scopeAt?, if_pos rfl]
  rfl

theorem scope_at_below (path : Path) (proper : path ≠ []) :
    scopeAt? (.cons label scope inner rest) (label :: path) = scopeAt? inner path := by
  rw [scopeAt?, if_pos rfl, if_neg]
  simpa only [List.isEmpty_iff] using proper

theorem scope_at_beside (path : Path) (different : name ≠ label) :
    scopeAt? (.cons label scope inner rest) (name :: path) = scopeAt? rest (name :: path) := by
  rw [scopeAt?, if_neg different]

theorem scope_at_root (forest : Forest) : forest.scopeAt? [] = none := by
  cases forest <;> rfl

theorem scope_at_update (change : Scope → Scope) (forest : Forest) (path query : Path) :
    (forest.update change path).scopeAt? query =
      if path = query then (forest.scopeAt? query).map change else forest.scopeAt? query := by
  induction forest generalizing path query with
  | nil =>
      rw [update, scopeAt?]
      split <;> rfl
  | cons label scope inner rest ihInner ihRest =>
      cases query with
      | nil =>
          rw [scope_at_root, scope_at_root]
          split <;> rfl
      | cons sought deeper =>
          cases path with
          | nil => rw [update, if_neg (List.cons_ne_nil _ _).symm]
          | cons name below =>
              by_cases here : name = label
              · subst name
                by_cases same : sought = label
                · by_cases last : below = []
                  · by_cases ends : deeper = []
                    · simp [update, scopeAt?, same, last, ends]
                    · simp [update, scopeAt?, same, last, ends, Ne.symm ends]
                  · by_cases ends : deeper = []
                    · simp [update, scopeAt?, same, last, ends]
                    · simp [update, scopeAt?, same, last, ends, ihInner]
                · by_cases last : below = []
                  · simp [update, scopeAt?, same, Ne.symm same, last]
                  · simp [update, scopeAt?, same, Ne.symm same, last]
              · by_cases same : sought = label
                · simp [update, scopeAt?, here, same]
                · simp [update, scopeAt?, here, same, ihRest]

theorem scope_at_enter_kept (forest : Forest) (path query : Path) (scope : Scope)
    (present : forest.scopeAt? query = some scope) :
    (forest.enter path).scopeAt? query = some scope := by
  induction forest generalizing path query with
  | nil => cases present
  | cons label here inner rest ihInner ihRest =>
      cases path with
      | nil => rwa [enter]
      | cons name below =>
          cases query with
          | nil => cases present
          | cons sought deeper =>
              by_cases same : sought = label
              · subst sought
                by_cases entered : name = label
                · by_cases ends : deeper = []
                  · simpa [enter, scopeAt?, entered, ends] using present
                  · simp only [scopeAt?, if_true, List.isEmpty_iff, if_neg ends] at present
                    simpa [enter, scopeAt?, entered, ends] using ihInner below deeper present
                · simpa [enter, scopeAt?, entered] using present
              · rw [scope_at_beside deeper same] at present
                by_cases entered : name = label
                · simpa [enter, scopeAt?, entered, same] using present
                · simpa [enter, scopeAt?, entered, same] using ihRest (name :: below) _ present

theorem scope_at_nest (path : Path) (proper : path ≠ []) : ((nest path).scopeAt? path).isSome := by
  induction path with
  | nil => exact absurd rfl proper
  | cons label below ih =>
      rw [nest]
      by_cases last : below = []
      · rw [last, scope_at_here]
        rfl
      · rw [scope_at_below below last]
        exact ih last

theorem scope_at_enter (forest : Forest) (path : Path) (proper : path ≠ []) :
    ((forest.enter path).scopeAt? path).isSome := by
  induction forest generalizing path with
  | nil =>
      cases path with
      | nil => exact absurd rfl proper
      | cons label below => exact scope_at_nest _ proper
  | cons label scope inner rest ihInner ihRest =>
      cases path with
      | nil => exact absurd rfl proper
      | cons name below =>
          rw [enter]
          by_cases same : name = label
          · rw [if_pos same, same]
            by_cases last : below = []
            · rw [last, scope_at_here]
              rfl
            · rw [scope_at_below below last]
              exact ihInner below last
          · rw [if_neg same, scope_at_beside below same]
            exact ihRest (name :: below) proper

theorem scope_at_nest_empty (path query : Path) (scope : Scope)
    (found : (nest path).scopeAt? query = some scope) : scope = .empty := by
  induction path generalizing query with
  | nil => cases found
  | cons label below ih =>
      cases query with
      | nil => cases found
      | cons name deeper =>
          rw [nest, scopeAt?] at found
          split at found
          · split at found
            · cases found
              rfl
            · exact ih deeper found
          · cases found

theorem scope_at_enter_new (forest : Forest) (path query : Path) (scope : Scope)
    (found : (forest.enter path).scopeAt? query = some scope) :
    forest.scopeAt? query = some scope ∨ scope = .empty := by
  induction forest generalizing path query with
  | nil =>
      cases path with
      | nil => cases found
      | cons label below => exact .inr (scope_at_nest_empty _ query scope found)
  | cons label here inner rest ihInner ihRest =>
      cases path with
      | nil => exact .inl found
      | cons name below =>
          cases query with
          | nil =>
              rw [scope_at_root] at found
              cases found
          | cons sought deeper =>
              by_cases same : sought = label
              · subst sought
                by_cases entered : name = label
                · by_cases ends : deeper = []
                  · left
                    simpa [enter, scopeAt?, entered, ends] using found
                  · have inside : (inner.enter below).scopeAt? deeper = some scope := by
                      simpa [enter, scopeAt?, entered, ends] using found
                    rw [scope_at_below deeper ends]
                    exact ihInner below deeper inside
                · left
                  simpa [enter, scopeAt?, entered] using found
              · rw [scope_at_beside deeper same]
                by_cases entered : name = label
                · left
                  simpa [enter, scopeAt?, entered, same] using found
                · have beside : (rest.enter (name :: below)).scopeAt? (sought :: deeper) =
                      some scope := by
                    simpa [enter, scopeAt?, entered, same] using found
                  exact ihRest (name :: below) _ beside

theorem nearest_chain (pick : Scope → Option α) (forest : Forest) (path : Path) :
    nearest? pick forest path =
      (Path.chain path).findSome? fun place => (forest.scopeAt? place).bind pick := by
  induction forest generalizing path with
  | nil =>
      symm
      rw [nearest?, List.findSome?_eq_none_iff]
      exact fun place _ => rfl
  | cons label scope inner rest ihInner ihRest =>
      cases path with
      | nil => rfl
      | cons name below =>
          rw [nearest?, Path.chain, List.findSome?_append, List.findSome?_map]
          by_cases same : name = label
          · subst same
            have deeper : (Path.chain below).findSome? ((fun place =>
                (scopeAt? (.cons name scope inner rest) place).bind pick) ∘ (name :: ·)) =
                  (Path.chain below).findSome? fun place => (inner.scopeAt? place).bind pick := by
              apply find_some_congr
              intro place member
              rw [Function.comp_apply, scope_at_below place (Path.chain_proper below place member)]
            rw [if_pos rfl, deeper, ← ihInner, List.findSome?_singleton, scope_at_here]
            cases nearest? pick inner below <;> rfl
          · have beside : (fun place => (scopeAt? (.cons label scope inner rest) place).bind pick) ∘
                (name :: ·) = (fun place => (rest.scopeAt? place).bind pick) ∘ (name :: ·) := by
              funext place
              rw [Function.comp_apply, scope_at_beside place same]
              rfl
            rw [if_neg same, beside, ← List.findSome?_map, List.findSome?_singleton,
              scope_at_beside [] same, ihRest, Path.chain, List.findSome?_append,
              List.findSome?_singleton]

theorem holder_chain (property : Scope → Bool) (forest : Forest) (path : Path) :
    holder? property forest path =
      (Path.chain path).find? fun place => (forest.scopeAt? place).any property := by
  induction forest generalizing path with
  | nil =>
      symm
      rw [holder?, List.find?_eq_none]
      exact fun place _ => Bool.false_ne_true
  | cons label scope inner rest ihInner ihRest =>
      cases path with
      | nil => rfl
      | cons name below =>
          rw [holder?, Path.chain, List.find?_append, List.find?_map]
          by_cases same : name = label
          · subst same
            have deeper : (Path.chain below).find? ((fun place =>
                (scopeAt? (.cons name scope inner rest) place).any property) ∘ (name :: ·)) =
                  (Path.chain below).find? fun place => (inner.scopeAt? place).any property := by
              refine List.find?_congr ?_
              intro place member
              rw [Function.comp_apply, scope_at_below place (Path.chain_proper below place member)]
            rw [if_pos rfl, deeper, ← ihInner, List.find?_singleton, scope_at_here]
            cases holder? property inner below <;> rfl
          · have beside : (fun place => (scopeAt? (.cons label scope inner rest) place).any property) ∘
                (name :: ·) = (fun place => (rest.scopeAt? place).any property) ∘ (name :: ·) := by
              funext place
              rw [Function.comp_apply, scope_at_beside place same]
              rfl
            rw [if_neg same, beside, ← List.find?_map, List.find?_singleton, scope_at_beside [] same,
              ihRest, Path.chain, List.find?_append, List.find?_singleton]

end Forest

namespace Store

theorem scope_at_proper (store : Store) (path : Path) (proper : path ≠ []) :
    store.scopeAt? path = store.programs.scopeAt? path := by
  rw [scopeAt?, if_neg]
  simpa only [List.isEmpty_iff] using proper

theorem scope_at_update (change : Scope → Scope) (store : Store) (path query : Path) :
    (store.update change path).scopeAt? query =
      if path = query then (store.scopeAt? query).map change else store.scopeAt? query := by
  cases path with
  | nil =>
      cases query with
      | nil => rfl
      | cons name below => rfl
  | cons label inner =>
      cases query with
      | nil => rfl
      | cons name below => exact Forest.scope_at_update change store.programs _ _

theorem scope_at_enter_kept (store : Store) (path query : Path) (scope : Scope)
    (present : store.scopeAt? query = some scope) :
    (store.enter path).scopeAt? query = some scope := by
  cases query with
  | nil => exact present
  | cons name below => exact Forest.scope_at_enter_kept store.programs path _ scope present

theorem scope_at_enter (store : Store) (path : Path) : ((store.enter path).scopeAt? path).isSome := by
  cases path with
  | nil => rfl
  | cons name below => exact Forest.scope_at_enter store.programs _ (List.cons_ne_nil name below)

theorem read_chain (store : Store) (path : Path) (name : Text) :
    store.read? path name =
      (Path.chain path).findSome? fun place => (store.scopeAt? place).bind (·.values.get? name) := by
  rw [read?, Forest.nearest_chain]
  apply find_some_congr
  intro place member
  rw [scope_at_proper store place (Path.chain_proper path place member)]

theorem function_chain (store : Store) (path : Path) (name : Text) :
    store.function? path name =
      (Path.chain path).findSome? fun place => (store.scopeAt? place).bind (·.functions.get? name) := by
  rw [function?, Forest.nearest_chain]
  apply find_some_congr
  intro place member
  rw [scope_at_proper store place (Path.chain_proper path place member)]

theorem write_chain (store : Store) (path : Path) (name : Text) (value : Value) :
    store.write path name value = store.update (Scope.assign name value)
      (((Path.chain path).find? fun place =>
        (store.scopeAt? place).any (·.values.isBound name)).getD path) := by
  rw [write, Forest.holder_chain]
  congr 2
  refine List.find?_congr ?_
  intro place member
  rw [scope_at_proper store place (Path.chain_proper path place member)]

def bound? (store : Store) (path : Path) : Option (List Text × Bindings Text Block) :=
  (store.scopeAt? path).map fun scope => (scope.values.keys, scope.functions)

theorem assigned_here (store : Store) (place : Path) (name : Text) (value : Value)
    (present : (store.scopeAt? place).isSome) :
    ((store.update (Scope.assign name value) place).scopeAt? place).bind (·.values.get? name) =
      some value := by
  obtain ⟨scope, here⟩ := Option.isSome_iff_exists.mp present
  rw [scope_at_update, if_pos rfl, here]
  exact Bindings.get_put_same name value scope.values

theorem read_written (store : Store) (path : Path) (name : Text) (value : Value) (proper : path ≠ [])
    (present : (store.scopeAt? path).isSome) :
    (store.write path name value).read? path name = some value := by
  rw [read_chain, write_chain, List.findSome?_eq_some_iff]
  cases found : (Path.chain path).find? fun place =>
      (store.scopeAt? place).any (·.values.isBound name) with
  | none =>
      obtain ⟨front, label, rfl⟩ := (List.eq_nil_or_concat path).resolve_left proper
      rw [List.concat_eq_append] at present ⊢
      refine ⟨[], front ++ [label], Path.chain front, Path.chain_append front label, ?_, ?_⟩
      · exact assigned_here store (front ++ [label]) name value present
      · intro place member
        cases member
  | some home =>
      obtain ⟨holds, before, after, whole, unbound⟩ := List.find?_eq_some_iff_append.mp found
      have stored : (store.scopeAt? home).isSome := Option.isSome_of_any holds
      refine ⟨before, home, after, whole, assigned_here store home name value stored, ?_⟩
      intro place member
      have free := unbound place member
      have different : home ≠ place := by
        rintro rfl
        simp [holds] at free
      rw [Option.getD_some, scope_at_update, if_neg different]
      cases here : store.scopeAt? place with
      | none => rfl
      | some scope => simpa [here, Bindings.isBound] using free

theorem assign_keys (name : Text) (value : Value) (scope : Scope)
    (bound : scope.values.isBound name = true) :
    (scope.assign name value).values.keys = scope.values.keys := by
  have member : name ∈ scope.values.keys := (Bindings.get_present name scope.values).mp bound
  rw [Scope.assign, Bindings.keys_put, if_pos member]

theorem write_bound (store : Store) (path query : Path) (name : Text) (value : Value)
    (different : path ≠ query) : (store.write path name value).bound? query = store.bound? query := by
  rw [write_chain, bound?, bound?, scope_at_update]
  split
  · rename_i home
    cases found : (Path.chain path).find? fun place =>
        (store.scopeAt? place).any (·.values.isBound name) with
    | none =>
        rw [found] at home
        exact absurd home different
    | some place =>
        rw [found, Option.getD_some] at home
        have holds := List.find?_some found
        rw [home] at holds
        cases here : store.scopeAt? query with
        | none => rfl
        | some scope =>
            rw [here] at holds
            change some ((scope.assign name value).values.keys, scope.functions) =
              some (scope.values.keys, scope.functions)
            rw [assign_keys name value scope holds]
  · rfl

theorem define_bound (store : Store) (path query : Path) (name : Text) (body : Block)
    (different : path ≠ query) : (store.define path name body).bound? query = store.bound? query := by
  rw [define, bound?, bound?, scope_at_update, if_neg different]

theorem enter_bound (store : Store) (path query : Path) (present : (store.scopeAt? query).isSome) :
    (store.enter path).bound? query = store.bound? query := by
  obtain ⟨scope, here⟩ := Option.isSome_iff_exists.mp present
  rw [bound?, bound?, scope_at_enter_kept store path query scope here, here]

theorem bound_alike (before after : Store) (place : Path) (name : Text)
    (same : after.bound? place = before.bound? place) :
    ((after.scopeAt? place).bind (·.values.get? name)).isSome =
        ((before.scopeAt? place).bind (·.values.get? name)).isSome ∧
      (after.scopeAt? place).bind (·.functions.get? name) =
        (before.scopeAt? place).bind (·.functions.get? name) := by
  unfold bound? at same
  cases was : before.scopeAt? place with
  | none =>
      rw [was, Option.map_none, Option.map_eq_none_iff] at same
      rw [same]
      exact ⟨rfl, rfl⟩
  | some old =>
      rw [was, Option.map_some, Option.map_eq_some_iff] at same
      obtain ⟨scope, now, alike⟩ := same
      obtain ⟨keys, functions⟩ := Prod.mk.inj alike
      rw [now, Option.bind_some, Option.bind_some, Option.bind_some, Option.bind_some, functions,
        Bool.eq_iff_iff, Bindings.get_present, Bindings.get_present, keys]
      exact ⟨Iff.rfl, rfl⟩

theorem bound_visible (before after : Store) (path : Path) (name : Text)
    (same : ∀ place, place <+: path → after.bound? place = before.bound? place) :
    after.isDefined path name = before.isDefined path name ∧
      after.function? path name = before.function? path name := by
  have alike : ∀ place ∈ Path.chain path, _ := fun place member =>
    bound_alike before after place name (same place (Path.chain_prefix path place member))
  refine ⟨?_, ?_⟩
  · rw [isDefined, isDefined, read_chain, read_chain, Bool.eq_iff_iff, List.findSome?_isSome_iff,
      List.findSome?_isSome_iff]
    refine exists_congr fun place => and_congr_right fun member => ?_
    rw [(alike place member).1]
  · rw [function_chain, function_chain]
    exact find_some_congr fun place member => (alike place member).2

def Bodies (admitted : List Line → Prop) (store : Store) : Prop :=
  ∀ path scope name block, store.scopeAt? path = some scope → scope.functions.get? name = some block →
    admitted block.body

section

variable {admitted : List Line → Prop} {store : Store}

theorem bodies_empty (admitted : List Line → Prop) : Store.empty.Bodies admitted := by
  intro path scope name block found holds
  cases path with
  | nil =>
      cases found
      cases holds
  | cons label below => cases found

theorem bodies_update (path : Path) (change : Scope → Scope) (bodies : store.Bodies admitted)
    (kept : ∀ scope name block, (change scope).functions.get? name = some block →
      scope.functions.get? name = some block ∨ admitted block.body) :
    (store.update change path).Bodies admitted := by
  intro query scope name block found holds
  rw [scope_at_update] at found
  split at found
  · obtain ⟨old, was, rfl⟩ := Option.map_eq_some_iff.mp found
    rcases kept old name block holds with before | fresh
    · exact bodies query old name block was before
    · exact fresh
  · exact bodies query scope name block found holds

theorem bodies_write (path : Path) (name : Text) (value : Value) (bodies : store.Bodies admitted) :
    (store.write path name value).Bodies admitted :=
  bodies_update _ _ bodies fun _ _ _ holds => .inl holds

theorem bodies_define (path : Path) (name : Text) (body : Block) (bodies : store.Bodies admitted)
    (fresh : admitted body.body) : (store.define path name body).Bodies admitted := by
  apply bodies_update path _ bodies
  intro scope sought block holds
  by_cases same : name = sought
  · rw [Scope.define, same, Bindings.get_put_same] at holds
    cases holds
    exact .inr fresh
  · rw [Scope.define, Bindings.get_put_other name sought body _ same] at holds
    exact .inl holds

theorem bodies_enter (path : Path) (bodies : store.Bodies admitted) :
    (store.enter path).Bodies admitted := by
  intro query scope name block found holds
  cases query with
  | nil => exact bodies [] scope name block found holds
  | cons label below =>
      rcases Forest.scope_at_enter_new store.programs path _ scope found with old | rfl
      · exact bodies (label :: below) scope name block old holds
      · cases holds

theorem bodies_function (path : Path) (name : Text) (block : Block) (bodies : store.Bodies admitted)
    (found : store.function? path name = some block) : admitted block.body := by
  rw [function_chain] at found
  obtain ⟨place, _, holds⟩ := List.exists_of_findSome?_eq_some found
  obtain ⟨scope, here, binds⟩ := Option.bind_eq_some_iff.mp holds
  exact bodies place scope name block here binds

end

end Store
end BareBones
