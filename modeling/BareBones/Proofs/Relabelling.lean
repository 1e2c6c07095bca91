import BareBones.Proofs.Scoping
import BareBones.Proofs.Twins

set_option autoImplicit false

namespace BareBones

section

variable {α β γ δ : Type} {link : α → β → Prop} {meets : γ → δ → Prop}
  {items : List α} {others : List β}

theorem find_some_twin {first : α → Option γ} {second : β → Option δ}
    (twins : List.Forall₂ link items others)
    (each : ∀ a b, link a b → Option.Rel meets (first a) (second b)) :
    Option.Rel meets (items.findSome? first) (others.findSome? second) := by
  induction twins with
  | nil => exact .none
  | @cons a b _ _ both _ ih =>
      have here := each a b both
      rw [List.findSome?_cons, List.findSome?_cons]
      generalize first a = found, second b = counterpart at here
      cases here with
      | none => exact ih
      | some met => exact .some met

theorem find_twin {first : α → Bool} {second : β → Bool} (twins : List.Forall₂ link items others)
    (each : ∀ a b, link a b → first a = second b) :
    Option.Rel link (items.find? first) (others.find? second) := by
  induction twins with
  | nil => exact .none
  | @cons a b _ _ both _ ih =>
      rw [List.find?_cons, List.find?_cons, each a b both]
      cases second b with
      | true => exact .some both
      | false => exact ih

theorem mates_unique {mates : List β} (first : List.Forall₂ link items mates)
    (second : List.Forall₂ link items others)
    (unique : ∀ item ∈ items, ∀ mate other, link item mate → link item other → other = mate) :
    others = mates := by
  induction first generalizing others with
  | nil =>
      cases second
      rfl
  | cons both _ ih =>
      cases second with
      | cons beside further =>
          rw [unique _ List.mem_cons_self _ _ both beside,
            ih further fun item member => unique item (List.mem_cons_of_mem _ member)]

theorem rivals_unique {rivals : List α} (first : List.Forall₂ link items others)
    (second : List.Forall₂ link rivals others)
    (unique : ∀ item ∈ items, ∀ mate rival, link item mate → link rival mate → rival = item) :
    rivals = items := by
  induction first generalizing rivals with
  | nil =>
      cases second
      rfl
  | cons both _ ih =>
      cases second with
      | cons beside further =>
          rw [unique _ List.mem_cons_self _ _ both beside,
            ih further fun item member => unique item (List.mem_cons_of_mem _ member)]

end

variable {twin : Line → Line → Prop}

namespace Path

inductive Twin (twin : Line → Line → Prop) : Path → Path → Prop
  | under (program : Text) {one other : List Text} (labels : List.Forall₂ (Renames twin) one other) :
      Twin twin (program :: one) (program :: other)

theorem twin_append {one other : Path} {label counterpart : Text} (twins : one.Twin twin other)
    (labels : Renames twin label counterpart) :
    Path.Twin twin (one ++ [label]) (other ++ [counterpart]) := by
  cases twins with
  | under program above => exact .under program (List.rel_append above (.cons labels .nil))

theorem chain_labels {link : Text → Text → Prop} {one other : List Text}
    (labels : List.Forall₂ link one other) :
    List.Forall₂ (List.Forall₂ link) (Path.chain one) (Path.chain other) := by
  induction labels with
  | nil => exact .nil
  | cons both below ih =>
      have deeper := List.rel_map (fun _ _ rest => List.Forall₂.cons both rest) ih
      exact List.rel_append deeper (.cons (.cons both .nil) .nil)

theorem chain_twin {one other : Path} (twins : one.Twin twin other) :
    List.Forall₂ (Path.Twin twin) one.chain other.chain := by
  cases twins with
  | under program labels =>
      have deeper := List.rel_map (fun _ _ below => Path.Twin.under program below) (chain_labels labels)
      exact List.rel_append deeper (.cons (.under program .nil) .nil)

-- Every label of the path belongs to one label only, and is the only one that belongs to it.
def Sharp (twin : Line → Line → Prop) (path : Path) : Prop :=
  ∀ label ∈ path.tail, ∀ mate, Renames twin label mate →
    (∀ other, Renames twin label other → other = mate) ∧
      ∀ rival, Renames twin rival mate → rival = label

theorem sharp_mate {one other query counterpart : Path} (twins : one.Twin twin other)
    (beside : query.Twin twin counterpart) (sharp : one.Sharp twin) : one = query ↔ other = counterpart := by
  cases twins with
  | under program labels =>
      cases beside with
      | under beyond names =>
          constructor
          · rintro ⟨⟩
            rw [mates_unique labels names fun label member mate other link => (sharp label member mate link).1 other]
          · rintro ⟨⟩
            rw [rivals_unique labels names fun label member mate rival link =>
              (sharp label member mate link).2 rival]

end Path

structure Scope.Twin (twin : Line → Line → Prop) (one other : Scope) : Prop where
  values : ∀ name, one.values.get? name = other.values.get? name
  functions : ∀ name, Option.Rel (Block.Twin twin) (one.functions.get? name) (other.functions.get? name)

namespace Scope

variable {one other : Scope}

theorem Twin.binds (twins : one.Twin twin other) (name : Text) :
    one.values.isBound name = other.values.isBound name := by
  rw [Bindings.isBound, Bindings.isBound, twins.values]

theorem assign_twin (name : Text) (value : Value) (twins : one.Twin twin other) :
    (one.assign name value).Twin twin (other.assign name value) := by
  refine ⟨fun query => ?_, twins.functions⟩
  by_cases same : name = query
  · simp [assign, same, Bindings.get_put_same]
  · simp [assign, Bindings.get_put_other, same, twins.values query]

theorem define_twin (name : Text) {body counterpart : Block} (bodies : body.Twin twin counterpart)
    (twins : one.Twin twin other) : (one.define name body).Twin twin (other.define name counterpart) := by
  refine ⟨twins.values, fun query => ?_⟩
  by_cases same : name = query
  · simpa [define, same, Bindings.get_put_same] using Option.Rel.some bodies
  · simpa [define, Bindings.get_put_other, same] using twins.functions query

theorem assign_filled (name : Text) (value : Value) (scope : Scope) : scope.assign name value ≠ .empty := by
  intro bare
  have held := Bindings.get_put_same name value scope.values
  have none := congrArg (·.values.get? name) bare
  change (scope.values.put name value).get? name = _ at none
  rw [held] at none
  cases none

theorem define_filled (name : Text) (body : Block) (scope : Scope) : scope.define name body ≠ .empty := by
  intro bare
  have held := Bindings.get_put_same name body scope.functions
  have none := congrArg (·.functions.get? name) bare
  change (scope.functions.put name body).get? name = _ at none
  rw [held] at none
  cases none

end Scope

namespace Store

variable {one other : Store}

def scope (store : Store) (place : Path) : Scope :=
  (store.scopeAt? place).getD .empty

theorem scope_values (store : Store) (place : Path) (name : Text) :
    (store.scopeAt? place).bind (·.values.get? name) = (store.scope place).values.get? name := by
  unfold scope
  cases store.scopeAt? place <;> rfl

theorem scope_functions (store : Store) (place : Path) (name : Text) :
    (store.scopeAt? place).bind (·.functions.get? name) = (store.scope place).functions.get? name := by
  unfold scope
  cases store.scopeAt? place <;> rfl

theorem scope_binds (store : Store) (place : Path) (name : Text) :
    (store.scopeAt? place).any (·.values.isBound name) = (store.scope place).values.isBound name := by
  unfold scope
  cases store.scopeAt? place <;> rfl

theorem scope_enter (store : Store) (path place : Path) : (store.enter path).scope place = store.scope place := by
  unfold scope
  cases present : store.scopeAt? place with
  | some held => rw [scope_at_enter_kept store path place held present]
  | none =>
      cases place with
      | nil => cases present
      | cons label below =>
          cases found : (store.enter path).scopeAt? (label :: below) with
          | none => rfl
          | some fresh =>
              rcases Forest.scope_at_enter_new store.programs path _ fresh found with old | rfl
              · cases old.symm.trans present
              · rfl

theorem scope_update (change : Scope → Scope) (store : Store) (path place : Path)
    (present : (store.scopeAt? path).isSome) :
    (store.update change path).scope place =
      if path = place then change (store.scope place) else store.scope place := by
  obtain ⟨held, here⟩ := Option.isSome_iff_exists.mp present
  unfold scope
  rw [scope_at_update]
  split
  · rename_i same
    rw [← same, here]
    rfl
  · rfl

-- Whatever scopes hold, they hold something.
def Filled (before after : Store) : Prop :=
  ∀ place, before.scope place ≠ .empty → after.scope place ≠ .empty

theorem filled_update (change : Scope → Scope) (store : Store) (path : Path)
    (fills : ∀ scope, change scope ≠ .empty) : store.Filled (store.update change path) := by
  intro place filled
  unfold scope at filled ⊢
  rw [scope_at_update]
  split
  · cases here : store.scopeAt? place with
    | none =>
        rw [here] at filled
        exact absurd rfl filled
    | some held => exact fills held
  · exact filled

def Twin (twin : Line → Line → Prop) (one other : Store) : Prop :=
  ∀ place counterpart, Path.Twin twin place counterpart →
    (one.scope place).Twin twin (other.scope counterpart)

def Tidy (twin : Line → Line → Prop) (store : Store) : Prop :=
  ∀ place, store.scope place ≠ .empty → place.Sharp twin

theorem tidy_filled {before after : Store} (filled : before.Filled after) (tidy : after.Tidy twin) :
    before.Tidy twin :=
  fun place holds => tidy place (filled place holds)

theorem read_twin (twins : one.Twin twin other) {path counterpart : Path} (name : Text)
    (paths : path.Twin twin counterpart) : one.read? path name = other.read? counterpart name := by
  have found : Option.Rel Eq (one.read? path name) (other.read? counterpart name) := by
    rw [read_chain, read_chain]
    refine find_some_twin (Path.chain_twin paths) fun place mate both => ?_
    rw [scope_values, scope_values, (twins place mate both).values name]
    cases (other.scope mate).values.get? name with
    | none => exact .none
    | some value => exact .some rfl
  generalize one.read? path name = value, other.read? counterpart name = held at found
  cases found with
  | none => rfl
  | some same => rw [same]

theorem function_twin (twins : one.Twin twin other) {path counterpart : Path} (name : Text)
    (paths : path.Twin twin counterpart) :
    Option.Rel (Block.Twin twin) (one.function? path name) (other.function? counterpart name) := by
  rw [function_chain, function_chain]
  refine find_some_twin (Path.chain_twin paths) fun place mate both => ?_
  rw [scope_functions, scope_functions]
  exact (twins place mate both).functions name

theorem update_twin (twins : one.Twin twin other) {change alter : Scope → Scope} {path counterpart : Path}
    (paths : path.Twin twin counterpart) (present : (one.scopeAt? path).isSome)
    (beside : (other.scopeAt? counterpart).isSome) (tidy : (one.update change path).Tidy twin)
    (fills : ∀ scope, change scope ≠ .empty)
    (kept : ∀ scope mate, Scope.Twin twin scope mate → (change scope).Twin twin (alter mate)) :
    (one.update change path).Twin twin (other.update alter counterpart) := by
  have sharp : path.Sharp twin := by
    apply tidy path
    rw [scope_update change one path path present, if_pos rfl]
    exact fills _
  intro place mate both
  have same := Path.sharp_mate paths both sharp
  rw [scope_update change one path place present, scope_update alter other counterpart mate beside]
  by_cases here : path = place
  · rw [if_pos here, if_pos (same.mp here)]
    exact kept _ _ (twins place mate both)
  · rw [if_neg here, if_neg fun there => here (same.mpr there)]
    exact twins place mate both

theorem define_twin (twins : one.Twin twin other) {path counterpart : Path} (name : Text)
    {body mate : Block} (bodies : body.Twin twin mate) (paths : path.Twin twin counterpart)
    (present : (one.scopeAt? path).isSome) (beside : (other.scopeAt? counterpart).isSome)
    (tidy : (one.define path name body).Tidy twin) :
    (one.define path name body).Twin twin (other.define counterpart name mate) :=
  update_twin twins paths present beside tidy (Scope.define_filled name body)
    fun _ _ => Scope.define_twin name bodies

def home (store : Store) (path : Path) (name : Text) : Path :=
  (path.chain.find? fun place => (store.scopeAt? place).any (·.values.isBound name)).getD path

theorem home_present (store : Store) (path : Path) (name : Text) (present : (store.scopeAt? path).isSome) :
    (store.scopeAt? (store.home path name)).isSome := by
  unfold home
  cases found : path.chain.find? fun place => (store.scopeAt? place).any (·.values.isBound name) with
  | none => exact present
  | some place =>
      have binds := List.find?_some found
      exact Option.isSome_of_any binds

theorem home_twin (twins : one.Twin twin other) {path counterpart : Path} (name : Text)
    (paths : path.Twin twin counterpart) : (one.home path name).Twin twin (other.home counterpart name) := by
  have homes := find_twin (Path.chain_twin paths) fun place mate both =>
    (twins place mate both).binds name
  unfold home
  simp only [scope_binds]
  generalize path.chain.find? _ = found, counterpart.chain.find? _ = mate at homes
  cases homes with
  | none => exact paths
  | some both => exact both

theorem write_twin (twins : one.Twin twin other) {path counterpart : Path} (name : Text) (value : Value)
    (paths : path.Twin twin counterpart) (present : (one.scopeAt? path).isSome)
    (beside : (other.scopeAt? counterpart).isSome) (tidy : (one.write path name value).Tidy twin) :
    (one.write path name value).Twin twin (other.write counterpart name value) := by
  rw [write_chain] at tidy ⊢
  rw [write_chain]
  exact update_twin twins (home_twin twins name paths) (home_present one path name present)
    (home_present other counterpart name beside) tidy (Scope.assign_filled name value)
    fun _ _ => Scope.assign_twin name value

theorem enter_twin (twins : one.Twin twin other) (path counterpart : Path) :
    (one.enter path).Twin twin (other.enter counterpart) := by
  intro place mate both
  rw [scope_enter, scope_enter]
  exact twins place mate both

end Store

def Forest.filled : Forest → List Path
  | .nil => []
  | .cons label scope inner rest =>
      (if scope = .empty then [] else [[label]]) ++ (inner.filled.map (label :: ·) ++ rest.filled)

theorem Forest.scope_filled (forest : Forest) (path : Path) (scope : Scope)
    (found : forest.scopeAt? path = some scope) (holds : scope ≠ .empty) : path ∈ forest.filled := by
  induction forest generalizing path with
  | nil => cases found
  | cons label held inner rest ihInner ihRest =>
      cases path with
      | nil => cases found
      | cons name below =>
          rw [Forest.scopeAt?] at found
          rw [Forest.filled, List.mem_append, List.mem_append]
          split at found
          · rename_i same
            subst same
            split at found
            · rename_i last
              rw [List.isEmpty_iff.mp last]
              cases found
              rw [if_neg holds]
              exact Or.inl List.mem_cons_self
            · exact Or.inr (Or.inl (List.mem_map_of_mem (ihInner below found)))
          · exact Or.inr (Or.inr (ihRest _ found))

def Lone (names : List (Text × Text)) (label : Text) : Prop :=
  ∀ pair ∈ names, pair.1 = label → ∀ other ∈ names, other.1 = pair.1 ∨ other.2 = pair.2 → other = pair

instance (names : List (Text × Text)) (label : Text) : Decidable (Lone names label) :=
  inferInstanceAs (Decidable (∀ pair ∈ names, _))

def Store.Clear (names : List (Text × Text)) (store : Store) : Prop :=
  ∀ path ∈ store.programs.filled, ∀ label ∈ path.tail, Lone names label

instance (names : List (Text × Text)) (store : Store) : Decidable (store.Clear names) :=
  inferInstanceAs (Decidable (∀ path ∈ store.programs.filled, _))

theorem Store.tidy_clear {twin : Line → Line → Prop} {names : List (Text × Text)} {store : Store}
    (listed : ∀ label mate, Renames twin label mate → (label, mate) ∈ names) (clear : store.Clear names) :
    store.Tidy twin := by
  intro place holds label among mate pair
  have filled : place ∈ store.programs.filled := by
    cases place with
    | nil => cases among
    | cons name below =>
        unfold Store.scope at holds
        cases present : store.scopeAt? (name :: below) with
        | none =>
            rw [present] at holds
            exact absurd rfl holds
        | some scope =>
            rw [present] at holds
            exact store.programs.scope_filled (name :: below) scope present holds
  have lone := clear place filled label among (label, mate) (listed label mate pair) rfl
  constructor
  · intro other beside
    exact congrArg Prod.snd (lone (label, other) (listed label other beside) (Or.inl rfl))
  · intro rival beside
    exact congrArg Prod.fst (lone (rival, mate) (listed rival mate beside) (Or.inr rfl))

end BareBones
