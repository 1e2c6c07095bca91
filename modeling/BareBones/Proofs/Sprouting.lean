import BareBones.Proofs.Scoping

set_option autoImplicit false

namespace BareBones

namespace Forest

theorem enter_present (forest : Forest) (path : Path) (present : (forest.scopeAt? path).isSome) :
    forest.enter path = forest := by
  induction forest generalizing path with
  | nil => cases present
  | cons label scope inner rest ihInner ihRest =>
      cases path with
      | nil => rfl
      | cons name below =>
          rw [enter]
          by_cases same : name = label
          · subst name
            rw [if_pos rfl]
            by_cases last : below = []
            · rw [last]
              cases inner <;> rfl
            · rw [scope_at_below below last] at present
              rw [ihInner below present]
          · rw [scope_at_beside below same] at present
            rw [if_neg same, ihRest (name :: below) present]

structure Vacant (label : Text) (forest : Forest) (parent : Path) : Prop where
  stands : parent = [] ∨ (forest.scopeAt? parent).isSome
  fresh : forest.scopeAt? (parent ++ [label]) = none

section

variable {label here name : Text} {scope : Scope} {inner rest : Forest} {below : Path}

theorem vacant_first (vacant : Vacant label (.cons here scope inner rest) []) :
    label ≠ here ∧ Vacant label rest [] := by
  have fresh := vacant.fresh
  have apart : label ≠ here := by
    rintro rfl
    rw [List.nil_append, scope_at_here] at fresh
    cases fresh
  rw [List.nil_append, scope_at_beside [] apart] at fresh
  exact ⟨apart, .inl rfl, fresh⟩

theorem vacant_below (vacant : Vacant label (.cons here scope inner rest) (here :: below)) :
    Vacant label inner below := by
  have proper : below ++ [label] ≠ [] := List.append_ne_nil_of_right_ne_nil _ (by simp)
  obtain ⟨stands, fresh⟩ := vacant
  rw [List.cons_append, scope_at_below _ proper] at fresh
  refine ⟨?_, fresh⟩
  by_cases last : below = []
  · exact .inl last
  · rw [scope_at_below below last] at stands
    exact .inr (stands.resolve_left (List.cons_ne_nil _ _))

theorem vacant_beside (apart : name ≠ here)
    (vacant : Vacant label (.cons here scope inner rest) (name :: below)) :
    Vacant label rest (name :: below) := by
  obtain ⟨stands, fresh⟩ := vacant
  rw [List.cons_append, scope_at_beside _ apart] at fresh
  rw [scope_at_beside _ apart] at stands
  exact ⟨.inr (stands.resolve_left (List.cons_ne_nil _ _)), fresh⟩

end

theorem scope_at_sprout (label : Text) (forest : Forest) (parent query : Path)
    (vacant : Vacant label forest parent) :
    (forest.enter (parent ++ [label])).scopeAt? query =
      if query = parent ++ [label] then some .empty else forest.scopeAt? query := by
  induction forest generalizing parent query with
  | nil =>
      rcases vacant.stands with rfl | impossible
      · cases query with
        | nil => rfl
        | cons sought deeper =>
            by_cases same : sought = label
            · by_cases ends : deeper = []
              · simp [enter, nest, scopeAt?, same, ends]
              · simp [enter, nest, scopeAt?, same, ends]
            · simp [enter, nest, scopeAt?, same]
      · cases impossible
  | cons here scope inner rest ihInner ihRest =>
      cases query with
      | nil =>
          rw [scope_at_root, scope_at_root, if_neg]
          simp
      | cons sought deeper =>
          cases parent with
          | nil =>
              obtain ⟨apart, room⟩ := vacant_first vacant
              have grown := ihRest [] (sought :: deeper) room
              by_cases met : sought = here
              · simp [enter, scopeAt?, apart, met, Ne.symm apart]
              · simpa [enter, scopeAt?, apart, met] using grown
          | cons name below =>
              by_cases same : name = here
              · subst name
                have grown := ihInner below deeper (vacant_below vacant)
                by_cases met : sought = here
                · by_cases ends : deeper = []
                  · simp [enter, scopeAt?, met, ends]
                  · simpa [enter, scopeAt?, met, ends] using grown
                · simp [enter, scopeAt?, met]
              · have grown := ihRest (name :: below) (sought :: deeper) (vacant_beside same vacant)
                by_cases met : sought = here
                · simp [enter, scopeAt?, same, met, Ne.symm same]
                · simpa [enter, scopeAt?, same, met] using grown

theorem outline_first (forest : Forest) (depth : Nat) :
    ∀ row ∈ (forest.outline depth).head?, row.depth = depth := by
  cases forest with
  | nil => simp [outline]
  | cons label scope inner rest => simp [outline]

theorem outline_sprout (label : Text) (forest : Forest) (parent : Path) (depth : Nat)
    (vacant : Vacant label forest parent) :
    ∃ above below, forest.outline depth = above ++ below ∧
      (forest.enter (parent ++ [label])).outline depth =
        above ++ ⟨depth + parent.length, label, .empty⟩ :: below ∧
      ∀ row ∈ below.head?, row.depth ≤ depth + parent.length := by
  induction forest generalizing parent depth with
  | nil =>
      rcases vacant.stands with rfl | impossible
      · exact ⟨[], [], rfl, rfl, by simp⟩
      · cases impossible
  | cons here scope inner rest ihInner ihRest =>
      cases parent with
      | nil =>
          obtain ⟨apart, room⟩ := vacant_first vacant
          obtain ⟨above, below, before, after, shallow⟩ := ihRest [] depth room
          refine ⟨⟨depth, here, scope⟩ :: (inner.outline (depth + 1) ++ above), below, ?_, ?_, shallow⟩
          · simp [outline, before]
          · rw [List.nil_append, enter, if_neg apart]
            simpa [outline] using after
      | cons name lower =>
          by_cases same : name = here
          · subst name
            obtain ⟨above, below, before, after, shallow⟩ :=
              ihInner lower (depth + 1) (vacant_below vacant)
            refine ⟨⟨depth, here, scope⟩ :: above, below ++ rest.outline depth, ?_, ?_, ?_⟩
            · simp [outline, before]
            · rw [List.cons_append, enter, if_pos rfl, outline, after]
              simp [Nat.add_comm, Nat.add_left_comm]
            · cases below with
              | nil =>
                  intro row first
                  rw [outline_first rest depth row first]
                  exact Nat.le_add_right _ _
              | cons top others =>
                  rintro row ⟨⟩
                  have bound := shallow top rfl
                  simp only [List.length_cons]
                  omega
          · obtain ⟨above, below, before, after, shallow⟩ :=
              ihRest (name :: lower) depth (vacant_beside same vacant)
            refine ⟨⟨depth, here, scope⟩ :: (inner.outline (depth + 1) ++ above), below, ?_, ?_, shallow⟩
            · simp [outline, before]
            · rw [List.cons_append, enter, if_neg same]
              simpa [outline] using after

end Forest

namespace Store

structure Sprouts (parent : Path) (label : Text) (before after : Store) : Prop where
  stands : (before.scopeAt? parent).isSome
  fresh : before.scopeAt? (parent ++ [label]) = none
  scopes : ∀ place, after.scopeAt? place =
    if place = parent ++ [label] then some .empty else before.scopeAt? place
  rows : ∃ above below, before.outline = above ++ below ∧
    after.outline = above ++ ⟨parent.length + 1, label, .empty⟩ :: below ∧
    ∀ row ∈ below.head?, row.depth ≤ parent.length + 1

theorem enter_sprouts (store : Store) (parent : Path) (label : Text)
    (stands : (store.scopeAt? parent).isSome) :
    store.enter (parent ++ [label]) = store ∨
      Sprouts parent label store (store.enter (parent ++ [label])) := by
  have proper : parent ++ [label] ≠ [] := List.append_ne_nil_of_right_ne_nil _ (by simp)
  cases found : store.scopeAt? (parent ++ [label]) with
  | some scope =>
      rw [scope_at_proper store _ proper] at found
      left
      unfold enter
      rw [Forest.enter_present store.programs _ (Option.isSome_of_eq_some found)]
  | none =>
      right
      have vacant : Forest.Vacant label store.programs parent := by
        rw [scope_at_proper store _ proper] at found
        refine ⟨?_, found⟩
        by_cases root : parent = []
        · exact .inl root
        · rw [scope_at_proper store parent root] at stands
          exact .inr stands
      refine ⟨stands, found, ?_, ?_⟩
      · intro place
        by_cases root : place = []
        · rw [root, if_neg (Ne.symm proper)]
          rfl
        · rw [scope_at_proper _ place root, scope_at_proper _ place root]
          exact Forest.scope_at_sprout label store.programs parent place vacant
      · obtain ⟨above, below, before, after, shallow⟩ :=
          Forest.outline_sprout label store.programs parent 1 vacant
        rw [Nat.add_comm] at after shallow
        refine ⟨⟨0, [], store.root⟩ :: above, below, ?_, ?_, shallow⟩
        · rw [outline, before, List.cons_append]
        · rw [outline, List.cons_append, ← after]
          rfl

theorem sprouts_kept {parent place : Path} {label : Text} {before after : Store} {scope : Scope}
    (sprouts : Sprouts parent label before after) (present : before.scopeAt? place = some scope) :
    after.scopeAt? place = some scope := by
  rw [sprouts.scopes, if_neg, present]
  rintro rfl
  rw [sprouts.fresh] at present
  cases present

end Store

end BareBones
