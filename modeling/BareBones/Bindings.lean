
set_option autoImplicit false

namespace BareBones

abbrev Bindings (κ α : Type) := List (κ × α)

namespace Bindings

variable {κ α β : Type} [DecidableEq κ]

def get? (key : κ) : Bindings κ α → Option α
  | [] => none
  | (bound, value) :: rest => if bound = key then some value else get? key rest

def put (key : κ) (value : α) : Bindings κ α → Bindings κ α
  | [] => [(key, value)]
  | (bound, old) :: rest =>
      if bound = key then (bound, value) :: rest else (bound, old) :: put key value rest

def erase (key : κ) (bindings : Bindings κ α) : Bindings κ α :=
  bindings.filter (·.1 ≠ key)

def isBound (key : κ) (bindings : Bindings κ α) : Bool :=
  (get? key bindings).isSome

omit [DecidableEq κ] in
def keys (bindings : Bindings κ α) : List κ :=
  bindings.map (·.1)

theorem get_put_same (key : κ) (value : α) (bindings : Bindings κ α) :
    get? key (put key value bindings) = some value := by
  induction bindings with
  | nil => simp [put, get?]
  | cons binding rest ih =>
    by_cases same : binding.1 = key <;> simp [put, get?, same, ih]

theorem get_put_other (key query : κ) (value : α) (bindings : Bindings κ α)
    (different : key ≠ query) : get? query (put key value bindings) = get? query bindings := by
  induction bindings with
  | nil => simp [put, get?, different]
  | cons binding rest ih => grind [put, get?]

theorem get_erase_same (key : κ) (bindings : Bindings κ α) :
    get? key (erase key bindings) = none := by
  induction bindings with
  | nil => rfl
  | cons binding rest ih =>
    by_cases same : binding.1 = key
    · simpa [erase, same] using ih
    · simpa [erase, same, get?] using ih

theorem get_erase_other (key query : κ) (bindings : Bindings κ α) (different : key ≠ query) :
    get? query (erase key bindings) = get? query bindings := by
  induction bindings with
  | nil => rfl
  | cons binding rest ih =>
    by_cases same : binding.1 = key
    · simpa [erase, same, get?, different] using ih
    · simp only [erase, ne_eq, same, not_false_eq_true, decide_true, List.filter_cons_of_pos, get?]
      split
      · rfl
      · exact ih

theorem keys_put (key : κ) (value : α) (bindings : Bindings κ α) :
    keys (put key value bindings) =
      if key ∈ keys bindings then keys bindings else keys bindings ++ [key] := by
  induction bindings with
  | nil => rfl
  | cons binding rest ih =>
    by_cases same : binding.1 = key
    · simp [put, keys, same]
    · simp only [put, same, if_false, keys, List.map_cons, List.mem_cons] at ih ⊢
      grind

end Bindings
end BareBones
