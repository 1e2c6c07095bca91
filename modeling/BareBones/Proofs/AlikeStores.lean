import BareBones.Proofs.Decimal
import BareBones.Proofs.Deed
import BareBones.Proofs.Lockstep
import Mathlib.Data.List.Forall2

set_option autoImplicit false

namespace BareBones

namespace Value

inductive Equivalent : Value → Value → Prop
  | same (value : Value) : Equivalent value value
  | written (n : Int) (short : Numeral.isWritable n = true) : Equivalent (.int n) (.text (Text.ofInt n))
  | read (n : Int) (short : Numeral.isWritable n = true) : Equivalent (.text (Text.ofInt n)) (.int n)

variable {one other : Value}

theorem equivalent_interchangeable (equivalent : one.Equivalent other) : one.Interchangeable other := by
  cases equivalent with
  | same value => exact ⟨rfl, rfl⟩
  | written n short =>
      refine ⟨(Numeral.read_of_int n short).symm, ?_⟩
      rw [Value.written, Numeral.write_short short]
      rfl
  | read n short =>
      refine ⟨Numeral.read_of_int n short, ?_⟩
      rw [Value.written, Value.written, Numeral.write_short short]

theorem equivalent_empty (equivalent : one.Equivalent other) : one = .text [] ↔ other = .text [] := by
  have proper : ∀ n : Int, Value.text (Text.ofInt n) ≠ .text [] := by
    intro n same
    exact Text.of_int_proper n (Value.text.inj same)
  cases equivalent with
  | same value => exact Iff.rfl
  | written n short => exact ⟨fun same => (Value.noConfusion same), fun same => absurd same (proper n)⟩
  | read n short => exact ⟨fun same => absurd same (proper n), fun same => (Value.noConfusion same)⟩

end Value

namespace Bindings

variable {κ α : Type} [DecidableEq κ] {rel : α → α → Prop} {one other : Bindings κ α}

def Alike (rel : α → α → Prop) : Bindings κ α → Bindings κ α → Prop :=
  List.Forall₂ fun first second => first.1 = second.1 ∧ rel first.2 second.2

theorem get_alike (alike : Alike rel one other) (key : κ) :
    Option.Rel rel (one.get? key) (other.get? key) := by
  induction alike with
  | nil => exact .none
  | @cons first second _ _ both _ ih =>
      obtain ⟨keys, values⟩ := both
      rw [get?, get?, ← keys]
      split
      · exact .some values
      · exact ih

theorem bound_alike (alike : Alike rel one other) (key : κ) : one.isBound key = other.isBound key := by
  have found := get_alike alike key
  unfold isBound
  generalize one.get? key = first, other.get? key = second at found
  cases found <;> rfl

theorem put_alike (alike : Alike rel one other) (key : κ) (value held : α) (values : rel value held) :
    Alike rel (one.put key value) (other.put key held) := by
  induction alike with
  | nil => exact .cons ⟨rfl, values⟩ .nil
  | @cons first second _ _ both rest ih =>
      obtain ⟨keys, old⟩ := both
      rw [put, put, ← keys]
      split
      · exact .cons ⟨rfl, values⟩ rest
      · exact .cons ⟨rfl, old⟩ ih

end Bindings

namespace Scope

structure Alike (one other : Scope) : Prop where
  values : one.values.Alike Value.Equivalent other.values
  functions : one.functions = other.functions

variable {one other : Scope}

theorem alike_self (scope : Scope) : scope.Alike scope :=
  ⟨List.forall₂_same.mpr fun _ _ => ⟨rfl, .same _⟩, rfl⟩

theorem assign_alike (name : Text) {value held : Value} (values : value.Equivalent held)
    (alike : one.Alike other) : (one.assign name value).Alike (other.assign name held) :=
  ⟨Bindings.put_alike alike.values name value held values, alike.functions⟩

theorem define_alike (name : Text) (body : Block) (alike : one.Alike other) :
    (one.define name body).Alike (other.define name body) :=
  ⟨alike.values, congrArg (Bindings.put name body) alike.functions⟩

end Scope

namespace Forest

inductive Alike : Forest → Forest → Prop
  | nil : Alike .nil .nil
  | cons {label : Text} {scope counterpart : Scope} {inner within rest beside : Forest}
      (scopes : scope.Alike counterpart) (below : Alike inner within) (others : Alike rest beside) :
      Alike (.cons label scope inner rest) (.cons label counterpart within beside)

variable {one other : Forest}

theorem alike_self (forest : Forest) : forest.Alike forest := by
  induction forest with
  | nil => exact .nil
  | cons label scope inner rest ihInner ihRest => exact .cons (Scope.alike_self scope) ihInner ihRest

theorem nearest_alike {α : Type} {rel : α → α → Prop} {pick : Scope → Option α}
    (picks : ∀ scope counterpart, scope.Alike counterpart → Option.Rel rel (pick scope) (pick counterpart))
    (alike : one.Alike other) (path : Path) :
    Option.Rel rel (one.nearest? pick path) (other.nearest? pick path) := by
  induction alike generalizing path with
  | nil => exact .none
  | @cons label scope counterpart inner within rest beside scopes _ _ ihBelow ihOthers =>
      cases path with
      | nil => exact .none
      | cons name below =>
          rw [nearest?, nearest?]
          split
          · have deeper := ihBelow below
            generalize nearest? pick inner below = first, nearest? pick within below = second at deeper
            cases deeper with
            | some found => exact .some found
            | none => exact picks scope counterpart scopes
          · exact ihOthers (name :: below)

theorem holder_alike {property : Scope → Bool}
    (kept : ∀ scope counterpart, scope.Alike counterpart → property scope = property counterpart)
    (alike : one.Alike other) (path : Path) : one.holder? property path = other.holder? property path := by
  induction alike generalizing path with
  | nil => rfl
  | @cons label scope counterpart inner within rest beside scopes _ _ ihBelow ihOthers =>
      cases path with
      | nil => rfl
      | cons name below =>
          rw [holder?, holder?, ihBelow below, kept scope counterpart scopes, ihOthers (name :: below)]

theorem update_alike {change alter : Scope → Scope}
    (kept : ∀ scope counterpart, scope.Alike counterpart → (change scope).Alike (alter counterpart))
    (alike : one.Alike other) (path : Path) : (one.update change path).Alike (other.update alter path) := by
  induction alike generalizing path with
  | nil => exact .nil
  | @cons label scope counterpart inner within rest beside scopes below others ihBelow ihOthers =>
      cases path with
      | nil => exact .cons scopes below others
      | cons name deeper =>
          rw [update, update]
          split
          · split
            · exact .cons (kept scope counterpart scopes) below others
            · exact .cons scopes (ihBelow deeper) others
          · exact .cons scopes below (ihOthers (name :: deeper))

theorem enter_alike (alike : one.Alike other) (path : Path) : (one.enter path).Alike (other.enter path) := by
  induction alike generalizing path with
  | nil => exact alike_self _
  | @cons label scope counterpart inner within rest beside scopes below others ihBelow ihOthers =>
      cases path with
      | nil => exact .cons scopes below others
      | cons name deeper =>
          rw [enter, enter]
          split
          · exact .cons scopes (ihBelow deeper) others
          · exact .cons scopes below (ihOthers (name :: deeper))

end Forest

namespace Store

structure Alike (one other : Store) : Prop where
  root : one.root.Alike other.root
  programs : one.programs.Alike other.programs

variable {one other : Store}

theorem alike_self (store : Store) : store.Alike store :=
  ⟨Scope.alike_self store.root, Forest.alike_self store.programs⟩

theorem read_alike (alike : one.Alike other) (path : Path) (name : Text) :
    Option.Rel Value.Equivalent (one.read? path name) (other.read? path name) :=
  Forest.nearest_alike (fun _ _ scopes => Bindings.get_alike scopes.values name) alike.programs path

theorem function_alike (alike : one.Alike other) (path : Path) (name : Text) :
    one.function? path name = other.function? path name := by
  have picks : ∀ scope counterpart : Scope, scope.Alike counterpart →
      Option.Rel Eq (scope.functions.get? name) (counterpart.functions.get? name) := by
    intro scope counterpart scopes
    rw [scopes.functions]
    cases counterpart.functions.get? name with
    | none => exact .none
    | some block => exact .some rfl
  have found := Forest.nearest_alike picks alike.programs path
  unfold function?
  generalize one.programs.nearest? _ path = first, other.programs.nearest? _ path = second at found
  cases found with
  | none => rfl
  | some same => rw [same]

theorem update_alike {change alter : Scope → Scope}
    (kept : ∀ scope counterpart, scope.Alike counterpart → (change scope).Alike (alter counterpart))
    (alike : one.Alike other) (path : Path) : (one.update change path).Alike (other.update alter path) := by
  unfold update
  split
  · exact ⟨kept _ _ alike.root, alike.programs⟩
  · exact ⟨alike.root, Forest.update_alike kept alike.programs path⟩

theorem write_alike (alike : one.Alike other) (path : Path) (name : Text) {value held : Value}
    (values : value.Equivalent held) : (one.write path name value).Alike (other.write path name held) := by
  unfold write
  rw [Forest.holder_alike (fun _ _ scopes => Bindings.bound_alike scopes.values name) alike.programs path]
  exact update_alike (fun _ _ => Scope.assign_alike name values) alike _

theorem define_alike (alike : one.Alike other) (path : Path) (name : Text) (body : Block) :
    (one.define path name body).Alike (other.define path name body) :=
  update_alike (fun _ _ => Scope.define_alike name body) alike path

theorem enter_alike (alike : one.Alike other) (path : Path) : (one.enter path).Alike (other.enter path) :=
  ⟨alike.root, Forest.enter_alike alike.programs path⟩

end Store

inductive Fares {α β : Type} (agree : α → β → Prop) : Except Failure α → Except Failure β → Prop
  | answered {a : α} {b : β} (agrees : agree a b) : Fares agree (.ok a) (.ok b)
  | failed (failure : Failure) : Fares agree (.error failure) (.error failure)

section

variable {α β γ δ : Type} {agree : α → β → Prop} {meets : γ → δ → Prop}

theorem fares_same (result : Except Failure α) : Fares Eq result result := by
  cases result with
  | ok a => exact .answered rfl
  | error failure => exact .failed failure

theorem fares_eq {one other : Except Failure α} (fares : Fares Eq one other) : one = other := by
  cases fares with
  | answered agrees => rw [agrees]
  | failed failure => rfl

theorem fares_bind {one : Except Failure α} {other : Except Failure β} {next : α → Except Failure γ}
    {after : β → Except Failure δ} (first : Fares agree one other)
    (later : ∀ a b, agree a b → Fares meets (next a) (after b)) :
    Fares meets (one >>= next) (other >>= after) := by
  cases first with
  | answered agrees => exact later _ _ agrees
  | failed failure => exact .failed failure

theorem fares_choice {condition : Prop} [Decidable condition] {one first : Except Failure α}
    {other second : Except Failure β} {next : α → Except Failure γ} {after : β → Except Failure δ}
    (chosen : Fares agree one other) (otherwise : Fares agree first second)
    (later : ∀ a b, agree a b → Fares meets (next a) (after b)) :
    Fares meets (if condition then one >>= next else first >>= next)
      (if condition then other >>= after else second >>= after) := by
  split
  · exact fares_bind chosen later
  · exact fares_bind otherwise later

end

namespace Env

variable {one other : Env}

structure Alike (one other : Env) : Prop where
  store : one.store.Alike other.store
  path : one.path = other.path
  arguments : one.arguments = other.arguments

theorem argument_alike (alike : one.Alike other) (token : Text) :
    one.argumentAt token = other.argumentAt token := by
  unfold argumentAt
  rw [alike.path, alike.arguments]

theorem integer_alike (operator : Operator) (token : Text) {value held : Value}
    (equivalent : value.Equivalent held) :
    integerOf operator token value = integerOf operator token held := by
  obtain ⟨integer, written⟩ := Value.equivalent_interchangeable equivalent
  have empty := Value.equivalent_empty equivalent
  unfold integerOf
  rw [integer, written]
  simp only [empty]

theorem resolve_alike (alike : one.Alike other) (strict : Bool) (token : Text) :
    Fares Value.Equivalent (one.resolve strict token) (other.resolve strict token) := by
  have zero : Fares Value.Equivalent (.ok (.int 0)) (.ok (.int 0)) := .answered (.same _)
  have plain : ∀ result : Except Failure Value, Fares Value.Equivalent result result := by
    intro result
    cases result with
    | ok value => exact .answered (.same value)
    | error failure => exact .failed failure
  rw [resolve, resolve]
  by_cases positional : token.head? = some '#'
  · rw [if_pos positional, if_pos positional, argument_alike alike token]
    exact plain _
  · rw [if_neg positional, if_neg positional]
    have bound := Store.read_alike alike.store one.path token
    rw [← alike.path]
    generalize one.store.read? one.path token = first, other.store.read? one.path token = second at bound
    cases bound with
    | some equivalent => exact .answered equivalent
    | none =>
        dsimp only
        split
        · exact plain _
        · rename_i operator left right found
          have shorter := operation_shorter token Operator.all operator left right found
          have number : ∀ value held, Value.Equivalent value held → Fares Eq
              (integerOf operator token value) (integerOf operator token held) := by
            intro value held equivalent
            rw [integer_alike operator token equivalent]
            exact fares_same _
          refine fares_choice zero (resolve_alike alike strict left) fun value held equivalent => ?_
          refine fares_bind (number value held equivalent) ?_
          rintro leftInteger _ rfl
          refine fares_choice zero (resolve_alike alike strict right) fun value held equivalent => ?_
          refine fares_bind (number value held equivalent) ?_
          rintro rightInteger _ rfl
          exact plain _
termination_by token.length

theorem compare_values_alike (word : Text) {left leftHeld right rightHeld : Value}
    (first : left.Interchangeable leftHeld) (second : right.Interchangeable rightHeld) :
    compareValues word left right = compareValues word leftHeld rightHeld := by
  unfold compareValues unknownComparison
  rw [first.1, first.2, second.1, second.2]

theorem test_alike (alike : one.Alike other) (predicate : Text) :
    one.test predicate = other.test predicate := by
  unfold test
  cases predicateParts predicate with
  | error fault => rfl
  | ok parts =>
      obtain ⟨left, word, right⟩ := parts
      apply fares_eq
      refine fares_bind (resolve_alike alike false left) fun leftValue leftHeld first => ?_
      refine fares_bind (resolve_alike alike false right) fun rightValue rightHeld second => ?_
      rw [compare_values_alike word (Value.equivalent_interchangeable first)
        (Value.equivalent_interchangeable second)]
      exact fares_same _

theorem span_alike (alike : one.Alike other) (token : Text) : one.span token = other.span token := by
  apply fares_eq
  refine fares_bind (resolve_alike alike true token) fun value held equivalent => ?_
  rw [(Value.equivalent_interchangeable equivalent).2]
  exact fares_same _

theorem expand_from_alike (alike : one.Alike other) (state : FormatState) (format : Text) :
    one.expandFrom state format = other.expandFrom state format := by
  induction format generalizing state with
  | nil => cases state <;> rfl
  | cons c rest ih => cases state <;> simp only [expandFrom, ih, span_alike alike]

theorem value_alike (alike : one.Alike other) (name : Text) :
    Fares Value.Interchangeable (one.value name) (other.value name) := by
  have bound := Store.read_alike alike.store one.path name
  unfold value Store.read
  rw [← alike.path]
  generalize one.store.read? one.path name = first, other.store.read? one.path name = second at bound
  cases bound with
  | some equivalent => exact .answered (Value.equivalent_interchangeable equivalent)
  | none => exact .failed _

end Env
end BareBones
