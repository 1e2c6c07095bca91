import BareBones.Bindings
import BareBones.Source.Block
import BareBones.Value

set_option autoImplicit false

namespace BareBones

abbrev Path := List Text

def Path.describe (path : Path) : Text :=
  Text.join "/".toList path

def Path.cited (path : Path) : Text :=
  let described := path.describe
  "Scope(".toList ++ Text.quoted (if described.isEmpty then "<root>".toList else described) ++
    ")".toList

abbrev Snapshot := Bindings Text Text

structure Scope where
  values : Bindings Text Value
  functions : Bindings Text Block
deriving DecidableEq, Repr

namespace Scope

def empty : Scope := ⟨[], []⟩

def assign (name : Text) (value : Value) (scope : Scope) : Scope :=
  { scope with values := scope.values.put name value }

def define (name : Text) (body : Block) (scope : Scope) : Scope :=
  { scope with functions := scope.functions.put name body }

def snapshot (scope : Scope) : Except Breakdown Snapshot :=
  scope.values.mapM fun (name, value) => value.summary.map (name, ·)

end Scope

inductive Forest where
  | nil
  | cons (label : Text) (scope : Scope) (inner rest : Forest)
deriving DecidableEq, Repr

namespace Forest

def nest : Path → Forest
  | [] => .nil
  | label :: below => .cons label .empty (nest below) .nil

def scopeAt? : Forest → Path → Option Scope
  | .nil, _ => none
  | .cons _ _ _ _, [] => none
  | .cons label scope inner rest, name :: below =>
      if name = label then
        if below.isEmpty then some scope else scopeAt? inner below
      else scopeAt? rest (name :: below)

def enter : Forest → Path → Forest
  | forest, [] => forest
  | .nil, path => nest path
  | .cons label scope inner rest, name :: below =>
      if name = label then .cons label scope (enter inner below) rest
      else .cons label scope inner (enter rest (name :: below))

def update (change : Scope → Scope) : Forest → Path → Forest
  | .nil, _ => .nil
  | .cons label scope inner rest, [] => .cons label scope inner rest
  | .cons label scope inner rest, name :: below =>
      if name = label then
        if below.isEmpty then .cons label (change scope) inner rest
        else .cons label scope (update change inner below) rest
      else .cons label scope inner (update change rest (name :: below))

def nearest? {α : Type} (pick : Scope → Option α) : Forest → Path → Option α
  | .nil, _ => none
  | .cons _ _ _ _, [] => none
  | .cons label scope inner rest, name :: below =>
      if name = label then nearest? pick inner below <|> pick scope
      else nearest? pick rest (name :: below)

def holder? (property : Scope → Bool) : Forest → Path → Option Path
  | .nil, _ => none
  | .cons _ _ _ _, [] => none
  | .cons label scope inner rest, name :: below =>
      if name = label then
        match holder? property inner below with
        | some path => some (name :: path)
        | none => if property scope then some [name] else none
      else holder? property rest (name :: below)

end Forest

structure OutlineRow where
  depth : Nat
  label : Text
  scope : Scope

def Forest.outline (depth : Nat) : Forest → List OutlineRow
  | .nil => []
  | .cons label scope inner rest =>
      ⟨depth, label, scope⟩ :: (inner.outline (depth + 1) ++ rest.outline depth)

-- Searches never reach the root, so that nothing bound there is ever seen.
structure Store where
  root : Scope
  programs : Forest
deriving DecidableEq, Repr

namespace Store

def empty : Store := ⟨.empty, .nil⟩

def scopeAt? (store : Store) (path : Path) : Option Scope :=
  if path.isEmpty then some store.root else store.programs.scopeAt? path

def enter (store : Store) (path : Path) : Store :=
  { store with programs := store.programs.enter path }

def update (change : Scope → Scope) (store : Store) (path : Path) : Store :=
  if path.isEmpty then { store with root := change store.root }
  else { store with programs := store.programs.update change path }

def read? (store : Store) (path : Path) (name : Text) : Option Value :=
  store.programs.nearest? (fun scope => scope.values.get? name) path

def isDefined (store : Store) (path : Path) (name : Text) : Bool :=
  (store.read? path name).isSome

def read (store : Store) (path : Path) (name : Text) : Except Fault Value :=
  match store.read? path name with
  | some value => .ok value
  | none => .error (.of (.undefined name))

-- Writes a variable where it is already bound, from the scope at `path` outwards, and
-- otherwise binds it in that scope.
def write (store : Store) (path : Path) (name : Text) (value : Value) : Store :=
  let home := store.programs.holder? (fun scope => scope.values.isBound name) path
  store.update (Scope.assign name value) (home.getD path)

def define (store : Store) (path : Path) (name : Text) (body : Block) : Store :=
  store.update (Scope.define name body) path

def function? (store : Store) (path : Path) (name : Text) : Option Block :=
  store.programs.nearest? (fun scope => scope.functions.get? name) path

def snapshot (store : Store) (path : Path) : Except Breakdown Snapshot :=
  ((store.scopeAt? path).getD .empty).snapshot

def outline (store : Store) : List OutlineRow :=
  ⟨0, [], store.root⟩ :: store.programs.outline 1

end Store
end BareBones
