import BareBones.Operand

set_option autoImplicit false

namespace BareBones

inductive Comparison where
  | eq
  | ne
  | lt
  | le
  | gt
  | ge
deriving DecidableEq, Repr

namespace Comparison

def spellings : List (Text × Comparison) := [
  ("not".toList, .ne), ("!=".toList, .ne), ("is".toList, .eq), ("==".toList, .eq),
  ("gt".toList, .gt), (">".toList, .gt), ("ge".toList, .ge), (">=".toList, .ge),
  ("lt".toList, .lt), ("<".toList, .lt), ("le".toList, .le), ("<=".toList, .le)]

def ofWord? (word : Text) : Option Comparison :=
  Bindings.get? word spellings

def ofIntegers (comparison : Comparison) (left right : Int) : Bool :=
  match comparison with
  | .eq => left == right
  | .ne => left != right
  | .lt => decide (left < right)
  | .le => decide (left ≤ right)
  | .gt => decide (right < left)
  | .ge => decide (right ≤ left)

def ofTexts? (comparison : Comparison) (left right : Text) : Option Bool :=
  match comparison with
  | .eq => some (left == right)
  | .ne => some (left != right)
  | _ => none

end Comparison

namespace Env

def orBreakdown {α : Type} : Except Breakdown α → Except Failure α
  | .ok a => .ok a
  | .error breakdown => .error (.breakdown breakdown)

def unknownComparison {α : Type} (word : Text) (left right : Value) : Except Failure α := do
  let leftText ← orBreakdown left.written
  let rightText ← orBreakdown right.written
  .error (.fault (.of (.unknownComparison word leftText rightText)))

def compareValues (word : Text) (left right : Value) : Except Failure Bool := do
  match ← orBreakdown left.integer?, ← orBreakdown right.integer? with
  | some a, some b =>
      match Comparison.ofWord? word with
      | some comparison => .ok (comparison.ofIntegers a b)
      | none => unknownComparison word left right
  | _, _ =>
      match (Comparison.ofWord? word).filter fun comparison => comparison == .eq || comparison == .ne with
      | some comparison =>
          let leftText ← orBreakdown left.written
          let rightText ← orBreakdown right.written
          .ok ((comparison.ofTexts? leftText rightText).getD false)
      | none => unknownComparison word left right

def compare (env : Env) (left word right : Text) : Except Failure Bool := do
  let leftValue ← env.resolve false left
  let rightValue ← env.resolve false right
  compareValues word leftValue rightValue

def predicateParts (predicate : Text) : Except Fault (Text × Text × Text) :=
  match predicate.words with
  | [left, word, right] => .ok (left, word, right)
  | _ => .error (.of (.badPredicate predicate))

def test (env : Env) (predicate : Text) : Except Failure Bool :=
  match predicateParts predicate with
  | .ok (left, word, right) => env.compare left word right
  | .error fault => .error (.fault fault)

end Env
end BareBones
