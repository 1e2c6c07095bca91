import BareBones.Store

set_option autoImplicit false

namespace BareBones

inductive Operator where
  | add
  | sub
  | mul
  | div
  | mod
deriving DecidableEq, Repr

namespace Operator

def symbol : Operator → Char
  | .add => '+'
  | .sub => '-'
  | .mul => '*'
  | .div => '/'
  | .mod => '%'

def all : List Operator := [.add, .sub, .mul, .div, .mod]

def apply (operator : Operator) (left right : Int) : Except Failure Int :=
  match operator with
  | .add => .ok (left + right)
  | .sub => .ok (left - right)
  | .mul => .ok (left * right)
  | .div => if right = 0 then zeroDivisor Cause.zeroDivisor else .ok (left.tdiv right)
  | .mod => if right = 0 then zeroDivisor Cause.zeroModulus else .ok (left.tmod right)
where
  zeroDivisor (cause : Text → Text → Cause) : Except Failure Int :=
    match Numeral.write left with
    | .ok written => .error (.fault (.of (cause written (Text.ofInt right))))
    | .error breakdown => .error (.breakdown breakdown)

end Operator

structure Env where
  store : Store
  path : Path
  arguments : List Text

namespace Env

-- The argument that a token asks for by its number, which follows the first character. Number zero is the
-- path of the invocation; a number past the arguments gives the empty text.
def argumentAt (env : Env) (token : Text) : Except Breakdown Text :=
  (Numeral.readIndex? token.tail).map fun
    | none => []
    | some 0 => env.path.describe
    | some (index + 1) => env.arguments.getD index []

def fields? (symbol : Char) (token : Text) : Option (Text × Text) :=
  match Text.cutAt symbol token with
  | (_, []) => none
  | (left, _ :: others) => some (left, (Text.cutAt symbol others).1)

def operation? (token : Text) : List Operator → Option (Operator × Text × Text)
  | [] => none
  | operator :: others =>
      match fields? operator.symbol token with
      | some (left, right) => some (operator, left, right)
      | none => operation? token others

def isIdentifier (token : Text) : Bool :=
  let name := if token.getLast? == some '\n' then token.dropLast else token
  match name with
  | [] => false
  | c :: rest => (c.isAlpha || c == '_') && rest.all fun d => d.isAlphanum || d == '_'

theorem fields_shorter (symbol : Char) (token left right : Text)
    (found : fields? symbol token = some (left, right)) :
    left.length < token.length ∧ right.length < token.length := by
  have whole := Text.cutAt_append symbol token
  unfold fields? at found
  split at found
  · simp at found
  · rename_i front mark others cut
    simp only [Option.some.injEq, Prod.mk.injEq] at found
    obtain ⟨rfl, rfl⟩ := found
    rw [cut] at whole
    have inner : (Text.cutAt symbol others).1.length ≤ others.length :=
      (List.takeWhile_sublist _).length_le
    have total := congrArg List.length whole
    simp only [List.length_append, List.length_cons] at total
    omega

theorem operation_shorter (token : Text) (operators : List Operator) (operator : Operator)
    (left right : Text) (found : operation? token operators = some (operator, left, right)) :
    left.length < token.length ∧ right.length < token.length := by
  induction operators with
  | nil => simp [operation?] at found
  | cons first others ih =>
    unfold operation? at found
    split at found
    · rename_i cut
      simp only [Option.some.injEq, Prod.mk.injEq] at found
      obtain ⟨_, rfl, rfl⟩ := found
      exact fields_shorter _ _ _ _ cut
    · exact ih found

def literal (strict : Bool) (token : Text) : Except Failure Value :=
  if strict && isIdentifier token then .error (.fault (.of (.undefined token)))
  else
    match Numeral.read? token with
    | .ok (some n) => .ok (.int n)
    | .ok none => .ok (.text token)
    | .error breakdown => .error (.breakdown breakdown)

def integerOf (operator : Operator) (token : Text) (value : Value) : Except Failure Int :=
  if value = .text [] then .ok 0
  else
    match value.integer? with
    | .ok (some n) => .ok n
    | .ok none =>
        match value.written with
        | .ok written => .error (.fault (.of (.nonInteger [operator.symbol] token written)))
        | .error breakdown => .error (.breakdown breakdown)
    | .error breakdown => .error (.breakdown breakdown)

set_option linter.unusedVariables false in
-- The value of an operand. A bound name comes before an operation, so that a variable whose name holds an
-- operator can be read; an empty field of an operation is zero.
def resolve (env : Env) (strict : Bool) (token : Text) : Except Failure Value :=
  if token.head? = some '#' then
    match env.argumentAt token with
    | .ok text => .ok (.text text)
    | .error breakdown => .error (.breakdown breakdown)
  else
    match env.store.read? env.path token with
    | some value => .ok value
    | none =>
        match found : operation? token Operator.all with
        | none => literal strict token
        -- The left field is evaluated to an integer before the right one is looked at.
        | some (operator, left, right) => do
            let leftValue ← if left = [] then .ok (.int 0) else env.resolve strict left
            let leftInteger ← integerOf operator token leftValue
            let rightValue ← if right = [] then .ok (.int 0) else env.resolve strict right
            let rightInteger ← integerOf operator token rightValue
            return .int (← operator.apply leftInteger rightInteger)
termination_by token.length
decreasing_by
  · exact (operation_shorter _ _ _ _ _ found).2
  · exact (operation_shorter _ _ _ _ _ found).1

end Env
end BareBones
