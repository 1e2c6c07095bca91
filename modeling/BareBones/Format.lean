import BareBones.Predicate

set_option autoImplicit false

namespace BareBones.Env

def openBrace : Char := '\x7b'
def closeBrace : Char := '\x7d'

inductive FormatState where
  | plain
  | escaped
  | operand (characters : Text)
deriving DecidableEq, Repr

def span (env : Env) (token : Text) : Except Failure Text := do
  orBreakdown (← env.resolve true token).written

-- Expands a format from a state on. An operand that no brace closes is dropped, and so is a backslash at the end.
def expandFrom (env : Env) : FormatState → Text → Except Failure Text
  | _, [] => .ok []
  | .escaped, c :: rest => (expandFrom env .plain rest).map (c :: ·)
  | .operand characters, c :: rest =>
      if c = closeBrace then do
        let written ← env.span characters.reverse
        return written ++ (← expandFrom env .plain rest)
      else expandFrom env (.operand (c :: characters)) rest
  | .plain, c :: rest =>
      if c = '\\' then expandFrom env .escaped rest
      else if c = openBrace then expandFrom env (.operand []) rest
      else (expandFrom env .plain rest).map (c :: ·)

def expand (env : Env) (format : Text) : Except Failure Text :=
  env.expandFrom .plain format

end BareBones.Env
