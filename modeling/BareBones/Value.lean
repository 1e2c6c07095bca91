import BareBones.Numeral

set_option autoImplicit false

namespace BareBones

inductive Value where
  | int (n : Int)
  | text (t : Text)
deriving DecidableEq, Repr

namespace Value

def integer? : Value → Except Breakdown (Option Int)
  | .int n => .ok (some n)
  | .text t => Numeral.read? t

def written : Value → Except Breakdown Text
  | .int n => Numeral.write n
  | .text t => .ok t

def tag : Value → Text
  | .int _ => "INT".toList
  | .text _ => "STR".toList

def shortened (text : Text) : Text :=
  if 80 < text.length then text.take 77 ++ "...".toList else text

def summary (value : Value) : Except Breakdown Text :=
  value.written.map fun text => value.tag ++ ":".toList ++ shortened text

end Value
end BareBones
