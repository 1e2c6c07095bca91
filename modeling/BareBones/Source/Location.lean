import BareBones.Text.Basic

set_option autoImplicit false

namespace BareBones

structure Location where
  file : Text
  line : Int
  statement : Text
deriving DecidableEq, Repr

def Location.describe (location : Location) : Text :=
  ['\x22'] ++ location.file ++ "\", line ".toList ++ Text.ofInt location.line

end BareBones
