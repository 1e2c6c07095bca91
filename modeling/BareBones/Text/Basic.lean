
set_option autoImplicit false

namespace BareBones

abbrev Text := List Char

namespace Text

def join (separator : Text) (pieces : List Text) : Text :=
  separator.intercalate pieces

def cited (text : Text) : Text :=
  ['\x27'] ++ text ++ ['\x27']

def ofNat (n : Nat) : Text :=
  Nat.toDigits 10 n

def ofInt (n : Int) : Text :=
  if n < 0 then '-' :: ofNat n.natAbs else ofNat n.natAbs

def padded (width n : Nat) : Text :=
  let digits := ofNat n
  List.replicate (width - digits.length) '0' ++ digits

def hex : Nat → Nat → Text
  | 0, _ => []
  | width + 1, n => hex width (n / 16) ++ [Nat.digitChar (n % 16)]

def cutAt (mark : Char) (text : Text) : Text × Text :=
  (text.takeWhile (· != mark), text.dropWhile (· != mark))

theorem cutAt_append (mark : Char) (text : Text) :
    (cutAt mark text).1 ++ (cutAt mark text).2 = text := by
  simp [cutAt]

end Text
end BareBones
