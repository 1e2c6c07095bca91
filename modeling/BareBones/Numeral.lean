import BareBones.Failure
import BareBones.Text.Blank
import BareBones.Text.Digit

set_option autoImplicit false

namespace BareBones.Numeral

inductive Sign where
  | plus
  | minus
deriving DecidableEq, Repr

def Sign.apply : Sign → Nat → Int
  | .plus, n => n
  | .minus, n => -n

def splitSign : Text → Sign × Text
  | '+' :: rest => (.plus, rest)
  | '-' :: rest => (.minus, rest)
  | text => (.plus, text)

def valueOf (digits : Text) : Nat :=
  digits.foldl (fun n c => 10 * n + (Text.digitValue? c).getD 0) 0

def signedDigits? (text : Text) : Option (Sign × Text) :=
  let (sign, digits) := splitSign text
  if !digits.isEmpty && digits.all Text.isDecimal then some (sign, digits) else none

-- Reads a text that holds an integer between blanks; any other text holds none. Around the integer an
-- information separator is a blank that cannot be skipped.
def read? (text : Text) : Except Breakdown (Option Int) :=
  match signedDigits? text.trim with
  | none => .ok none
  | some (sign, digits) =>
      -- Blanks before the digits fail first, then their number, then the blanks after them.
      if (text.takeWhile Text.isBlank).any Text.isInformationSeparator then .error (.badLiteral text)
      else if digitLimit < digits.length then .error (.longLiteral digits.length)
      else if (text.reverse.takeWhile Text.isBlank).any Text.isInformationSeparator then
        .error (.badLiteral text)
      else .ok (some (sign.apply (valueOf digits)))

def readIndex? (text : Text) : Except Breakdown (Option Nat) :=
  if text.isEmpty || !text.all Text.isDigitLike then .ok none
  else
    let digits := text.takeWhile Text.isDecimal
    if digitLimit < digits.length then .error (.longLiteral digits.length)
    else if digits.length < text.length then .error (.badLiteral text)
    else .ok (some (valueOf digits))

def ungroup? : Text → Option Text
  | [] => none
  | [c] => if Text.isDecimal c then some [c] else none
  | c :: '_' :: rest => if Text.isDecimal c then (ungroup? rest).map (c :: ·) else none
  | c :: rest => if Text.isDecimal c then (ungroup? rest).map (c :: ·) else none

def readOption? (text : Text) : Option Int :=
  let skipped (c : Char) := Text.isBlank c && !Text.isInformationSeparator c
  let body := ((text.dropWhile skipped).reverse.dropWhile skipped).reverse
  let (sign, digits) := splitSign body
  (ungroup? digits).bind fun digits =>
    if digitLimit < digits.length then none else some (sign.apply (valueOf digits))

def isWritable (n : Int) : Bool :=
  n.natAbs < Nat.pow 10 digitLimit

def write (n : Int) : Except Breakdown Text :=
  if isWritable n then .ok (Text.ofInt n) else .error .longInteger

theorem write_short {n : Int} (short : isWritable n = true) : write n = .ok (Text.ofInt n) := if_pos short

theorem write_long {n : Int} (long : isWritable n = false) : write n = .error .longInteger :=
  if_neg (ne_true_of_eq_false long)

end BareBones.Numeral
