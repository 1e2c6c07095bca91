import BareBones.Text.Basic

set_option autoImplicit false

namespace BareBones.Text

-- The characters that separate words: the ASCII blanks with the four information separators, and the blanks
-- of Unicode. A zero width space is no blank.
def isBlank (c : Char) : Bool :=
  let n := c.toNat
  (0x09 ≤ n && n ≤ 0x0D) || (0x1C ≤ n && n ≤ 0x20) || n == 0x85 || n == 0xA0 || n == 0x1680 ||
    (0x2000 ≤ n && n ≤ 0x200A) || n == 0x2028 || n == 0x2029 || n == 0x202F || n == 0x205F ||
    n == 0x3000

-- The information separators U+001C to U+001F are blank, but an integer may not lean on one.
def isInformationSeparator (c : Char) : Bool :=
  0x1C ≤ c.toNat && c.toNat ≤ 0x1F

def allBlank (text : Text) : Bool :=
  text.all isBlank

def trimStart (text : Text) : Text :=
  text.dropWhile isBlank

def trimEnd (text : Text) : Text :=
  (text.reverse.dropWhile isBlank).reverse

def trim (text : Text) : Text :=
  trimEnd (trimStart text)

def firstWord (text : Text) : Text :=
  text.takeWhile (!isBlank ·)

def afterFirstWord (text : Text) : Text :=
  text.dropWhile (!isBlank ·)

def wordsFrom (current : Text) : Text → List Text
  | [] => if current.isEmpty then [] else [current.reverse]
  | c :: rest =>
      if isBlank c then
        if current.isEmpty then wordsFrom [] rest else current.reverse :: wordsFrom [] rest
      else wordsFrom (c :: current) rest

def words (text : Text) : List Text :=
  wordsFrom [] text

end BareBones.Text
