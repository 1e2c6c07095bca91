import BareBones.Text.Basic

set_option autoImplicit false

namespace BareBones.Json

def unitEscape (unit : Nat) : Text :=
  ['\\', 'u'] ++ Text.hex 4 unit

def char (c : Char) : Text :=
  let n := c.toNat
  if c == '\x22' then ['\\', '\x22']
  else if c == '\\' then ['\\', '\\']
  else if c == '\n' then ['\\', 'n']
  else if c == '\r' then ['\\', 'r']
  else if c == '\t' then ['\\', 't']
  else if n == 0x0C then ['\\', 'f']
  else if n == 0x08 then ['\\', 'b']
  else if 0x20 ≤ n && n < 0x7F then [c]
  else if n < 0x10000 then unitEscape n
  else
    let offset := n - 0x10000
    unitEscape (0xD800 + offset / 0x400) ++ unitEscape (0xDC00 + offset % 0x400)

def string (text : Text) : Text :=
  ['\x22'] ++ text.flatMap char ++ ['\x22']

def nat (n : Nat) : Text :=
  Text.ofNat n

def int (n : Int) : Text :=
  Text.ofInt n

def optional {α : Type} (write : α → Text) : Option α → Text
  | none => "null".toList
  | some value => write value

def newLine (depth : Nat) : Text :=
  '\n' :: List.replicate (2 * depth) ' '

def enclosed (depth : Nat) (opening closing : Char) (items : List Text) : Text :=
  if items.isEmpty then [opening, closing]
  else
    let parted := Text.join (',' :: newLine (depth + 1)) items
    [opening] ++ newLine (depth + 1) ++ parted ++ newLine depth ++ [closing]

def array (depth : Nat) (items : List Text) : Text :=
  enclosed depth '[' ']' items

def object (depth : Nat) (members : List (Text × Text)) : Text :=
  enclosed depth '\x7b' '\x7d' (members.map fun (key, value) => string key ++ ": ".toList ++ value)

end BareBones.Json
