import BareBones.Text.Printable

set_option autoImplicit false

namespace BareBones.Text

def quotedChar (quote c : Char) : Text :=
  if c == quote || c == '\\' then ['\\', c]
  else if c == '\n' then ['\\', 'n']
  else if c == '\r' then ['\\', 'r']
  else if c == '\t' then ['\\', 't']
  else if isPrintable c then [c]
  else if c.toNat < 0x100 then ['\\', 'x'] ++ hex 2 c.toNat
  else if c.toNat < 0x10000 then ['\\', 'u'] ++ hex 4 c.toNat
  else ['\\', 'U'] ++ hex 8 c.toNat

def quoteMark (text : Text) : Char :=
  if text.contains '\x27' && !text.contains '\x22' then '\x22' else '\x27'

def quoted (text : Text) : Text :=
  let mark := quoteMark text
  [mark] ++ text.flatMap (quotedChar mark) ++ [mark]

def quotedList (texts : List Text) : Text :=
  ['['] ++ join ", ".toList (texts.map quoted) ++ [']']

end BareBones.Text
