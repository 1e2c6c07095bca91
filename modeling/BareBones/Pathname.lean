import BareBones.Text.Basic

set_option autoImplicit false

namespace BareBones.Pathname

def partsFrom (current : Text) : Text → List Text
  | [] => [current.reverse]
  | c :: rest =>
      if c == '/' then current.reverse :: partsFrom [] rest else partsFrom (c :: current) rest

def walk (above : List Text) : List Text → List Text
  | [] => above.reverse
  | part :: rest =>
      if part.isEmpty || part == ".".toList then walk above rest
      else if part == "..".toList then walk above.tail rest
      else walk (part :: above) rest

-- What an absolute path begins with: two slashes stay two, any other number is one.
def rootOf (path : Text) : Text :=
  if (path.takeWhile (· == '/')).length == 2 then "//".toList else "/".toList

def within (directory path : Text) : Text :=
  if path.head? == some '/' then path
  else if directory.isEmpty || directory.getLast? == some '/' then directory ++ path
  else directory ++ "/".toList ++ path

def absolute (directory path : Text) : Text :=
  let whole := within directory path
  rootOf whole ++ Text.join "/".toList (walk [] (partsFrom [] whole))

def baseName (path : Text) : Text :=
  (path.reverse.takeWhile (· != '/')).reverse

-- A base name without its extension: the last dot and what follows it. Dots at the start begin no extension.
def stem (base : Text) : Text :=
  let body := base.dropWhile (· == '.')
  if body.contains '.' then
    base.takeWhile (· == '.') ++ ((body.reverse.dropWhile (· != '.')).drop 1).reverse
  else base

def placeholders : List Text := ["<string>".toList, "<stdin>".toList, "<repl>".toList]

def isPlaceholder (name : Text) : Bool :=
  placeholders.contains name

def display (directory name : Text) : Text :=
  if isPlaceholder name then name else absolute directory name

def program (name : Text) : Text :=
  if isPlaceholder name then (name.drop 1).dropLast else stem (baseName name)

end BareBones.Pathname
