import BareBones.Failure
import BareBones.Source.Line

set_option autoImplicit false

namespace BareBones

inductive BlockKind where
  | loop
  | branch
  | function
deriving DecidableEq, Repr

def BlockKind.keyword : BlockKind → Text
  | .loop => "while".toList
  | .branch => "if".toList
  | .function => "function".toList

namespace Boundary

def before? (word text : Text) : Option Text :=
  (word.reverse.isPrefixOf? text.reverse).map List.reverse

def startsBlank (text : Text) : Bool :=
  text.head?.any Text.isBlank

def endsBlank (text : Text) : Bool :=
  text.getLast?.any Text.isBlank

def subject? (middle : Text) : Option Text :=
  if !startsBlank middle || !endsBlank middle then none
  else if middle.allBlank then if middle.length < 2 then none else some []
  else if middle.trim.contains '\n' then none
  else some middle.trim

def headerOf? (kind : BlockKind) (text : Text) : Option Text :=
  (kind.keyword.isPrefixOf? text.trim).bind fun (rest : Text) =>
    (before? "do".toList rest).bind subject?

def isHeader (text : Text) : Bool :=
  [BlockKind.loop, .branch, .function].any fun kind => (headerOf? kind text).isSome

def isEnd (text : Text) : Bool :=
  text.trim == "end".toList

-- The predicate of a condition, from what follows `else if`. A `do` after the predicate may be left out;
-- where nothing stands before `do`, it is the predicate.
def condition? (text : Text) : Option Text :=
  let predicate :=
    match before? "do".toList text with
    | some front => if endsBlank front && !front.allBlank then front.trimEnd else text
    | none => text
  if predicate.contains '\n' then none else some predicate

def elseClause? (text : Text) : Option (Option Text) :=
  ("else".toList.isPrefixOf? text.trim).bind fun (rest : Text) =>
    let body := rest.trimStart
    if rest.isEmpty then some none
    else if !startsBlank rest then none
    else if body == "do".toList then some none
    else
      ("if".toList.isPrefixOf? body).bind fun (condition : Text) =>
        if startsBlank condition then (condition? condition.trimStart).map some else none

def isElse (text : Text) : Bool :=
  (elseClause? text).isSome

def readElse (line : Line) : Except Fault (Option Text) :=
  match elseClause? line.text with
  | some predicate => .ok predicate
  | none => .error (.at line.location (.badElse line.text.trim))

end Boundary
end BareBones
