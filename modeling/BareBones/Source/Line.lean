import BareBones.Source.Location
import BareBones.Text.Blank
import BareBones.Text.Break

set_option autoImplicit false

namespace BareBones

structure Line where
  location : Location
  text : Text
deriving DecidableEq, Repr

namespace Line

-- Drops the comment: everything from the first `;` on that no backslash escapes. A backslash escapes the
-- character after it, also another backslash.
def withoutComment : Text → Text
  | [] => []
  | ['\\'] => ['\\']
  | '\\' :: c :: rest => '\\' :: c :: withoutComment rest
  | c :: rest => if c == ';' then [] else c :: withoutComment rest

def isBlank (line : Line) : Bool :=
  Text.allBlank line.text

def ofRaw (file : Text) (number : Nat) (raw : Text) : Line :=
  let statement := raw.trimStart
  ⟨⟨file, number, statement.trimEnd⟩, withoutComment statement⟩

def numbered (file : Text) (number : Nat) : List Text → List Line
  | [] => []
  | raw :: rest => ofRaw file number raw :: numbered file (number + 1) rest

def ofSource (file source : Text) : List Line :=
  numbered file 1 source.lines

theorem withoutComment_append (text : Text) : ∃ dropped, withoutComment text ++ dropped = text := by
  fun_induction withoutComment text with
  | case1 => exact ⟨[], rfl⟩
  | case2 => exact ⟨[], rfl⟩
  | case3 c rest ih =>
    obtain ⟨dropped, whole⟩ := ih
    exact ⟨dropped, by simp [whole]⟩
  | case4 c rest => exact ⟨c :: rest, rfl⟩
  | case5 c rest _ _ _ ih =>
    obtain ⟨dropped, whole⟩ := ih
    exact ⟨dropped, by simp [whole]⟩

end Line
end BareBones
