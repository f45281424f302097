import Stencil.Text.Basic

/-!
# Collapsing white space

To make a page smaller, tabs and the characters that move to another line are
dropped and runs of spaces shrink to one space.  A dropped character does not
end a run of spaces.
-/

namespace Stencil
namespace Text

def isCollapsed (c : Char) : Bool :=
  c = '\t' ∨ c = '\n' ∨ c = '\x0b' ∨ c = '\x0c' ∨ c = '\r'

/-- The collapsed text, given whether the last character kept is a space. -/
def collapseAfter (afterSpace : Bool) : Text → Text
  | [] => []
  | c :: text =>
      if isCollapsed c then collapseAfter afterSpace text
      else if c = ' ' then
        if afterSpace then collapseAfter true text
        else ' ' :: collapseAfter true text
      else c :: collapseAfter false text

/-- The text without the white space that a page can do without. -/
def collapse (text : Text) : Text :=
  collapseAfter false text

end Text
end Stencil
