import Stencil.Split
import Stencil.Text.Basic
import Stencil.Text.Ranges

/-!
# White space

White space is the Unicode property `White_Space`.  Trimming a text and taking
it apart into words both go by this property.
-/

namespace Stencil
namespace Text

/-- The code points with the property `White_Space`. -/
def spaceRanges : CodeRanges :=
  [ (0x9, 0xD), (0x20, 0x20), (0x85, 0x85), (0xA0, 0xA0), (0x1680, 0x1680),
    (0x2000, 0x200A), (0x2028, 0x2029), (0x202F, 0x202F), (0x205F, 0x205F),
    (0x3000, 0x3000) ]

def isSpace (c : Char) : Bool :=
  spaceRanges.has c.toNat

def trimStart (text : Text) : Text :=
  text.dropWhile isSpace

def trimEnd (text : Text) : Text :=
  (text.reverse.dropWhile isSpace).reverse

/-- A text without the white space at its two ends. -/
def trim (text : Text) : Text :=
  trimEnd (trimStart text)

/-- The maximal runs of characters other than white space. -/
def words (text : Text) : List Text :=
  (splitWhere isSpace text).filter (· ≠ [])

end Text
end Stencil
