import Stencil.Split
import Stencil.Text.Basic

/-!
# Lines of a text

A line ends at a line break or at the end of the text.  A carriage return
right before a line break belongs to the break, one at the very end of the
text does not, and a break at the very end opens no further line.
-/

namespace Stencil
namespace Text

/-- A line without the carriage return that precedes its line break. -/
def dropReturn (line : Text) : Text :=
  if line.getLast? = some '\r' then line.dropLast else line

/-- The lines of a text, without their line ends. -/
def lines (text : Text) : List Text :=
  match (splitWhere (· == '\n') text).reverse with
  | [] => []
  | last :: ended =>
      (ended.map dropReturn).reverse ++ if last = [] then [] else [last]

end Text
end Stencil
