import Stencil.Path
import Stencil.Text.Basic

/-!
# Positions

A position is a line of a file.  It is known if it names both, and only a
known position is ever told to anyone: in a directive of the generated code,
or in the mapping from generated lines to template lines.
-/

namespace Stencil

/-- A line of a file, counted from one. -/
structure Position where
  path : Text
  line : Nat
  deriving DecidableEq, Repr, Inhabited

namespace Position

/-- The position names a file and a line of it. -/
def IsKnown (position : Position) : Prop :=
  position.path ≠ [] ∧ 0 < position.line

instance (position : Position) : Decidable position.IsKnown :=
  inferInstanceAs (Decidable (_ ∧ _))

/-- The file name of the position's path, or the whole path if it has none. -/
def fileLabel (position : Position) : Text :=
  (Path.fileName? position.path).getD position.path

/-- The directive that attributes the next line of Go code to the position. -/
def lineDirective (position : Position) : Text :=
  "//line ".toList ++ position.fileLabel ++ ':' :: Text.ofNat position.line

def lineDirective? (position : Position) : Option Text :=
  if position.IsKnown then some position.lineDirective else none

end Position
end Stencil
