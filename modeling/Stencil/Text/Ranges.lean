/-!
# Tables of code points

A character class is a sorted table of inclusive ranges of code points.  The
membership test stops at the first range that starts above the code point, so
a class is cheap for the characters that occur most.
-/

namespace Stencil
namespace Text

/-- Inclusive ranges of code points, in increasing order. -/
abbrev CodeRanges := List (Nat × Nat)

/-- Whether a code point lies in one of the ranges of a sorted table. -/
def CodeRanges.has : CodeRanges → Nat → Bool
  | [], _ => false
  | (first, last) :: ranges, code =>
      if code < first then false
      else if code ≤ last then true
      else CodeRanges.has ranges code

end Text
end Stencil
