import Stencil.Text.Basic

/-!
# Decimal places

A measured quantity is a number with 53 binary digits, and it is shown with a
fixed number of decimal places.  It is rounded when it is computed and again
when it is shown.  Both times the nearest number is taken, and of two nearest
ones the even one, so a quantity that looks like a tie is one only if the
binary digits hold it exactly.
-/

namespace Stencil

/-- The integer nearest to a quotient, and the even one of two nearest ones. -/
def nearest (dividend divisor : Nat) : Nat :=
  let quotient := dividend / divisor
  let twice := 2 * (dividend % divisor)
  if twice < divisor ∨ (twice = divisor ∧ quotient % 2 = 0) then quotient
  else quotient + 1

/-- The number `significand / 2 ^ scale`. -/
structure BinaryFraction where
  significand : Nat
  scale : Nat
  deriving DecidableEq, Repr

namespace BinaryFraction

/-- The number with 53 binary digits that is nearest to a quotient below
`2 ^ 53`. -/
def ofQuotient (dividend divisor : Nat) : BinaryFraction :=
  -- The lengths of the two numbers give the scale, or one less than the
  -- scale.
  let estimate := 52 + divisor.log2 - dividend.log2
  let scale :=
    if dividend <<< estimate < divisor <<< 52 then estimate + 1 else estimate
  ⟨nearest (dividend <<< scale) divisor, scale⟩

def addNat (number : BinaryFraction) (whole : Nat) : BinaryFraction :=
  ofQuotient (whole <<< number.scale + number.significand)
    (1 <<< number.scale)

/-- The number with some decimal places, at least one. -/
def decimal (places : Nat) (number : BinaryFraction) : Text :=
  let unit := Nat.pow 10 places
  let units := nearest (number.significand * unit) (1 <<< number.scale)
  Text.ofNat (units / unit) ++
    '.' :: (Text.ofNat (units % unit)).leftpad places '0'

end BinaryFraction
end Stencil
