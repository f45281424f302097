import Stencil.Text.Utf8

/-!
# Slices

A slice is the stretch of a byte sequence between two offsets.  There is one
only if the offsets are in order and within the sequence, and a slice that is
to be a text must not cut a character in two.  Both operations are partial, so
a program that takes slices has to be shown never to take one that is missing.
-/

namespace Stencil

namespace Bytes

/-- The bytes between two offsets, if these are in order and within bounds. -/
def slice? (bytes : Bytes) (start stop : Nat) : Option Bytes :=
  if start ≤ stop ∧ stop ≤ bytes.length then
    some ((bytes.drop start).take (stop - start))
  else
    none

/-- The offset at which a pattern occurs first. -/
def find? (pattern : Bytes) : Bytes → Option Nat
  | [] => if pattern = [] then some 0 else none
  | byte :: bytes =>
      if pattern.isPrefixOf (byte :: bytes) then some 0
      else (find? pattern bytes).map (· + 1)

end Bytes

namespace Utf8

/-- Whether the offset is the end of the bytes or that of a byte that does not
continue a character. -/
def isBoundary (bytes : Bytes) (offset : Nat) : Bool :=
  match bytes[offset]? with
  | some byte => byte.toNat < 0x80 || 0xC0 ≤ byte.toNat
  | none => offset = bytes.length

/-- The text between two offsets, if neither is inside a character. -/
def slice? (bytes : Bytes) (start stop : Nat) : Option Text :=
  if isBoundary bytes start ∧ isBoundary bytes stop then
    (bytes.slice? start stop).bind decode?
  else
    none

end Utf8
end Stencil
