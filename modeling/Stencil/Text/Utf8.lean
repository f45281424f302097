import Stencil.Text.Basic

/-!
# UTF-8

Decoding reads the bytes one at a time and remembers only the character that
is still open: how many bytes it is owed, the range of the next one, and the
bits read so far.  The range of the second byte depends on the first, which is
what rules out overlong forms, surrogates and code points that are too large.

A byte outside the expected range closes the open character as damaged and is
then read afresh as the first byte of the next one.  So every maximal damaged
stretch counts once, whether decoding refuses it or shows a replacement
character in its place.
-/

namespace Stencil

/-- A sequence of bytes: the contents of a file or the spelling of its path. -/
abbrev Bytes := List UInt8

namespace Utf8

/-- A character whose first bytes have been read. -/
structure Pending where
  /-- The number of bytes still owed, at least one. -/
  owed : Nat
  /-- The least and the greatest value of the next byte. -/
  low : Nat
  high : Nat
  bits : Nat

/-- What one byte brings about: the characters it completes, a damaged one
being `none`, and the character it leaves open. -/
abbrev Step := List (Option Char) × Option Pending

def lead (byte : UInt8) : Step :=
  let n := byte.toNat
  if n < 0x80 then ([some (Char.ofNat n)], none)
  else if n < 0xC2 then ([none], none)
  else if n < 0xE0 then ([], some ⟨1, 0x80, 0xBF, n - 0xC0⟩)
  else if n = 0xE0 then ([], some ⟨2, 0xA0, 0xBF, 0⟩)
  else if n = 0xED then ([], some ⟨2, 0x80, 0x9F, 0xD⟩)
  else if n < 0xF0 then ([], some ⟨2, 0x80, 0xBF, n - 0xE0⟩)
  else if n = 0xF0 then ([], some ⟨3, 0x90, 0xBF, 0⟩)
  else if n < 0xF4 then ([], some ⟨3, 0x80, 0xBF, n - 0xF0⟩)
  else if n = 0xF4 then ([], some ⟨3, 0x80, 0x8F, 4⟩)
  else ([none], none)

def Pending.feed (pending : Pending) (byte : UInt8) : Step :=
  if pending.low ≤ byte.toNat ∧ byte.toNat ≤ pending.high then
    let bits := pending.bits * 64 + byte.toNat % 64
    if pending.owed = 1 then ([some (Char.ofNat bits)], none)
    else ([], some ⟨pending.owed - 1, 0x80, 0xBF, bits⟩)
  else
    let (characters, open?) := lead byte
    (none :: characters, open?)

/-- The characters of a byte sequence that continues an open character, each
damaged stretch being `none`. -/
def decodeFrom (open? : Option Pending) : Bytes → List (Option Char)
  | [] => if open?.isSome then [none] else []
  | byte :: bytes =>
      let step := match open? with
        | none => lead byte
        | some pending => pending.feed byte
      step.1 ++ decodeFrom step.2 bytes

/-- The characters of a byte sequence, each damaged stretch being `none`. -/
def characters (bytes : Bytes) : List (Option Char) :=
  decodeFrom none bytes

/-- The text that a byte sequence encodes, if all of it is well formed. -/
def decode? (bytes : Bytes) : Option Text :=
  (characters bytes).mapM id

/-- The text of a byte sequence, with U+FFFD for each damaged stretch. -/
def decodeLossy (bytes : Bytes) : Text :=
  (characters bytes).map (·.getD '�')

def encode (text : Text) : Bytes :=
  text.flatMap String.utf8EncodeChar

end Utf8
end Stencil
