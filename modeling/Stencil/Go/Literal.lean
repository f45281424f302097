import Stencil.Text.Basic
import Stencil.Text.Space

/-!
# String literals of Go

A text becomes an interpreted string literal.  The two characters that would
end the literal or start an escape are escaped, and so is every character that
does not show: controls, white space other than the space, and the marks that
format text without taking room.  So a literal always stays on one line.
-/

namespace Stencil
namespace Go

/-- The letters of the escapes that have one, by the character they stand
for. -/
def letterEscapes : List (Char × Char) :=
  [ ('"', '"'), ('\\', '\\'), ('\x07', 'a'), ('\x08', 'b'), ('\x0c', 'f'),
    ('\n', 'n'), ('\r', 'r'), ('\t', 't'), ('\x0b', 'v') ]

def isAsciiControl (c : Char) : Bool :=
  c.toNat < 0x20 ∨ c.toNat = 0x7F

/-- Whether a character beyond ASCII does not show: a control, white space, or
a mark that takes no room. -/
def isHidden (c : Char) : Bool :=
  (0x80 ≤ c.toNat ∧ c.toNat ≤ 0x9F) ∨
    (Text.isSpace c ∧ c ≠ ' ') ∨
    c.toNat = 0xAD ∨
    (0x200B ≤ c.toNat ∧ c.toNat ≤ 0x200F) ∨
    (0x2060 ≤ c.toNat ∧ c.toNat ≤ 0x2064) ∨
    c.toNat = 0xFEFF

def literalCharacter (c : Char) : Text :=
  match letterEscapes.lookup c with
  | some letter => ['\\', letter]
  | none =>
      if isAsciiControl c then '\\' :: 'x' :: Text.hexadecimal 2 c.toNat
      else if isHidden c then
        if c.toNat ≤ 0xFFFF then '\\' :: 'u' :: Text.hexadecimal 4 c.toNat
        else '\\' :: 'U' :: Text.hexadecimal 8 c.toNat
      else [c]

/-- The literal whose value is a text. -/
def literal (text : Text) : Text :=
  '"' :: text.flatMap literalCharacter ++ ['"']

end Go
end Stencil
