import Mathlib.Algebra.Group.Nat.Defs
import Mathlib.Data.List.Basic
import Stencil.Go.Literal
import Stencil.Proofs.Utf8Decoding

/-!
# What a string literal of Go denotes

An interpreted string literal denotes a sequence of bytes.  A character that
stands for itself, and an escape for a character, contribute the encoding of
the character; the escapes with two hexadecimal or three octal digits
contribute one byte.  Reading follows these rules for all literals, not only
for those that are ever written here.

A written literal is read back character by character: what stands for one
character is read without regard to what follows, so the text around a literal
has no influence on its value.
-/

namespace Stencil
namespace Go

/-! ## Reading a literal -/

/-- The value of a digit of a base, where letters count in either case. -/
def digit? (base : Nat) (c : Char) : Option Nat :=
  let value :=
    if '0' ≤ c ∧ c ≤ '9' then c.toNat - 0x30
    else if 'a' ≤ c ∧ c ≤ 'f' then c.toNat - 0x57
    else if 'A' ≤ c ∧ c ≤ 'F' then c.toNat - 0x37
    else base
  if value < base then some value else none

/-- The number that a fixed count of digits continues, and the text after
them. -/
def readDigits (base : Nat) : Nat → Nat → Text → Option (Nat × Text)
  | 0, number, text => some (number, text)
  | _ + 1, _, [] => none
  | count + 1, number, c :: text =>
      (digit? base c).bind fun digit =>
        readDigits base count (number * base + digit) text

def byte? (number : Nat) : Option Bytes :=
  if number < 256 then some [UInt8.ofNat number] else none

/-- The encoding of a code point, surrogates excluded. -/
def codePoint? (number : Nat) : Option Bytes :=
  if number.isValidChar then
    some (String.utf8EncodeChar (Char.ofNat number)) else none

def readNumber (base count : Nat) (encode : Nat → Option Bytes)
    (text : Text) :
    Option (Bytes × Text) :=
  (readDigits base count 0 text).bind fun (number, rest) =>
    (encode number).map fun bytes => (bytes, rest)

def escapedCharacters : List (Char × Char) :=
  [ ('a', '\x07'), ('b', '\x08'), ('f', '\x0c'), ('n', '\n'), ('r', '\r'),
    ('t', '\t'), ('v', '\x0b'), ('\\', '\\'), ('"', '"') ]

/-- What stands behind a backslash, and the text after it. -/
def readEscape : Text → Option (Bytes × Text)
  | [] => none
  | c :: text =>
      match escapedCharacters.lookup c with
      | some character => some (String.utf8EncodeChar character, text)
      | none =>
          if c = 'x' then readNumber 16 2 byte? text
          else if c = 'u' then readNumber 16 4 codePoint? text
          else if c = 'U' then readNumber 16 8 codePoint? text
          else readNumber 8 3 byte? (c :: text)

theorem length_readDigits_le {base count number value : Nat}
    {text rest : Text}
    (hread : readDigits base count number text = some (value, rest)) :
    rest.length ≤ text.length := by
  induction count generalizing number text with
  | zero =>
      cases hread
      exact Nat.le_refl _
  | succ count ih =>
      cases text with
      | nil => cases hread
      | cons c text =>
          obtain ⟨digit, -, htail⟩ := Option.bind_eq_some_iff.mp hread
          have hle := ih htail
          simp only [List.length_cons]
          omega

theorem length_readNumber_le {base count : Nat} {encode : Nat → Option Bytes}
    {text rest : Text} {bytes : Bytes}
    (hread : readNumber base count encode text = some (bytes, rest)) :
    rest.length ≤ text.length := by
  obtain ⟨⟨number, after⟩, hdigits, hencode⟩ :=
    Option.bind_eq_some_iff.mp hread
  obtain ⟨encoded, -, heq⟩ := Option.map_eq_some_iff.mp hencode
  cases heq
  exact length_readDigits_le hdigits

theorem length_readEscape_le {text rest : Text} {bytes : Bytes}
    (hread : readEscape text = some (bytes, rest)) :
    rest.length ≤ text.length := by
  cases text with
  | nil => cases hread
  | cons c text =>
      have hcons : text.length ≤ (c :: text).length := by simp
      rw [readEscape] at hread
      split at hread
      · cases hread
        exact hcons
      · split_ifs at hread
        · exact Nat.le_trans (length_readNumber_le hread) hcons
        · exact Nat.le_trans (length_readNumber_le hread) hcons
        · exact Nat.le_trans (length_readNumber_le hread) hcons
        · exact length_readNumber_le hread

/-- The bytes up to the closing quote, and the text after the quote. -/
def readCharacters (text : Text) : Option (Bytes × Text) :=
  match text with
  | [] => none
  | '"' :: rest => some ([], rest)
  | '\n' :: _ => none
  | '\\' :: rest =>
      match _hescape : readEscape rest with
      | none => none
      | some (bytes, after) =>
          (readCharacters after).map fun (more, left) => (bytes ++ more, left)
  | c :: rest =>
      (readCharacters rest).map fun (more, left) =>
        (String.utf8EncodeChar c ++ more, left)
termination_by text.length
decreasing_by
  · have hle := length_readEscape_le _hescape
    simp only [List.length_cons]
    omega
  · simp

/-- The bytes of the interpreted string literal at the head of a text, and the
text after it. -/
def readLiteral : Text → Option (Bytes × Text)
  | '"' :: text => readCharacters text
  | _ => none

def literalValue? (literal : Text) : Option Bytes :=
  match readLiteral literal with
  | some (bytes, []) => some bytes
  | _ => none

/-! ## Reading digits back -/

theorem digit?_digitChar {value : Nat} (hvalue : value < 16) :
    digit? 16 value.digitChar = some value := by
  have hall : ∀ other < 16, digit? 16 (Nat.digitChar other) = some other := by
    decide
  exact hall value hvalue

theorem readDigits_append {base : Nat} (count more number : Nat)
    (text : Text) :
    readDigits base (count + more) number text =
      (readDigits base count number text).bind fun (value, rest) =>
        readDigits base more value rest := by
  induction count generalizing number text with
  | zero =>
      rw [Nat.zero_add]
      rfl
  | succ count ih =>
      rw [Nat.succ_add]
      cases text with
      | nil => rfl
      | cons c text =>
          simp only [readDigits]
          cases digit? base c with
          | none => rfl
          | some digit => exact ih _ text

theorem readDigits_toDigits (number value : Nat) (rest : Text) :
    readDigits 16 (Nat.toDigits 16 value).length number
      (Nat.toDigits 16 value ++ rest) =
      some (number * 16 ^ (Nat.toDigits 16 value).length + value, rest) := by
  -- The last digit is read last, so the induction is on the number without
  -- it.
  induction value using Nat.strongRecOn generalizing rest with
  | _ value ih =>
      by_cases hsmall : value < 16
      · rw [Nat.toDigits_of_lt_base hsmall]
        simp [readDigits, digit?_digitChar hsmall]
      · have hlow : value % 16 < 16 := Nat.mod_lt value (by decide)
        rw [Nat.toDigits_of_base_le (by decide) (by omega),
          List.length_append, List.append_assoc, readDigits_append,
          ih (value / 16) (by omega)]
        simp only [Option.bind_some, List.length_singleton,
          List.singleton_append, readDigits, digit?_digitChar hlow,
          Option.some.injEq, Prod.mk.injEq, and_true]
        rw [Nat.pow_succ, ← Nat.mul_assoc, Nat.add_mul]
        omega

theorem readDigits_zeros (count : Nat) (rest : Text) :
    readDigits 16 count 0 (List.replicate count '0' ++ rest) =
      some (0, rest) := by
  induction count with
  | zero => rfl
  | succ count ih =>
      have hzero : digit? 16 '0' = some 0 := by decide
      rw [List.replicate_succ, List.cons_append, readDigits, hzero]
      exact ih

theorem readDigits_hexadecimal {width number : Nat} (hwidth : 0 < width)
    (hnumber : number < 16 ^ width) (rest : Text) :
    readDigits 16 width 0 (Text.hexadecimal width number ++ rest) =
      some (number, rest) := by
  have hlength : (Nat.toDigits 16 number).length ≤ width :=
    (Nat.length_toDigits_le_iff (by decide) hwidth).mpr hnumber
  obtain ⟨zeros, hzeros⟩ : ∃ zeros,
    width = zeros + (Nat.toDigits 16 number).length :=
    ⟨width - (Nat.toDigits 16 number).length, by omega⟩
  have hpadded : Text.hexadecimal width number =
      List.replicate zeros '0' ++ Nat.toDigits 16 number := by
    rw [Text.hexadecimal, List.leftpad, hzeros, Nat.add_sub_cancel]
  rw [hpadded, List.append_assoc, hzeros, readDigits_append, readDigits_zeros]
  simpa using readDigits_toDigits 0 number rest

/-! ## Reading a literal back -/

theorem readCharacters_escape {text rest : Text} {bytes : Bytes}
    (hescape : readEscape text = some (bytes, rest)) :
    readCharacters ('\\' :: text) =
      (readCharacters rest).map fun (more, left) =>
        (bytes ++ more, left) := by
  rw [readCharacters]
  split <;> rename_i hother <;> rw [hescape] at hother <;> cases hother
  rfl

theorem readCharacters_plain {c : Char} (hquote : c ≠ '"')
    (hnewline : c ≠ '\n') (hbackslash : c ≠ '\\') (text : Text) :
    readCharacters (c :: text) =
      (readCharacters text).map fun (more, left) =>
        (String.utf8EncodeChar c ++ more, left) := by
  rw [readCharacters]
  · exact fun heq => hquote heq
  · exact fun heq => hnewline heq
  · exact fun heq => hbackslash heq

theorem readNumber_hexadecimal {width number : Nat} (hwidth : 0 < width)
    (hnumber : number < 16 ^ width) (encode : Nat → Option Bytes)
    (rest : Text) :
    readNumber 16 width encode (Text.hexadecimal width number ++ rest) =
      (encode number).map fun bytes => (bytes, rest) := by
  rw [readNumber, readDigits_hexadecimal hwidth hnumber]
  rfl

theorem byte?_of_ascii {c : Char} (hascii : c.toNat < 0x80) :
    byte? c.toNat = some (String.utf8EncodeChar c) := by
  have hsmall : c.val.toNat ≤ 0x7f := Nat.le_of_lt_succ hascii
  rw [byte?, if_pos (by omega), String.utf8EncodeChar, if_pos hsmall]
  rfl

theorem codePoint?_toNat (c : Char) :
    codePoint? c.toNat = some (String.utf8EncodeChar c) := by
  have hvalid : c.toNat.isValidChar := c.valid
  rw [codePoint?, if_pos hvalid, Char.ofNat_toNat]

theorem readEscape_letter {c letter : Char}
    (hletter : letterEscapes.lookup c = some letter) (text : Text) :
    readEscape (letter :: text) = some (String.utf8EncodeChar c, text) := by
  have hall : ∀ pair ∈ letterEscapes,
      escapedCharacters.lookup pair.2 = some pair.1 := by
    decide
  obtain ⟨before, after, hsplit, -⟩ := List.lookup_eq_some_iff.mp hletter
  have hback := hall (c, letter) (by rw [hsplit]; simp)
  rw [readEscape, hback]

theorem plain_of_lookup_eq_none {c : Char}
    (hletter : letterEscapes.lookup c = none) :
    c ≠ '"' ∧ c ≠ '\n' ∧ c ≠ '\\' := by
  refine ⟨?_, ?_, ?_⟩ <;> rintro rfl <;> cases hletter

theorem isAsciiControl_lt {c : Char} (hcontrol : isAsciiControl c = true) :
    c.toNat < 0x80 := by
  simp only [isAsciiControl, decide_eq_true_eq] at hcontrol
  omega

theorem toNat_lt_hexadecimal (c : Char) : c.toNat < 16 ^ 8 := by
  have hvalid : c.toNat.isValidChar := c.valid
  unfold Nat.isValidChar at hvalid
  omega

theorem readCharacters_hexadecimal {c letter : Char} {width : Nat}
    {encode : Nat → Option Bytes} (hwidth : 0 < width)
    (hsmall : c.toNat < 16 ^ width)
    (hletter : ∀ text,
      readEscape (letter :: text) = readNumber 16 width encode text)
    (hencode : encode c.toNat = some (String.utf8EncodeChar c))
    (text : Text) :
    readCharacters
      ('\\' :: letter :: Text.hexadecimal width c.toNat ++ text) =
      (readCharacters text).map fun (more, left) =>
        (String.utf8EncodeChar c ++ more, left) := by
  apply readCharacters_escape
  change readEscape (letter :: (Text.hexadecimal width c.toNat ++ text)) = _
  rw [hletter, readNumber_hexadecimal hwidth hsmall, hencode]
  rfl

theorem readCharacters_literalCharacter (c : Char) (text : Text) :
    readCharacters (literalCharacter c ++ text) =
      (readCharacters text).map fun (more, left) =>
        (String.utf8EncodeChar c ++ more, left) := by
  unfold literalCharacter
  cases hletter : letterEscapes.lookup c with
  | some letter =>
      exact readCharacters_escape (readEscape_letter hletter text)
  | none =>
      simp only
      split_ifs with hcontrol hhidden hshort
      · have hascii := isAsciiControl_lt hcontrol
        exact readCharacters_hexadecimal (by decide) (by omega) (fun _ => rfl)
          (byte?_of_ascii hascii) text
      · exact readCharacters_hexadecimal (by decide) (by omega) (fun _ => rfl)
          (codePoint?_toNat c) text
      · exact readCharacters_hexadecimal (by decide) (toNat_lt_hexadecimal c)
          (fun _ => rfl) (codePoint?_toNat c) text
      · obtain ⟨hquote, hnewline, hbackslash⟩ :=
          plain_of_lookup_eq_none hletter
        exact readCharacters_plain hquote hnewline hbackslash text

/-- A literal is read back as the text it was written for, whatever
follows. -/
theorem readLiteral_literal_append (text rest : Text) :
    readLiteral (literal text ++ rest) = some (Utf8.encode text, rest) := by
  have hcharacters :
      readCharacters (text.flatMap literalCharacter ++ '"' :: rest) =
        some (Utf8.encode text, rest) := by
    induction text with
    | nil =>
        rw [List.flatMap_nil, List.nil_append, readCharacters]
        rfl
    | cons c text ih =>
        rw [List.flatMap_cons, List.append_assoc,
          readCharacters_literalCharacter, ih]
        rfl
  simpa [literal, readLiteral] using hcharacters

theorem literalValue?_literal (text : Text) :
    literalValue? (literal text) = some (Utf8.encode text) := by
  have hread := readLiteral_literal_append text []
  rw [List.append_nil] at hread
  rw [literalValue?, hread]

/-! ## Literals stay on one line -/

def isControl (c : Char) : Bool :=
  c.toNat < 0x20 ∨ (0x7F ≤ c.toNat ∧ c.toNat ≤ 0x9F)

theorem isControl_of_mem_toDigits {number : Nat} {c : Char}
    (hmem : c ∈ Nat.toDigits 16 number) : isControl c = false := by
  have hdigit : ∀ value < 16, isControl (Nat.digitChar value) = false := by
    decide
  induction number using Nat.strongRecOn with
  | _ number ih =>
      by_cases hsmall : number < 16
      · rw [Nat.toDigits_of_lt_base hsmall, List.mem_singleton] at hmem
        rw [hmem]
        exact hdigit number hsmall
      · rw [Nat.toDigits_of_base_le (by decide) (by omega), List.mem_append,
          List.mem_singleton] at hmem
        rcases hmem with hhigh | hlow
        · exact ih (number / 16) (by omega) hhigh
        · rw [hlow]
          exact hdigit _ (Nat.mod_lt number (by decide))

theorem isControl_of_mem_hexadecimal {width number : Nat} {c : Char}
    (hmem : c ∈ Text.hexadecimal width number) : isControl c = false := by
  rw [Text.hexadecimal, List.leftpad, List.mem_append] at hmem
  rcases hmem with hzero | hdigit
  · rw [List.eq_of_mem_replicate hzero]
    rfl
  · exact isControl_of_mem_toDigits hdigit

theorem isControl_of_mem_escape {letter c : Char} {width number : Nat}
    (hletter : isControl letter = false)
    (hmem : c ∈ '\\' :: letter :: Text.hexadecimal width number) :
    isControl c = false := by
  simp only [List.mem_cons] at hmem
  rcases hmem with rfl | rfl | hdigit
  · rfl
  · exact hletter
  · exact isControl_of_mem_hexadecimal hdigit

theorem isControl_of_plain {c : Char} (hcontrol : ¬ isAsciiControl c = true)
    (hhidden : ¬ isHidden c = true) : isControl c = false := by
  simp only [isAsciiControl, decide_eq_true_eq] at hcontrol
  simp only [isHidden, decide_eq_true_eq] at hhidden
  simp only [isControl, decide_eq_false_iff_not]
  omega

theorem isControl_of_mem_literalCharacter {c d : Char}
    (hmem : d ∈ literalCharacter c) :
    isControl d = false := by
  unfold literalCharacter at hmem
  cases hletter : letterEscapes.lookup c with
  | some letter =>
      have hall : ∀ pair ∈ letterEscapes,
          isControl pair.2 = false := by decide
      obtain ⟨before, after, hsplit, -⟩ := List.lookup_eq_some_iff.mp hletter
      have hclean := hall (c, letter) (by rw [hsplit]; simp)
      simp only [hletter, List.mem_cons, List.not_mem_nil, or_false] at hmem
      rcases hmem with rfl | rfl
      · rfl
      · exact hclean
  | none =>
      simp only [hletter] at hmem
      split_ifs at hmem with hcontrol hhidden hshort
      · exact isControl_of_mem_escape rfl hmem
      · exact isControl_of_mem_escape rfl hmem
      · exact isControl_of_mem_escape rfl hmem
      · rw [List.mem_singleton.mp hmem]
        exact isControl_of_plain hcontrol hhidden

theorem isControl_of_mem_literal {text : Text} {c : Char}
    (hmem : c ∈ literal text) :
    isControl c = false := by
  simp only [literal, List.mem_append, List.mem_cons,
    List.not_mem_nil, or_false, List.mem_flatMap] at hmem
  rcases hmem with (rfl | ⟨d, -, hcharacter⟩) | rfl
  · rfl
  · exact isControl_of_mem_literalCharacter hcharacter
  · rfl

/-- A literal denotes the text it was written for and cannot be escaped from.
Whatever follows, reading ends at its closing quote with the bytes of the
text, and these are decoded to no other text.  So where a literal ends is
decided by the literal alone, and it never spreads over two lines. -/
theorem literal_denotes_text (text rest : Text) :
    readLiteral (literal text ++ rest) = some (Utf8.encode text, rest) ∧
    (∀ other, Utf8.decode? (Utf8.encode text) = some other ↔ other = text) ∧
    (∀ other more, literal text ++ rest = literal other ++ more →
      text = other ∧ rest = more) ∧
    (∀ c ∈ literal text, isControl c = false) ∧
    (literal text).newlines = 0 := by
  have hread := readLiteral_literal_append text rest
  have hvalue : ∀ other, Utf8.decode? (Utf8.encode text) = some other ↔
      other = text := by
    intro other
    rw [Utf8.decode?_eq_some_iff.mpr rfl, Option.some.injEq, eq_comm]
  refine ⟨hread, hvalue, ?_, fun c => isControl_of_mem_literal, ?_⟩
  · intro other more hsame
    rw [hsame, readLiteral_literal_append, Option.some.injEq,
      Prod.mk.injEq] at hread
    have hother := Utf8.decode?_eq_some_iff.mpr hread.1.symm
    exact ⟨((hvalue other).mp hother).symm, hread.2.symm⟩
  · apply List.count_eq_zero_of_not_mem
    intro hnewline
    cases isControl_of_mem_literal hnewline

/-- A digit follows a hexadecimal escape, and the text ends in a backslash and
a quote. -/
theorem literal_denotes_text_of_escapes :
    readLiteral ("\"\\x011\\\\\\\"\"".toList ++ ['0', '"']) =
      some ([1, 49, 92, 34], ['0', '"']) := by
  have hliteral : literal ['\x01', '1', '\\', '"'] =
      "\"\\x011\\\\\\\"\"".toList := by decide
  rw [← hliteral]
  exact (literal_denotes_text ['\x01', '1', '\\', '"'] ['0', '"']).1

end Go
end Stencil
