import Stencil.Text.Utf8

/-!
# Bytes of a text

An ASCII character is encoded as a single byte, and this byte stands in the
encoding of no other character.  So lines can be counted in the bytes as well
as in the characters.

Decoding keeps a text from vanishing.  A byte that completes no character
leaves one open, and a character that is still open at the end is a damaged
one, so only the empty sequence of bytes has an empty text.
-/

namespace Stencil
namespace Utf8

def newline : UInt8 :=
  0x0A

/-- The offset is one at which a character of the text starts or the text
ends. -/
def IsBoundary (text : Text) (offset : Nat) : Prop :=
  ∃ before after, text = before ++ after ∧ offset = (encode before).length

@[simp] theorem encode_append (before after : Text) :
    encode (before ++ after) = encode before ++ encode after :=
  List.flatMap_append

theorem encode_cons (c : Char) (text : Text) :
    encode (c :: text) = String.utf8EncodeChar c ++ encode text :=
  rfl

theorem length_le_length_encode (text : Text) :
    text.length ≤ (encode text).length := by
  induction text with
  | nil => simp
  | cons c text ih =>
      have hsize := Char.utf8Size_pos c
      rw [encode_cons, List.length_append, String.length_utf8EncodeChar,
        List.length_cons]
      omega

theorem utf8Size_eq_one_iff {c : Char} : c.utf8Size = 1 ↔ c.toNat < 128 :=
  Char.utf8Size_eq_one_iff.trans
    (UInt32.le_iff_toNat_le.trans Nat.lt_succ_iff.symm)

/-- Only the ASCII characters take a single byte. -/
theorem length_encode_eq_iff {text : Text} :
    (encode text).length = text.length ↔ ∀ c ∈ text, c.toNat < 128 := by
  induction text with
  | nil => simp [encode]
  | cons c text ih =>
      have hle := length_le_length_encode text
      have hpos := Char.utf8Size_pos c
      rw [List.forall_mem_cons, ← ih, ← utf8Size_eq_one_iff, encode_cons,
        List.length_append, String.length_utf8EncodeChar, List.length_cons]
      omega

theorem toNat_ofNat_of_lt {number : Nat} (hbyte : number < 256) :
    (UInt8.ofNat number).toNat = number := by
  rw [UInt8.toNat_ofNat']
  exact Nat.mod_eq_of_lt hbyte

/-! ## The bytes of a character -/

/-- An ASCII character is its own byte. -/
theorem encodeCharacter_of_ascii {c : Char} (hc : c.toNat < 128) :
    String.utf8EncodeChar c = [c.toUInt8] :=
  String.utf8EncodeChar_eq_singleton (utf8Size_eq_one_iff.mpr hc)

theorem toNat_toUInt8_of_ascii {c : Char} (hc : c.toNat < 128) :
    c.toUInt8.toNat = c.toNat := by
  have hbyte : c.toUInt8.toNat = c.toNat % 2 ^ 8 := UInt32.toNat_toUInt8 c.val
  rw [hbyte]
  omega

/-- Every other character has a first byte that tells where it starts, and all
of its bytes have the highest bit set. -/
theorem encodeCharacter_of_wide {c : Char} (hc : 128 ≤ c.toNat) :
    ∃ lead more, String.utf8EncodeChar c = lead :: more ∧ 0xC0 ≤ lead.toNat ∧
      ∀ byte ∈ lead :: more, 0x80 ≤ byte.toNat := by
  have hcode : c.val.toNat = c.toNat := rfl
  have hbyte : ∀ number < 256, ∀ bound ≤ number,
      bound ≤ (UInt8.ofNat number).toNat := by
    intro number hnumber bound hbound
    rwa [toNat_ofNat_of_lt hnumber]
  simp only [String.utf8EncodeChar, hcode]
  rw [if_neg (by omega)]
  split
  · refine ⟨_, _, rfl, hbyte _ (by omega) _ (by omega), ?_⟩
    simp only [List.forall_mem_cons, List.not_mem_nil, false_implies,
      implies_true, and_true]
    refine ⟨?_, ?_⟩ <;> exact hbyte _ (by omega) _ (by omega)
  · split
    · refine ⟨_, _, rfl, hbyte _ (by omega) _ (by omega), ?_⟩
      simp only [List.forall_mem_cons, List.not_mem_nil, false_implies,
        implies_true, and_true]
      refine ⟨?_, ?_, ?_⟩ <;> exact hbyte _ (by omega) _ (by omega)
    · refine ⟨_, _, rfl, hbyte _ (by omega) _ (by omega), ?_⟩
      simp only [List.forall_mem_cons, List.not_mem_nil, false_implies,
        implies_true, and_true]
      refine ⟨?_, ?_, ?_, ?_⟩ <;> exact hbyte _ (by omega) _ (by omega)

theorem high_of_mem_encodeCharacter {c : Char} (hc : 128 ≤ c.toNat)
    {byte : UInt8} (hbyte : byte ∈ String.utf8EncodeChar c) :
    0x80 ≤ byte.toNat := by
  obtain ⟨lead, more, hencode, -, hhigh⟩ := encodeCharacter_of_wide hc
  rw [hencode] at hbyte
  exact hhigh byte hbyte

/-- An ASCII byte stands in the encoding of no character but its own. -/
theorem toUInt8_mem_encodeCharacter_iff {c d : Char} (hd : d.toNat < 128) :
    d.toUInt8 ∈ String.utf8EncodeChar c ↔ c = d := by
  constructor
  · intro hmem
    have hbyte := toNat_toUInt8_of_ascii hd
    rcases Nat.lt_or_ge c.toNat 128 with hc | hc
    · rw [encodeCharacter_of_ascii hc, List.mem_singleton] at hmem
      rw [← Char.toNat_inj, ← toNat_toUInt8_of_ascii hc, ← hmem, hbyte]
    · have hhigh := high_of_mem_encodeCharacter hc hmem
      omega
  · rintro rfl
    rw [encodeCharacter_of_ascii hd]
    exact List.mem_singleton_self _

/-! ## Lines -/

theorem count_newline_encode (text : Text) :
    (encode text).count newline = text.newlines := by
  induction text with
  | nil => rfl
  | cons c text ih =>
      rw [encode_cons, List.count_append, ih, Text.newlines, Text.newlines,
        List.count_cons, Nat.add_comm]
      by_cases hc : c = '\n'
      · subst hc
        rfl
      · have hnot : newline ∉ String.utf8EncodeChar c :=
          mt (toUInt8_mem_encodeCharacter_iff (d := '\n') (by decide)).mp hc
        rw [List.count_eq_zero_of_not_mem hnot]
        simp [hc]

/-! ## Decoding -/

/-- A byte completes a character or leaves one open. -/
def Step.Advances (step : Step) : Prop :=
  step.1 ≠ [] ∨ step.2.isSome = true

theorem advances_lead (byte : UInt8) : (lead byte).Advances := by
  unfold Step.Advances lead
  grind

theorem advances_feed (pending : Pending) (byte : UInt8) :
    (pending.feed byte).Advances := by
  unfold Step.Advances Pending.feed
  grind

theorem decodeFrom_ne_nil {open? : Option Pending} {bytes : Bytes}
    (hsome : open?.isSome = true ∨ bytes ≠ []) :
    decodeFrom open? bytes ≠ [] := by
  induction bytes generalizing open? with
  | nil =>
      have hopen : open?.isSome = true := by simpa using hsome
      simp [decodeFrom, hopen]
  | cons byte bytes ih =>
      have hstep : ∀ step : Step, step.Advances →
          step.1 ++ decodeFrom step.2 bytes ≠ [] := by
        intro step hadvances
        rcases hadvances with hdone | hopen
        · simp [hdone]
        · simp [ih (.inl hopen)]
      cases open? with
      | none => exact hstep _ (advances_lead byte)
      | some pending => exact hstep _ (advances_feed pending byte)

theorem decodeLossy_ne_nil {bytes : Bytes} (hne : bytes ≠ []) :
    decodeLossy bytes ≠ [] := by
  simp [decodeLossy, characters, decodeFrom_ne_nil (.inr hne)]

end Utf8
end Stencil
