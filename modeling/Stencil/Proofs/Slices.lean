import Stencil.Proofs.FirstOccurrence
import Stencil.Proofs.Utf8Decoding
import Stencil.Text.Slice

/-!
# Slices of an encoded text

Where a text is put together from parts, the encodings of the parts are slices
of its encoding: the offsets between the parts are boundaries, and the slice
between two of them is there and is the part.

A delimiter of ASCII characters is found in the bytes where it is found in the
text.  Its bytes stand in the encoding of no other character, so an occurrence
cannot start inside a character.
-/

namespace Stencil

theorem Bytes.slice?_append (before content after : Bytes) :
    (before ++ content ++ after).slice? before.length
      (before.length + content.length) = some content := by
  have hbounds : before.length ≤ before.length + content.length ∧
      before.length + content.length ≤
        (before ++ content ++ after).length := by
    simp
  rw [Bytes.slice?, if_pos hbounds]
  simp

namespace Utf8

theorem isBoundary_encode (before after : Text) :
    isBoundary (encode (before ++ after)) (encode before).length = true := by
  unfold isBoundary
  rw [encode_append, List.getElem?_append_right (Nat.le_refl _), Nat.sub_self]
  cases after with
  | nil => simp [encode]
  | cons c after =>
      rcases Nat.lt_or_ge c.toNat 128 with hc | hc
      · simp [encode_cons, encodeCharacter_of_ascii hc,
          toNat_toUInt8_of_ascii hc, hc]
      · obtain ⟨lead, more, hencode, hlead, -⟩ := encodeCharacter_of_wide hc
        simp [encode_cons, hencode, hlead]

theorem slice?_encode (before content after : Text) :
    slice? (encode (before ++ content ++ after)) (encode before).length
      (encode (before ++ content)).length = some content := by
  have hstart := isBoundary_encode before (content ++ after)
  rw [← List.append_assoc] at hstart
  rw [slice?, if_pos ⟨hstart, isBoundary_encode (before ++ content) after⟩,
    encode_append, encode_append, List.length_append, Bytes.slice?_append]
  exact decode?_encode content

/-- A text whose last byte is an ASCII one ends in that character. -/
theorem exists_concat_of_encode {text : Text} {bytes : Bytes} {byte : UInt8}
    (hencode : encode text = bytes ++ [byte]) (hbyte : byte.toNat < 128) :
    ∃ before c, text = before ++ [c] ∧ c.toNat < 128 ∧ byte = c.toUInt8 ∧
      encode before = bytes := by
  rcases List.eq_nil_or_concat text with rfl | ⟨before, c, rfl⟩
  · simp [encode] at hencode
  · rw [List.concat_eq_append, encode_append] at hencode
    have hc : c.toNat < 128 := by
      by_contra hwide
      obtain ⟨lead, more, hcharacter, -, hhigh⟩ :=
        encodeCharacter_of_wide (Nat.le_of_not_lt hwide)
      have hlast := congrArg List.getLast? hencode
      rw [encode_cons, hcharacter] at hlast
      have hmem : byte ∈ lead :: more := by
        apply List.mem_of_getLast?
        simpa [encode, List.getLast?_append] using hlast
      have hbound := hhigh byte hmem
      omega
    rw [encode_cons, encodeCharacter_of_ascii hc] at hencode
    obtain ⟨hbefore, hlast⟩ := List.append_inj' hencode rfl
    refine ⟨before, c, List.concat_eq_append, hc, ?_, hbefore⟩
    exact (List.cons.inj hlast).1.symm

/-! ## Delimiters -/

theorem head?_encode_eq_iff {c : Char} (hc : c.toNat < 128) {text : Text} :
    (encode text).head? = some c.toUInt8 ↔ text.head? = some c := by
  cases text with
  | nil => simp [encode]
  | cons d text =>
      have hpos : 0 < (String.utf8EncodeChar d).length := by
        rw [String.length_utf8EncodeChar]
        exact Char.utf8Size_pos d
      obtain ⟨lead, more, hencode⟩ := List.exists_cons_of_length_pos hpos
      rw [encode_cons, hencode, List.cons_append, List.head?_cons,
        List.head?_cons, Option.some.injEq, Option.some.injEq]
      constructor
      · rintro rfl
        exact (toUInt8_mem_encodeCharacter_iff hc).mp (by simp [hencode])
      · rintro rfl
        rw [encodeCharacter_of_ascii hc] at hencode
        exact (List.cons.inj hencode).1.symm

theorem encode_prefix_iff {delimiter : Text}
    (hascii : ∀ c ∈ delimiter, c.toNat < 128) {text : Text} :
    encode delimiter <+: encode text ↔ delimiter <+: text := by
  constructor
  · intro hbytes
    induction delimiter generalizing text with
    | nil => exact List.nil_prefix
    | cons c delimiter ih =>
        rw [List.forall_mem_cons] at hascii
        rw [encode_cons, encodeCharacter_of_ascii hascii.1] at hbytes
        have hhead : (encode text).head? = some c.toUInt8 := by
          obtain ⟨rest, hrest⟩ := hbytes
          rw [← hrest]
          rfl
        cases text with
        | nil => cases hhead
        | cons d text =>
            cases (head?_encode_eq_iff hascii.1).mp hhead
            rw [encode_cons, encodeCharacter_of_ascii hascii.1,
              List.prefix_append_right_inj] at hbytes
            exact List.cons_prefix_cons.mpr ⟨rfl, ih hascii.2 hbytes⟩
  · rintro ⟨rest, rfl⟩
    rw [encode_append]
    exact List.prefix_append _ _

end Utf8

namespace Bytes

theorem find?_cons_of_not_head {pattern bytes : Bytes} {byte : UInt8}
    (hnot : ¬ pattern <+: byte :: bytes) :
    find? pattern (byte :: bytes) = (find? pattern bytes).map (· + 1) := by
  have hhead : ¬ pattern.isPrefixOf (byte :: bytes) = true :=
    mt List.isPrefixOf_iff_prefix.mp hnot
  rw [find?, if_neg hhead]

/-- No occurrence starts among bytes that lack the first one of the
pattern. -/
theorem find?_append_of_notMem {first : UInt8} {pattern before : Bytes}
    (hnot : first ∉ before) (after : Bytes) :
    find? (first :: pattern) (before ++ after) =
      (find? (first :: pattern) after).map (· + before.length) := by
  induction before with
  | nil => simp
  | cons byte before ih =>
      rw [List.mem_cons, not_or] at hnot
      have hhead : ¬ first :: pattern <+: byte :: (before ++ after) :=
        fun hstarts => hnot.1 (List.cons_prefix_cons.mp hstarts).1
      rw [List.cons_append, find?_cons_of_not_head hhead, ih hnot.2,
        Option.map_map]
      rfl

end Bytes

namespace Utf8

theorem find?_encode_cons_of_not_head {delimiter text : Text} {c : Char}
    (hne : delimiter ≠ []) (hascii : ∀ c ∈ delimiter, c.toNat < 128)
    (hnot : ¬ delimiter <+: c :: text) :
    Bytes.find? (encode delimiter) (encode (c :: text)) =
      (Bytes.find? (encode delimiter) (encode text)).map
        (· + (String.utf8EncodeChar c).length) := by
  rcases Nat.lt_or_ge c.toNat 128 with hc | hc
  · rw [← encode_prefix_iff hascii, encode_cons,
      encodeCharacter_of_ascii hc] at hnot
    rw [encode_cons, encodeCharacter_of_ascii hc]
    exact Bytes.find?_cons_of_not_head hnot
  · obtain ⟨first, others, rfl⟩ := List.exists_cons_of_ne_nil hne
    have hfirst := hascii first List.mem_cons_self
    have hother : first.toUInt8 ∉ String.utf8EncodeChar c := by
      rw [toUInt8_mem_encodeCharacter_iff hfirst]
      rintro rfl
      omega
    rw [encode_cons, encode_cons, encodeCharacter_of_ascii hfirst]
    exact Bytes.find?_append_of_notMem hother _

/-- A delimiter is found in the bytes of a text where it is found in the
text. -/
theorem find?_encode {delimiter : Text} (hne : delimiter ≠ [])
    (hascii : ∀ c ∈ delimiter, c.toNat < 128) (text : Text) :
    Bytes.find? (encode delimiter) (encode text) =
      (Text.cut? delimiter text).map fun parts =>
        (encode parts.1).length := by
  have hbytes : encode delimiter ≠ [] :=
    fun hnil => hne (encode_injective hnil)
  induction text with
  | nil =>
      rw [Text.cut?, if_neg hne]
      exact if_neg hbytes
  | cons c text ih =>
      by_cases hhead : delimiter <+: c :: text
      · have hstarts := (encode_prefix_iff hascii).mpr hhead
        rw [Text.cut?_cons_of_head hhead]
        cases hencode : encode (c :: text) with
        | nil =>
            rw [hencode] at hstarts
            exact absurd (List.prefix_nil.mp hstarts) hbytes
        | cons byte bytes =>
            rw [hencode, ← List.isPrefixOf_iff_prefix] at hstarts
            rw [Bytes.find?, if_pos hstarts]
            rfl
      · rw [find?_encode_cons_of_not_head hne hascii hhead, ih,
          Text.cut?_cons_of_not_head hhead, Option.map_map, Option.map_map]
        congr 1
        funext parts
        simp [encode_cons, Nat.add_comm]

end Utf8
end Stencil
