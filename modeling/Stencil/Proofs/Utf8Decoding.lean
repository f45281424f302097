import Mathlib.Data.List.Basic
import Stencil.Proofs.Utf8

/-!
# Decoding inverts encoding

A byte sequence encodes a text exactly if it is decoded to this text, and then
to no other.  One direction reads the encoding of a character back, byte by
byte.  The other one follows the bytes of the character that is still open:
whatever bytes complete it, in the ranges that are asked for, are together its
encoding.

Damaged bytes never hide an ASCII character, since every byte of a damaged
stretch has its highest bit set.  So a path can be taken apart at its slashes
before it is decoded or afterwards.
-/

namespace Stencil
namespace Utf8

/-- What the characters of a byte sequence are read from.  A character is read
from its encoding, and damage from bytes beyond ASCII. -/
inductive Reads : Bytes → List (Option Char) → Prop
  | nil : Reads [] []
  | character (c : Char) {rest : Bytes} {characters : List (Option Char)}
      (hreads : Reads rest characters) :
      Reads (String.utf8EncodeChar c ++ rest) (some c :: characters)
  | damage {stretch rest : Bytes} {characters : List (Option Char)}
      (hne : stretch ≠ [])
      (hbeyond : ∀ byte ∈ stretch, 0x80 ≤ byte.toNat)
      (hreads : Reads rest characters) :
      Reads (stretch ++ rest) (none :: characters)

/-! ## The character that is still open -/

/-- Any bytes that are owed complete an encoding, if they are in their ranges.
The ranges of all bytes but the next one are the same. -/
def Completes : Nat → Nat → Nat → Nat → Bytes → Prop
  | 0, _, _, bits, seen => String.utf8EncodeChar (Char.ofNat bits) = seen
  | owed + 1, low, high, bits, seen =>
      ∀ byte : UInt8, low ≤ byte.toNat → byte.toNat ≤ high →
        Completes owed 0x80 0xBF (bits * 64 + byte.toNat % 64)
          (seen ++ [byte])

/-- The pending character has been opened by these bytes. -/
structure Pending.OpenedBy (pending : Pending) (seen : Bytes) : Prop where
  ne_nil : seen ≠ []
  beyond : ∀ byte ∈ seen, 0x80 ≤ byte.toNat
  owed : pending.owed ≠ 0
  low : 0x80 ≤ pending.low
  completes :
      Completes pending.owed pending.low pending.high pending.bits seen

def OpenedBy : Option Pending → Bytes → Prop
  | none, seen => seen = []
  | some pending, seen => pending.OpenedBy seen

theorem val_ofNat {code : Nat} (hvalid : code.isValidChar) :
    (Char.ofNat code).val.toNat = code := by
  rw [Char.ofNat, dif_pos hvalid]
  rfl

theorem eq_ofNat_of_toNat {byte : UInt8} {number : Nat}
    (hnumber : number = byte.toNat) :
    UInt8.ofNat number = byte := by
  rw [hnumber, UInt8.ofNat_toNat]

section Lead

variable {byte : UInt8} {low high bits : Nat}

theorem Pending.OpenedBy.ofLead {owed : Nat} (hbyte : 0x80 ≤ byte.toNat)
    (hlow : 0x80 ≤ low)
    (hcompletes : Completes (owed + 1) low high bits [byte]) :
    Pending.OpenedBy ⟨owed + 1, low, high, bits⟩ [byte] :=
  ⟨by simp, by simpa using hbyte, Nat.succ_ne_zero owed, hlow, hcompletes⟩

theorem openedBy_lead_two
    (hlead : 0xC2 ≤ byte.toNat ∧ byte.toNat < 0xE0 ∧
      bits = byte.toNat - 0xC0) :
    Pending.OpenedBy ⟨1, 0x80, 0xBF, bits⟩ [byte] := by
  refine .ofLead (by omega) (by omega) ?_
  intro second hsecond hlimit
  generalize hcode : bits * 64 + second.toNat % 64 = code
  have hvalid : code.isValidChar := .inl (by omega)
  simp only [Completes, String.utf8EncodeChar, val_ofNat hvalid]
  rw [if_neg (by omega), if_pos (by omega),
    eq_ofNat_of_toNat (by omega : _ = byte.toNat),
    eq_ofNat_of_toNat (by omega : _ = second.toNat)]
  rfl

/-- The range of the second byte rules out overlong forms and surrogates. -/
theorem openedBy_lead_three
    (hlead : 0xE0 ≤ byte.toNat ∧ byte.toNat < 0xF0 ∧ bits = byte.toNat - 0xE0)
    (hrange : 0x80 ≤ low ∧ high ≤ 0xBF ∧ (byte.toNat = 0xE0 → 0xA0 ≤ low) ∧
      (byte.toNat = 0xED → high ≤ 0x9F)) :
    Pending.OpenedBy ⟨2, low, high, bits⟩ [byte] := by
  refine .ofLead (by omega) (by omega) ?_
  intro second hsecond hlimit third hthird hend
  generalize hcode :
      (bits * 64 + second.toNat % 64) * 64 + third.toNat % 64 = code
  have hvalid : code.isValidChar := by
    unfold Nat.isValidChar
    omega
  simp only [Completes, String.utf8EncodeChar, val_ofNat hvalid]
  rw [if_neg (by omega), if_neg (by omega), if_pos (by omega),
    eq_ofNat_of_toNat (by omega : _ = byte.toNat),
    eq_ofNat_of_toNat (by omega : _ = second.toNat),
    eq_ofNat_of_toNat (by omega : _ = third.toNat)]
  rfl

/-- The range of the second byte rules out overlong forms and codes that are
too large. -/
theorem openedBy_lead_four
    (hlead : 0xF0 ≤ byte.toNat ∧ byte.toNat ≤ 0xF4 ∧ bits = byte.toNat - 0xF0)
    (hrange : 0x80 ≤ low ∧ high ≤ 0xBF ∧ (byte.toNat = 0xF0 → 0x90 ≤ low) ∧
      (byte.toNat = 0xF4 → high ≤ 0x8F)) :
    Pending.OpenedBy ⟨3, low, high, bits⟩ [byte] := by
  refine .ofLead (by omega) (by omega) ?_
  intro second hsecond hlimit third hthird hend fourth hfourth hstop
  generalize hcode :
      ((bits * 64 + second.toNat % 64) * 64 + third.toNat % 64) * 64 +
    fourth.toNat % 64 = code
  have hvalid : code.isValidChar := by
    unfold Nat.isValidChar
    omega
  simp only [Completes, String.utf8EncodeChar, val_ofNat hvalid]
  rw [if_neg (by omega), if_neg (by omega), if_neg (by omega),
    eq_ofNat_of_toNat (by omega : _ = byte.toNat),
    eq_ofNat_of_toNat (by omega : _ = second.toNat),
    eq_ofNat_of_toNat (by omega : _ = third.toNat),
    eq_ofNat_of_toNat (by omega : _ = fourth.toNat)]
  rfl

end Lead

/-- A step has read these bytes: if what follows is read from the character
that the step leaves open, then all of it is read from these bytes and what
follows. -/
def Step.ReadFrom (step : Step) (seen : Bytes) : Prop :=
  ∀ bytes,
    (∀ still, OpenedBy step.2 still →
      Reads (still ++ bytes) (decodeFrom step.2 bytes)) →
    Reads (seen ++ bytes) (step.1 ++ decodeFrom step.2 bytes)

theorem readFrom_character {c : Char} {seen : Bytes}
    (hseen : String.utf8EncodeChar c = seen) :
    Step.ReadFrom ([some c], none) seen := by
  intro bytes hbytes
  rw [← hseen]
  exact .character c (hbytes [] rfl)

theorem readFrom_open {pending : Pending} {seen : Bytes}
    (hopened : pending.OpenedBy seen) :
    Step.ReadFrom ([], some pending) seen :=
  fun _ hbytes => hbytes seen hopened

theorem readFrom_ite {condition : Prop} [Decidable condition]
    {step other : Step} {seen : Bytes}
    (hstep : condition → step.ReadFrom seen)
    (hother : ¬ condition → other.ReadFrom seen) :
    Step.ReadFrom (if condition then step else other) seen := by
  split
  · exact hstep ‹_›
  · exact hother ‹_›

theorem readFrom_lead (byte : UInt8) : (lead byte).ReadFrom [byte] := by
  have hdamage : 0x80 ≤ byte.toNat → Step.ReadFrom ([none], none) [byte] := by
    intro hbyte bytes hbytes
    exact .damage (by simp) (by simpa using hbyte) (hbytes [] rfl)
  -- One case for each range of leading bytes, in their order.
  unfold lead
  refine readFrom_ite (fun hascii => ?_) fun hbeyond =>
    readFrom_ite (fun hlow => ?_) fun htwo =>
    readFrom_ite (fun hthree => ?_) fun hE0 =>
      readFrom_ite (fun hoverlong => ?_) fun hE1 =>
    readFrom_ite (fun hsurrogate => ?_) fun hED =>
      readFrom_ite (fun hplain => ?_) fun hF0 =>
    readFrom_ite (fun hoverlong => ?_) fun hF1 =>
      readFrom_ite (fun hplain => ?_) fun hF4 =>
    readFrom_ite (fun hlarge => ?_) fun hlast => ?_
  · apply readFrom_character
    have hvalid : byte.toNat.isValidChar := .inl (by omega)
    simp only [String.utf8EncodeChar, val_ofNat hvalid]
    rw [if_pos (by omega), UInt8.ofNat_toNat]
  · exact hdamage (by omega)
  · exact readFrom_open (openedBy_lead_two (by omega))
  · exact readFrom_open (openedBy_lead_three (by omega) (by omega))
  · exact readFrom_open (openedBy_lead_three (by omega) (by omega))
  · exact readFrom_open (openedBy_lead_three (by omega) (by omega))
  · exact readFrom_open (openedBy_lead_four (by omega) (by omega))
  · exact readFrom_open (openedBy_lead_four (by omega) (by omega))
  · exact readFrom_open (openedBy_lead_four (by omega) (by omega))
  · exact hdamage (by omega)

theorem readFrom_feed {pending : Pending} {seen : Bytes}
    (hopened : pending.OpenedBy seen) (byte : UInt8) :
    (pending.feed byte).ReadFrom (seen ++ [byte]) := by
  obtain ⟨hne, hbeyond, howed, hlow, hcompletes⟩ := hopened
  obtain ⟨owed, low, high, bits⟩ := pending
  cases owed with
  | zero => exact absurd rfl howed
  | succ owed =>
      unfold Pending.feed
      simp only at hlow ⊢
      split_ifs with hrange hlast
      · -- The byte is the last one that was owed.
        obtain rfl : owed = 0 := by omega
        exact readFrom_character (hcompletes byte hrange.1 hrange.2)
      · obtain ⟨more, rfl⟩ :=
          Nat.exists_eq_succ_of_ne_zero (fun h : owed = 0 => hlast (by omega))
        apply readFrom_open
        refine ⟨by simp, ?_, Nat.succ_ne_zero more, Nat.le_refl _,
          hcompletes byte hrange.1 hrange.2⟩
        intro other hother
        rcases List.mem_append.mp hother with hold | hnew
        · exact hbeyond other hold
        · rw [List.mem_singleton.mp hnew]
          omega
      · intro bytes hbytes
        rw [List.append_assoc]
        exact .damage hne hbeyond (readFrom_lead byte bytes hbytes)

/-- The induction carries the bytes of the character that is still open. -/
theorem reads_decodeFrom {open? : Option Pending} {seen : Bytes}
    (hopened : OpenedBy open? seen) (bytes : Bytes) :
    Reads (seen ++ bytes) (decodeFrom open? bytes) := by
  induction bytes generalizing open? seen with
  | nil =>
      cases open? with
      | none =>
          obtain rfl : seen = [] := hopened
          exact .nil
      | some pending => exact .damage hopened.ne_nil hopened.beyond .nil
  | cons byte bytes ih =>
      rw [List.append_cons]
      cases open? with
      | none =>
          obtain rfl : seen = [] := hopened
          exact readFrom_lead byte bytes fun still hstill => ih hstill
      | some pending =>
          exact readFrom_feed hopened byte bytes fun still hstill => ih hstill

theorem reads_characters (bytes : Bytes) : Reads bytes (characters bytes) :=
  @reads_decodeFrom none [] rfl bytes

/-! ## Reading an encoding back -/

section Back

variable {low high bits : Nat} {byte : UInt8} (rest : Bytes)

theorem decodeFrom_feed {owed : Nat} (hlow : low ≤ byte.toNat)
    (hhigh : byte.toNat ≤ high) :
    decodeFrom (some ⟨owed + 2, low, high, bits⟩) (byte :: rest) =
      decodeFrom (some ⟨owed + 1, 0x80, 0xBF, bits * 64 + byte.toNat % 64⟩)
        rest := by
  simp [decodeFrom, Pending.feed, hlow, hhigh]

theorem decodeFrom_feed_last {c : Char} (hlow : low ≤ byte.toNat)
    (hhigh : byte.toNat ≤ high)
    (hcode : bits * 64 + byte.toNat % 64 = c.toNat) :
    decodeFrom (some ⟨1, low, high, bits⟩) (byte :: rest) =
      some c :: decodeFrom none rest := by
  simp [decodeFrom, Pending.feed, hlow, hhigh, hcode]

theorem decodeFrom_lead_two (hlow : 0xC2 ≤ byte.toNat)
    (hhigh : byte.toNat < 0xE0) :
    decodeFrom none (byte :: rest) =
      decodeFrom (some ⟨1, 0x80, 0xBF, byte.toNat - 0xC0⟩) rest := by
  have hlead : lead byte = ([], some ⟨1, 0x80, 0xBF, byte.toNat - 0xC0⟩) := by
    unfold lead
    simp only
    rw [if_neg (by omega), if_neg (by omega), if_pos hhigh]
  simp [decodeFrom, hlead]

theorem decodeFrom_lead_three (hlow : 0xE0 ≤ byte.toNat)
    (hhigh : byte.toNat < 0xF0) :
    decodeFrom none (byte :: rest) =
      decodeFrom (some ⟨2, if byte.toNat = 0xE0 then 0xA0 else 0x80,
        if byte.toNat = 0xED then 0x9F else 0xBF,
        byte.toNat - 0xE0⟩) rest := by
  have hlead :
      lead byte = ([], some ⟨2, if byte.toNat = 0xE0 then 0xA0 else 0x80,
      if byte.toNat = 0xED then 0x9F else 0xBF, byte.toNat - 0xE0⟩) := by
    by_cases hfirst : byte.toNat = 0xE0
    · simp only [lead, hfirst]
      rfl
    · by_cases hsurrogate : byte.toNat = 0xED
      · simp only [lead, hsurrogate]
        rfl
      · unfold lead
        simp only
        rw [if_neg (by omega), if_neg (by omega), if_neg (by omega),
          if_neg hfirst, if_neg hsurrogate, if_pos hhigh, if_neg hfirst,
          if_neg hsurrogate]
  simp [decodeFrom, hlead]

theorem decodeFrom_lead_four (hlow : 0xF0 ≤ byte.toNat)
    (hhigh : byte.toNat ≤ 0xF4) :
    decodeFrom none (byte :: rest) =
      decodeFrom (some ⟨3, if byte.toNat = 0xF0 then 0x90 else 0x80,
        if byte.toNat = 0xF4 then 0x8F else 0xBF,
        byte.toNat - 0xF0⟩) rest := by
  have hlead :
      lead byte = ([], some ⟨3, if byte.toNat = 0xF0 then 0x90 else 0x80,
      if byte.toNat = 0xF4 then 0x8F else 0xBF, byte.toNat - 0xF0⟩) := by
    by_cases hfirst : byte.toNat = 0xF0
    · simp only [lead, hfirst]
      rfl
    · by_cases hlast : byte.toNat = 0xF4
      · simp only [lead, hlast]
        rfl
      · unfold lead
        simp only
        rw [if_neg (by omega), if_neg (by omega), if_neg (by omega),
          if_neg (by omega), if_neg (by omega), if_neg (by omega),
          if_neg hfirst, if_pos (by omega), if_neg hfirst, if_neg hlast]
  simp [decodeFrom, hlead]

end Back

theorem decodeFrom_encodeCharacter (c : Char) (rest : Bytes) :
    decodeFrom none (String.utf8EncodeChar c ++ rest) =
      some c :: decodeFrom none rest := by
  have hvalid : c.toNat.isValidChar := c.valid
  unfold Nat.isValidChar at hvalid
  have hcode : c.val.toNat = c.toNat := rfl
  simp only [String.utf8EncodeChar, hcode]
  split_ifs with hone htwo hthree
  · have hlead : lead (UInt8.ofNat c.toNat) = ([some c], none) := by
      unfold lead
      rw [toNat_ofNat_of_lt (by omega)]
      simp only
      rw [if_pos (by omega), Char.ofNat_toNat]
    simp [decodeFrom, hlead]
  · have hfirst : (UInt8.ofNat (c.toNat / 64 % 32 + 192)).toNat =
        c.toNat / 64 + 192 := by
      rw [toNat_ofNat_of_lt (by omega)]
      omega
    have hsecond : (UInt8.ofNat (c.toNat % 64 + 128)).toNat =
        c.toNat % 64 + 128 :=
      toNat_ofNat_of_lt (by omega)
    rw [List.cons_append, List.singleton_append,
      decodeFrom_lead_two _ (by omega) (by omega)]
    exact decodeFrom_feed_last rest (by omega) (by omega) (by omega)
  · have hfirst : (UInt8.ofNat (c.toNat / 4096 % 16 + 224)).toNat =
        c.toNat / 4096 + 224 := by
      rw [toNat_ofNat_of_lt (by omega)]
      omega
    have hsecond : (UInt8.ofNat (c.toNat / 64 % 64 + 128)).toNat =
        c.toNat / 64 % 64 + 128 :=
      toNat_ofNat_of_lt (by omega)
    have hthird : (UInt8.ofNat (c.toNat % 64 + 128)).toNat =
        c.toNat % 64 + 128 :=
      toNat_ofNat_of_lt (by omega)
    rw [List.cons_append, List.cons_append, List.singleton_append,
      decodeFrom_lead_three _ (by omega) (by omega),
      decodeFrom_feed _ (by split_ifs <;> omega) (by split_ifs <;> omega)]
    exact decodeFrom_feed_last rest (by omega) (by omega) (by omega)
  · have hfirst : (UInt8.ofNat (c.toNat / 262144 % 8 + 240)).toNat =
        c.toNat / 262144 + 240 := by
      rw [toNat_ofNat_of_lt (by omega)]
      omega
    have hsecond : (UInt8.ofNat (c.toNat / 4096 % 64 + 128)).toNat =
        c.toNat / 4096 % 64 + 128 :=
      toNat_ofNat_of_lt (by omega)
    have hthird : (UInt8.ofNat (c.toNat / 64 % 64 + 128)).toNat =
        c.toNat / 64 % 64 + 128 :=
      toNat_ofNat_of_lt (by omega)
    have hfourth : (UInt8.ofNat (c.toNat % 64 + 128)).toNat =
        c.toNat % 64 + 128 :=
      toNat_ofNat_of_lt (by omega)
    rw [List.cons_append, List.cons_append, List.cons_append,
      List.singleton_append, decodeFrom_lead_four _ (by omega) (by omega),
      decodeFrom_feed _ (by split_ifs <;> omega) (by split_ifs <;> omega),
      decodeFrom_feed _ (by omega) (by omega)]
    exact decodeFrom_feed_last rest (by omega) (by omega) (by omega)

theorem characters_encode (text : Text) :
    characters (encode text) = text.map some := by
  induction text with
  | nil => rfl
  | cons c text ih =>
      rw [characters, encode_cons, decodeFrom_encodeCharacter]
      exact congrArg (some c :: ·) ih

/-! ## Decoding -/

theorem mapM_id_eq_some_iff {α : Type} {options : List (Option α)}
    {values : List α} :
    options.mapM id = some values ↔ options = values.map some := by
  induction options generalizing values with
  | nil => cases values <;> simp
  | cons option options ih =>
      cases option with
      | none => cases values <;> simp
      | some value =>
          cases values <;> simp [ih, Option.bind_eq_some_iff, and_comm]

theorem Reads.eq_encode {bytes : Bytes} {text : Text}
    (hreads : Reads bytes (text.map some)) :
    bytes = encode text := by
  generalize hcharacters : text.map some = characters at hreads
  induction hreads generalizing text with
  | nil =>
      rw [List.map_eq_nil_iff] at hcharacters
      rw [hcharacters]
      rfl
  | character c hreads ih =>
      obtain ⟨d, later, rfl, hd, hlater⟩ :=
        List.map_eq_cons_iff.mp hcharacters
      cases hd
      rw [ih hlater]
      rfl
  | damage hne hbeyond hreads ih =>
      obtain ⟨d, later, -, hd, -⟩ := List.map_eq_cons_iff.mp hcharacters
      cases hd

/-- The bytes that are decoded to a text are those that encode it. -/
theorem decode?_eq_some_iff {bytes : Bytes} {text : Text} :
    decode? bytes = some text ↔ bytes = encode text := by
  rw [decode?, mapM_id_eq_some_iff]
  constructor
  · intro hcharacters
    have hreads := reads_characters bytes
    rw [hcharacters] at hreads
    exact hreads.eq_encode
  · rintro rfl
    exact characters_encode text

theorem decode?_encode (text : Text) : decode? (encode text) = some text :=
  decode?_eq_some_iff.mpr rfl

theorem encode_injective {text other : Text}
    (hbytes : encode text = encode other) :
    text = other := by
  have htext := decode?_encode text
  rw [hbytes, decode?_encode other] at htext
  exact (Option.some.inj htext).symm

/-! ## ASCII characters in damaged texts -/

/-- No ASCII byte continues an open character. -/
def RefusesAscii (open? : Option Pending) : Prop :=
  ∀ pending ∈ open?, 0x80 ≤ pending.low

theorem refusesAscii_lead (byte : UInt8) : RefusesAscii (lead byte).2 := by
  unfold RefusesAscii lead
  grind

theorem refusesAscii_feed (pending : Pending) (byte : UInt8) :
    RefusesAscii (pending.feed byte).2 := by
  have hlead := refusesAscii_lead byte
  unfold RefusesAscii Pending.feed at *
  grind

theorem decodeFrom_append_ascii {open? : Option Pending}
    (hopen : RefusesAscii open?) {byte : UInt8} (hascii : byte.toNat < 0x80)
    (before after : Bytes) :
    decodeFrom open? (before ++ byte :: after) =
      decodeFrom open? before ++ some (Char.ofNat byte.toNat) ::
        decodeFrom none after := by
  induction before generalizing open? with
  | nil =>
      have hlead : lead byte = ([some (Char.ofNat byte.toNat)], none) := by
        simp [lead, hascii]
      cases open? with
      | none => simp [decodeFrom, hlead]
      | some pending =>
          have hlow : 0x80 ≤ pending.low := hopen pending rfl
          have hrange :
              ¬ (pending.low ≤ byte.toNat ∧ byte.toNat ≤ pending.high) := by
            omega
          simp [decodeFrom, Pending.feed, hrange, hlead]
  | cons other before ih =>
      cases open? with
      | none =>
          rw [List.cons_append, decodeFrom, decodeFrom,
            ih (refusesAscii_lead other), List.append_assoc]
      | some pending =>
          rw [List.cons_append, decodeFrom, decodeFrom,
            ih (refusesAscii_feed pending other), List.append_assoc]

theorem decodeLossy_append_ascii {byte : UInt8} (hascii : byte.toNat < 0x80)
    (before after : Bytes) :
    decodeLossy (before ++ byte :: after) =
      decodeLossy before ++ Char.ofNat byte.toNat :: decodeLossy after := by
  have hnone : RefusesAscii none := by simp [RefusesAscii]
  simp [decodeLossy, characters, decodeFrom_append_ascii hnone hascii]

theorem Reads.encode_subset {bytes : Bytes} {characters : List (Option Char)}
    (hreads : Reads bytes characters) {c : Char} (hc : some c ∈ characters) :
    String.utf8EncodeChar c ⊆ bytes := by
  induction hreads with
  | nil => cases hc
  | character d hreads ih =>
      rcases List.mem_cons.mp hc with hhead | htail
      · cases hhead
        exact List.subset_append_left _ _
      · exact List.subset_append_of_subset_right _ (ih htail)
  | damage hne hbeyond hreads ih =>
      rcases List.mem_cons.mp hc with hhead | htail
      · cases hhead
      · exact List.subset_append_of_subset_right _ (ih htail)

/-- What stands for damage aside, a decoded character is encoded in the
bytes. -/
theorem encode_subset_of_mem_decodeLossy {bytes : Bytes} {c : Char}
    (hc : c ∈ decodeLossy bytes) (hwhole : c ≠ '�') :
    String.utf8EncodeChar c ⊆ bytes := by
  obtain ⟨character, hmem, rfl⟩ := List.mem_map.mp hc
  cases character with
  | none => exact absurd rfl hwhole
  | some d => exact (reads_characters bytes).encode_subset hmem

theorem decodeLossy_eq_iff {bytes : Bytes} {text : Text}
    (hwhole : '�' ∉ text) :
    decodeLossy bytes = text ↔ bytes = encode text := by
  constructor
  · rintro rfl
    have hcharacters : characters bytes = (decodeLossy bytes).map some := by
      rw [decodeLossy, List.map_map]
      refine (List.map_id _).symm.trans
        (List.map_congr_left fun character hmem => ?_)
      cases character with
      | none => exact absurd (List.mem_map_of_mem hmem) hwhole
      | some c => rfl
    have hreads := reads_characters bytes
    rw [hcharacters] at hreads
    exact hreads.eq_encode
  · rintro rfl
    rw [decodeLossy, characters_encode, List.map_map]
    exact List.map_id text

end Utf8
end Stencil
