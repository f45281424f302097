import Mathlib.Data.List.Basic
import Stencil.Proofs.ImportGrammar
import Stencil.Proofs.Utf8Decoding
import Stencil.Text.Letter
import Stencil.Text.Uppercase

/-!
# Upper case of letters

The upper case of a letter need not consist of letters.  A few letters with
accents have no capital of their own, and their upper case is a plain capital
with combining marks behind it.  This module says which letters and which
marks these are, and that every other upper case is made of letters.

The tables are compared range by range, so the comparison is one evaluation
for each table.  A whole run of upper case letters lies in one range of
letters, with one exception that is looked up letter by letter.
-/

namespace Stencil
namespace Text

/-! ## Ranges -/

/-- One range of the table holds all code points from the first to the
last. -/
def CodeRanges.spans (ranges : CodeRanges) (first last : Nat) : Bool :=
  ranges.any fun range => Nat.ble range.1 first && Nat.ble last range.2

theorem CodeRanges.has_of_mem {ranges : CodeRanges} {range : Nat × Nat}
    {code : Nat}
    (hsorted : ranges.Pairwise fun range next => range.1 ≤ next.1)
    (hmem : range ∈ ranges) (hfirst : range.1 ≤ code)
    (hlast : code ≤ range.2) : ranges.has code = true := by
  induction ranges with
  | nil => cases hmem
  | cons head ranges ih =>
      obtain ⟨hhead, hsorted⟩ := List.pairwise_cons.mp hsorted
      rw [CodeRanges.has]
      rcases List.mem_cons.mp hmem with rfl | hmem
      · rw [if_neg (Nat.not_lt.mpr hfirst), if_pos hlast]
      · have hstart : head.1 ≤ code := Nat.le_trans (hhead range hmem) hfirst
        rw [if_neg (Nat.not_lt.mpr hstart), ih hsorted hmem]
        exact ite_self true

theorem letterRanges_sorted : letterRanges.Pairwise fun range next =>
    range.1 ≤ next.1 := by
  have hchain : letterRanges.IsChain fun range next => range.1 ≤ next.1 := by
    decide +kernel
  have htrans : Trans (fun range next : Nat × Nat => range.1 ≤ next.1)
      (fun range next : Nat × Nat => range.1 ≤ next.1)
      (fun range next : Nat × Nat => range.1 ≤ next.1) := ⟨Nat.le_trans⟩
  exact hchain.pairwise

theorem has_of_spans {first last code : Nat}
    (hspans : letterRanges.spans first last = true) (hfirst : first ≤ code)
    (hlast : code ≤ last) : letterRanges.has code = true := by
  obtain ⟨range, hmem, hbounds⟩ := List.any_eq_true.mp hspans
  obtain ⟨hbelow, habove⟩ := Bool.and_eq_true_iff.mp hbounds
  apply CodeRanges.has_of_mem letterRanges_sorted hmem
  · exact Nat.le_trans (Nat.le_of_ble_eq_true hbelow) hfirst
  · exact Nat.le_trans hlast (Nat.le_of_ble_eq_true habove)

theorem toNat_ofNat_of_has {code : Nat}
    (hcode : letterRanges.has code = true) :
    (Char.ofNat code).toNat = code := by
  have htable : letterRanges.all (fun range => Nat.blt range.2 0xD800 ||
      Nat.blt 0xDFFF range.1 && Nat.blt range.2 0x110000) = true := by
    decide +kernel
  obtain ⟨range, hmem, hfirst, hlast⟩ := CodeRanges.exists_range_of_has hcode
  have hrange := List.all_eq_true.mp htable range hmem
  simp only [Bool.or_eq_true, Bool.and_eq_true, Nat.blt_eq] at hrange
  apply Utf8.val_ofNat
  unfold Nat.isValidChar
  omega

theorem isLetter_ofNat {code : Nat} (hcode : letterRanges.has code = true) :
    isLetter (Char.ofNat code) = true := by
  rw [isLetter, toNat_ofNat_of_has hcode, hcode]

/-! ## Upper case -/

/-- The marks that the upper case of a letter may have behind its capital. -/
def combiningMarks : List Nat :=
  [0x300, 0x301, 0x308, 0x30A, 0x30C, 0x313, 0x331, 0x342]

/-- The letters whose upper case has combining marks. -/
def decomposingLetters : List Nat :=
  [0x1F0, 0x390, 0x3B0, 0x1E96, 0x1E97, 0x1E98, 0x1E99, 0x1F50, 0x1F52,
    0x1F54, 0x1F56, 0x1FB6, 0x1FB7, 0x1FC6, 0x1FC7, 0x1FD2, 0x1FD3, 0x1FD6,
    0x1FD7, 0x1FE2, 0x1FE3, 0x1FE4, 0x1FE6, 0x1FE7, 0x1FF6, 0x1FF7]

theorem toNat_ofNat_of_mark {code : Nat} (hcode : code ∈ combiningMarks) :
    (Char.ofNat code).toNat = code := by
  have hsmall : ∀ mark ∈ combiningMarks, mark < 0xD800 := by decide
  exact Utf8.val_ofNat (.inl (hsmall code hcode))

theorem expansion_spec {code : Nat} {codes : List Nat}
    (hmem : (code, codes) ∈ caseExpansions) :
    (∀ part ∈ codes, part ∈ combiningMarks ∨ letterRanges.has part = true) ∧
      ((∃ part ∈ codes, part ∈ combiningMarks) ↔
        code ∈ decomposingLetters) := by
  have htable : caseExpansions.all (fun entry =>
      entry.2.all (fun part => combiningMarks.contains part ||
        letterRanges.spans part part) &&
        (entry.2.any combiningMarks.contains == decomposingLetters.contains
          entry.1)) = true := by
    decide +kernel
  obtain ⟨hparts, hmarks⟩ :=
    Bool.and_eq_true_iff.mp (List.all_eq_true.mp htable _ hmem)
  constructor
  · intro part hpart
    rcases Bool.or_eq_true_iff.mp (List.all_eq_true.mp hparts part hpart) with
      hmark | hletter
    · exact .inl (List.contains_iff_mem.mp hmark)
    · exact .inr (has_of_spans hletter (Nat.le_refl part) (Nat.le_refl part))
  · rw [← List.contains_iff_mem, ← beq_iff_eq.mp hmarks, List.any_eq_true]
    simp only [List.contains_iff_mem]

theorem CaseRun.exists_offset {run : CaseRun} {code image : Nat}
    (himage : run.image? code = some image) :
    ∃ offset, offset ≤ run.last - run.first ∧ offset % run.step = 0 ∧
      image = run.target + offset := by
  unfold CaseRun.image? at himage
  split at himage
  next hrun =>
    obtain ⟨hfirst, hlast, hstep⟩ := hrun
    exact ⟨code - run.first, Nat.sub_le_sub_right hlast _, hstep,
      (Option.some.inj himage).symm⟩
  next => cases himage

theorem has_of_image? {run : CaseRun} {code image : Nat}
    (hmem : run ∈ caseRuns) (himage : run.image? code = some image) :
    letterRanges.has image = true := by
  have htable : caseRuns.all (fun run =>
      letterRanges.spans run.target (run.target + (run.last - run.first)) ||
        (List.range (run.last - run.first + 1)).all fun offset =>
          offset % run.step != 0 ||
            letterRanges.spans (run.target + offset) (run.target + offset)) =
              true := by
    decide +kernel
  obtain ⟨offset, hoffset, hstep, rfl⟩ := CaseRun.exists_offset himage
  -- Only the run from U+1F51 has an image with gaps, as every second code
  -- point there is free.
  rcases Bool.or_eq_true_iff.mp (List.all_eq_true.mp htable run hmem) with
    hwhole | hsingle
  · exact has_of_spans hwhole (Nat.le_add_right _ _)
      (Nat.add_le_add_left hoffset _)
  · have hlookup := List.all_eq_true.mp hsingle offset
      (List.mem_range.mpr (Nat.lt_succ_of_le hoffset))
    rw [hstep, bne_self_eq_false, Bool.false_or] at hlookup
    exact has_of_spans hlookup (Nat.le_refl _) (Nat.le_refl _)

theorem lookup_of_mem_decomposingLetters {code : Nat}
    (hcode : code ∈ decomposingLetters) :
    caseExpansions.lookup code ≠ none := by
  have htable :
      decomposingLetters.all
        (fun code => (caseExpansions.lookup code).isSome) = true := by
    decide +kernel
  exact Option.isSome_iff_ne_none.mp (List.all_eq_true.mp htable code hcode)

theorem uppercase_cases (c : Char) :
    (∃ codes, (c.toNat, codes) ∈ caseExpansions ∧
      uppercase c = codes.map Char.ofNat) ∨
      c.toNat ∉ decomposingLetters ∧
        (uppercase c = [c] ∨
          ∃ code, letterRanges.has code = true ∧
          uppercase c = [Char.ofNat code]) := by
  unfold uppercase
  cases hlookup : caseExpansions.lookup c.toNat with
  | some codes =>
      left
      obtain ⟨before, after, htable, -⟩ := List.lookup_eq_some_iff.mp hlookup
      refine ⟨codes, ?_, rfl⟩
      rw [htable]
      simp
  | none =>
      right
      refine ⟨fun hmem => lookup_of_mem_decomposingLetters hmem hlookup, ?_⟩
      cases hfind : caseRuns.findSome? (·.image? c.toNat) with
      | none => exact .inl rfl
      | some code =>
          obtain ⟨run, hmem, himage⟩ := List.exists_of_findSome?_eq_some hfind
          exact .inr ⟨code, has_of_image? hmem himage, rfl⟩

theorem mem_uppercase {c d : Char} (hd : d ∈ uppercase c) :
    d = c ∨ isLetter d = true ∨ d.toNat ∈ combiningMarks := by
  rcases uppercase_cases c with
    ⟨codes, hmem, hupper⟩ | ⟨-, hupper | ⟨code, hcode, hupper⟩⟩
  · rw [hupper] at hd
    obtain ⟨part, hpart, rfl⟩ := List.mem_map.mp hd
    rcases (expansion_spec hmem).1 part hpart with hmark | hletter
    · rw [toNat_ofNat_of_mark hmark]
      exact .inr (.inr hmark)
    · exact .inr (.inl (isLetter_ofNat hletter))
  · rw [hupper] at hd
    exact .inl (List.mem_singleton.mp hd)
  · rw [hupper] at hd
    rw [List.mem_singleton.mp hd]
    exact .inr (.inl (isLetter_ofNat hcode))

theorem isLetter_of_mark {c : Char} (hc : c.toNat ∈ combiningMarks) :
    isLetter c = false := by
  have htable : ∀ mark ∈ combiningMarks, letterRanges.has mark = false := by
    decide +kernel
  exact htable c.toNat hc

theorem exists_mark_uppercase_iff {c : Char} (hc : c.toNat ∉ combiningMarks) :
    (∃ d ∈ uppercase c, d.toNat ∈ combiningMarks) ↔
      c.toNat ∈ decomposingLetters := by
  rcases uppercase_cases c with
    ⟨codes, hmem, hupper⟩ | ⟨hnone, hupper | ⟨code, hcode, hupper⟩⟩
  · obtain ⟨hparts, hmarks⟩ := expansion_spec hmem
    have hcode : ∀ part ∈ codes, (Char.ofNat part).toNat = part := by
      intro part hpart
      rcases hparts part hpart with hmark | hletter
      · exact toNat_ofNat_of_mark hmark
      · exact toNat_ofNat_of_has hletter
    rw [hupper, ← hmarks]
    constructor
    · rintro ⟨d, hd, hmark⟩
      obtain ⟨part, hpart, rfl⟩ := List.mem_map.mp hd
      rw [hcode part hpart] at hmark
      exact ⟨part, hpart, hmark⟩
    · rintro ⟨part, hpart, hmark⟩
      refine ⟨Char.ofNat part, List.mem_map_of_mem hpart, ?_⟩
      rwa [hcode part hpart]
  · simp [hupper, hnone, hc]
  · have hmark : (Char.ofNat code).toNat ∉ combiningMarks := by
      intro hmem
      have hletter := isLetter_ofNat hcode
      rw [isLetter_of_mark hmem] at hletter
      cases hletter
    simp [hupper, hnone, hmark]

end Text
end Stencil
