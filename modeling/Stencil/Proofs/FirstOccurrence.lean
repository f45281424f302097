import Mathlib.Data.List.Infix
import Stencil.Text.Basic

/-!
# First occurrences of a delimiter

Cutting a text at a delimiter is determined by where the delimiter occurs: the
part before the cut does not contain it, and there is no cut exactly if the
whole text does not contain it.

The converse needs more.  If the part before contains no delimiter, the first
occurrence could still begin inside that part and overlap the delimiter behind
it.  The delimiters of templates have no border, that is, no proper part that
both starts and ends them, and this rules the overlap out.
-/

namespace Stencil
namespace Text

/-- Nothing but the empty text and the delimiter itself both starts and ends
the delimiter. -/
def Unbordered (delimiter : Text) : Prop :=
  ∀ border ∈ delimiter.inits,
    border <:+ delimiter → border = [] ∨ border = delimiter

instance (delimiter : Text) : Decidable delimiter.Unbordered :=
  inferInstanceAs (Decidable (∀ border ∈ delimiter.inits, _))

/-- An occurrence at the head of a text cannot reach from a part without the
delimiter into a part that is empty or starts with it. -/
theorem Unbordered.not_prefix_append
    {delimiter before rest : Text} (hunbordered : delimiter.Unbordered)
    (hbefore : before ≠ []) (hnot : ¬ delimiter <:+: before)
    (hrest : rest = [] ∨ delimiter <+: rest) :
    ¬ delimiter <+: before ++ rest := by
  intro hhead
  rcases List.prefix_or_prefix_of_prefix hhead
    (List.prefix_append before rest) with hinside | hacross
  · exact hnot hinside.isInfix
  · -- What reaches over into the rest both starts and ends the delimiter.
    obtain ⟨border, hborder⟩ := hacross
    have hover : border <+: rest := by
      rw [← hborder] at hhead
      exact (List.prefix_append_right_inj before).mp hhead
    have hstart : border <+: delimiter := by
      rcases hrest with rfl | hrest
      · rw [List.prefix_nil.mp hover]
        exact List.nil_prefix
      · apply List.prefix_of_prefix_length_le hover hrest
        rw [← hborder, List.length_append]
        omega
    have hend : border <:+ delimiter := ⟨before, hborder⟩
    rcases hunbordered border ((List.mem_inits _ _).mpr hstart) hend
      with hnil | hall
    · rw [hnil, List.append_nil] at hborder
      exact hnot (hborder ▸ List.infix_rfl)
    · rw [hall] at hborder
      exact hbefore (List.append_left_eq_self.mp hborder)

theorem cut?_cons_of_not_head
    {delimiter text : Text} {c : Char} (hnot : ¬ delimiter <+: c :: text) :
    cut? delimiter (c :: text) =
      (cut? delimiter text).map fun (before, after) =>
        (c :: before, after) := by
  have hhead : ¬ delimiter.isPrefixOf (c :: text) = true :=
    mt List.isPrefixOf_iff_prefix.mp hnot
  rw [cut?, if_neg hhead]

theorem cut?_cons_of_head
    {delimiter text : Text} {c : Char} (hhead : delimiter <+: c :: text) :
    cut? delimiter (c :: text) =
      some ([], (c :: text).drop delimiter.length) := by
  have hstart : delimiter.isPrefixOf (c :: text) = true :=
    List.isPrefixOf_iff_prefix.mpr hhead
  rw [cut?, if_pos hstart]

theorem cut?_append_self
    {delimiter : Text} (hne : delimiter ≠ []) (after : Text) :
    cut? delimiter (delimiter ++ after) = some ([], after) := by
  cases delimiter with
  | nil => exact absurd rfl hne
  | cons c delimiter => simp [cut?]

theorem cut?_append
    {delimiter before : Text} (hunbordered : delimiter.Unbordered)
    (hne : delimiter ≠ []) (hnot : ¬ delimiter <:+: before) (after : Text) :
    cut? delimiter (before ++ delimiter ++ after) = some (before, after) := by
  induction before with
  | nil => exact cut?_append_self hne after
  | cons c before ih =>
      have htail : ¬ delimiter <:+: before := fun hoccurs =>
        hnot (List.infix_cons hoccurs)
      have hhead : ¬ delimiter <+: c :: (before ++ delimiter ++ after) := by
        rw [List.append_assoc]
        exact hunbordered.not_prefix_append (List.cons_ne_nil c before) hnot
          (.inr (List.prefix_append delimiter after))
      rw [List.cons_append, List.cons_append,
        cut?_cons_of_not_head hhead, ih htail]
      rfl

theorem not_infix_of_cut?
    {delimiter text before after : Text} (hne : delimiter ≠ [])
    (hcut : cut? delimiter text = some (before, after)) :
    ¬ delimiter <:+: before := by
  induction text generalizing before with
  | nil => simp [cut?, hne] at hcut
  | cons c text ih =>
      by_cases hhead : delimiter <+: c :: text
      · rw [cut?_cons_of_head hhead] at hcut
        cases hcut
        intro hoccurs
        exact hne (List.infix_nil.mp hoccurs)
      · rw [cut?_cons_of_not_head hhead, Option.map_eq_some_iff] at hcut
        obtain ⟨⟨inner, rest⟩, hrest, heq⟩ := hcut
        cases heq
        intro hoccurs
        rcases List.infix_cons_iff.mp hoccurs with hstart | htail
        · have htext := eq_append_of_cut? hrest
          apply hhead
          rw [htext, List.append_assoc, ← List.cons_append]
          exact hstart.trans (List.prefix_append _ _)
        · exact ih hrest htail

theorem cut?_eq_some_iff
    {delimiter text before after : Text}
    (hunbordered : delimiter.Unbordered) (hne : delimiter ≠ []) :
    cut? delimiter text = some (before, after) ↔
      text = before ++ delimiter ++ after ∧ ¬ delimiter <:+: before := by
  constructor
  · intro hcut
    exact ⟨eq_append_of_cut? hcut, not_infix_of_cut? hne hcut⟩
  · rintro ⟨rfl, hnot⟩
    exact cut?_append hunbordered hne hnot after

theorem cut?_eq_none_iff {delimiter text : Text} :
    cut? delimiter text = none ↔ ¬ delimiter <:+: text := by
  induction text with
  | nil =>
      rw [List.infix_nil]
      by_cases hempty : delimiter = [] <;> simp [cut?, hempty]
  | cons c text ih =>
      by_cases hhead : delimiter <+: c :: text
      · rw [cut?_cons_of_head hhead]
        simp [hhead.isInfix]
      · rw [cut?_cons_of_not_head hhead, Option.map_eq_none_iff, ih,
          List.infix_cons_iff]
        simp [hhead]

end Text
end Stencil
