/-!
# Splitting at separators

A list with `n` separators has `n + 1` pieces, some of them possibly empty.
Lines, words and the components of a path are all read off such pieces.
-/

namespace Stencil

variable {α : Type}

/-- The pieces of a list between the elements that a test marks as separators,
empty pieces included. -/
def splitWhere (isSeparator : α → Bool) : List α → List (List α)
  | [] => [[]]
  | a :: rest =>
      if isSeparator a then [] :: splitWhere isSeparator rest
      else
        match splitWhere isSeparator rest with
        | [] => [[a]]
        | piece :: pieces => (a :: piece) :: pieces

theorem length_splitWhere (isSeparator : α → Bool) (list : List α) :
    (splitWhere isSeparator list).length = list.countP isSeparator + 1 := by
  induction list with
  | nil => rfl
  | cons a rest ih =>
      by_cases ha : isSeparator a
      · simp [splitWhere, ha, ih]
      · cases hpieces : splitWhere isSeparator rest with
        | nil => simp [hpieces] at ih
        | cons piece pieces => simp_all [splitWhere]

/-- The pieces around an element give the list back. -/
theorem eq_append_of_splitWhere [BEq α] [LawfulBEq α] {a : α}
    {list piece : List α} {pieces : List (List α)}
    (hpieces : splitWhere (· == a) list = piece :: pieces) :
    list = piece ++ pieces.flatMap (a :: ·) := by
  induction list generalizing piece pieces with
  | nil =>
      cases hpieces
      rfl
  | cons b list ih =>
      cases hlist : splitWhere (· == a) list with
      | nil =>
          have hlength := length_splitWhere (· == a) list
          simp [hlist] at hlength
      | cons first later =>
          have hrest := ih hlist
          by_cases hb : (b == a) = true
          · rw [splitWhere, if_pos hb, hlist] at hpieces
            obtain ⟨rfl, rfl⟩ := List.cons.inj hpieces
            rw [eq_of_beq hb, hrest]
            simp
          · rw [splitWhere, if_neg hb, hlist] at hpieces
            obtain ⟨rfl, rfl⟩ := List.cons.inj hpieces
            rw [hrest, List.cons_append]

end Stencil
