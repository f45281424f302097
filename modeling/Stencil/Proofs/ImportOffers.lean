import Mathlib.Data.List.Induction
import Stencil.Proofs.HeaderErrors

/-!
# Runs of offers to a set of imports

Imports are offered to a set one at a time, in lists, or as a fragment of
text.  Every offer comes down to the imports that it brings, and a fragment
that cannot be read brings none, however many imports stand before the fault.
So a set is determined by the sequence of all imports offered to it: it holds
their first occurrences, in order.
-/

namespace Stencil

/-- First occurrences stand in the order in which the elements first occur.
The induction is on the last element, which is the only one that can be
late. -/
theorem pairwise_idxOf_eraseDups {α : Type} [BEq α] [LawfulBEq α]
    (list : List α) :
    list.eraseDups.Pairwise fun a later =>
      list.idxOf a < list.idxOf later := by
  induction list using List.reverseRecOn with
  | nil => simp
  | append_singleton list last ih =>
      have hearlier : list.eraseDups.Pairwise fun a later =>
          (list ++ [last]).idxOf a < (list ++ [last]).idxOf later := by
        refine ih.imp_of_mem fun ha hlater hlt => ?_
        rwa [List.idxOf_append_of_mem (List.mem_eraseDups.mp ha),
          List.idxOf_append_of_mem (List.mem_eraseDups.mp hlater)]
      by_cases hlast : last ∈ list
      · simpa [List.eraseDups_append, List.cons_removeAll, hlast]
          using hearlier
      · -- A new element is found behind all others, at the length of the
        -- list.
        have hkept :
            (list ++ [last]).eraseDups = list.eraseDups ++ [last] := by
          simp [List.eraseDups_append, List.cons_removeAll,
            List.eraseDups_cons, hlast]
        rw [hkept, List.pairwise_append]
        refine ⟨hearlier, List.pairwise_singleton _ _, ?_⟩
        intro a ha later hlater
        have hmem := List.mem_eraseDups.mp ha
        rw [List.mem_singleton.mp hlater, List.idxOf_append_of_mem hmem,
          List.idxOf_append_of_notMem hlast]
        exact Nat.lt_add_right _ (List.idxOf_lt_length_of_mem hmem)

namespace ImportSet

inductive Offer where
  | insert (spec : ImportSpec)
  | insertAll (specs : List ImportSpec)
  | insertFragment (fragment : Text)
  deriving DecidableEq, Repr

namespace Offer

/-- The set after an offer.  A fragment that is refused leaves it as it is. -/
def apply (set : ImportSet) : Offer → ImportSet
  | insert spec => set.insert spec
  | insertAll specs => set.insertAll specs
  | insertFragment fragment => (set.insertFragment fragment).toOption.getD set

/-- The imports that an offer brings. -/
def specs : Offer → List ImportSpec
  | insert spec => [spec]
  | insertAll specs => specs
  | insertFragment fragment => (Import.ofFragment fragment).toOption.getD []

theorem apply_eq_insertAll (set : ImportSet) (offer : Offer) :
    offer.apply set = set.insertAll offer.specs := by
  cases offer with
  | insert spec => rfl
  | insertAll specs => rfl
  | insertFragment fragment =>
      simp only [apply, specs, ImportSet.insertFragment]
      cases Import.ofFragment fragment with
      | error error => rfl
      | ok specs => rfl

theorem apply_of_refused {fragment : Text} {error : Import.Error}
    (hrefused : Import.ofFragment fragment = .error error) (set : ImportSet) :
    set.insertFragment fragment = .error error ∧
      (insertFragment fragment).apply set = set := by
  have hinsert : set.insertFragment fragment = .error error := by
    rw [ImportSet.insertFragment, hrefused]
    rfl
  refine ⟨hinsert, ?_⟩
  rw [apply, hinsert]
  rfl

end Offer

def run (offers : List Offer) : ImportSet :=
  offers.foldl Offer.apply empty

/-- All imports that offers bring, repetitions included. -/
def offered (offers : List Offer) : List ImportSpec :=
  offers.flatMap Offer.specs

theorem foldl_apply_eq_insertAll (set : ImportSet) (offers : List Offer) :
    offers.foldl Offer.apply set = set.insertAll (offered offers) := by
  induction offers generalizing set with
  | nil => rfl
  | cons offer offers ih =>
      rw [List.foldl_cons, ih, Offer.apply_eq_insertAll, insertAll_insertAll]
      rfl

theorem items_run (offers : List Offer) :
    (run offers).items = (offered offers).eraseDups := by
  rw [run, foldl_apply_eq_insertAll, items_insertAll]
  rfl

theorem mem_items_run {offers : List Offer} {spec : ImportSpec} :
    spec ∈ (run offers).items ↔ spec ∈ offered offers := by
  rw [items_run, List.mem_eraseDups]

/-! ## What a single offer finds -/

section Single

variable {set : ImportSet} {spec other : ImportSpec}

theorem isNew_offer_iff : (set.offer spec).1 = true ↔ spec ∉ set.items := by
  unfold offer
  split
  · rename_i hmem
    simp [hmem]
  · rename_i hnew
    simp [hnew]

theorem insert_of_mem (hmem : spec ∈ set.items) : set.insert spec = set := by
  rw [insert, offer, dif_pos hmem]

theorem insertAll_of_subset {specs : List ImportSpec}
    (hsubset : specs ⊆ set.items) :
    set.insertAll specs = set := by
  induction specs with
  | nil => rfl
  | cons spec specs ih =>
      obtain ⟨hmem, hspecs⟩ := List.cons_subset.mp hsubset
      rw [insertAll, List.foldl_cons, insert_of_mem hmem]
      exact ih hspecs

theorem isNew_offer_insert (hne : other ≠ spec) :
    ((set.insert spec).offer other).1 = (set.offer other).1 := by
  rw [Bool.eq_iff_iff, isNew_offer_iff, isNew_offer_iff, mem_items_insert]
  simp [hne]

end Single

/-- A set of imports is an ordered set in which the first offer counts.  It
holds the imports offered so far, later repetitions left out, in the order of
their first offers, and its size and its answers are about this list.  A
refused fragment and an import that was offered before change nothing.  No
local name and the empty local name make different imports. -/
theorem run_keeps_first_offers (offers : List Offer) :
    (run offers).items = (offered offers).eraseDups ∧
    (run offers).items.Pairwise (fun spec later =>
      (offered offers).idxOf spec < (offered offers).idxOf later) ∧
    (run offers).size = (offered offers).eraseDups.length ∧
    (∀ spec, (run offers).contains spec = true ↔ spec ∈ offered offers) ∧
    (∀ spec, ((run offers).offer spec).1 = true ↔ spec ∉ offered offers) ∧
    (∀ fragment error, Import.ofFragment fragment = .error error →
      (run offers).insertFragment fragment = .error error ∧
        (Offer.insertFragment fragment).apply (run offers) = run offers) ∧
    (∀ specs, specs ⊆ offered offers →
      (run offers).insertAll specs = run offers) ∧
    ∀ path,
      (((run offers).insert ⟨some [], path⟩).offer ⟨none, path⟩).1 =
        ((run offers).offer ⟨none, path⟩).1 ∧
      (((run offers).insert ⟨none, path⟩).offer ⟨some [], path⟩).1 =
        ((run offers).offer ⟨some [], path⟩).1 := by
  refine ⟨items_run offers, ?_, ?_, ?_, ?_, ?_, ?_, ?_⟩
  · rw [items_run]
    exact pairwise_idxOf_eraseDups (offered offers)
  · rw [size, items_run]
  · intro spec
    rw [contains, decide_eq_true_iff, mem_items_run]
  · intro spec
    rw [isNew_offer_iff, mem_items_run]
  · intro fragment error hrefused
    exact Offer.apply_of_refused hrefused (run offers)
  · intro specs hsubset
    exact insertAll_of_subset fun spec hspec =>
      mem_items_run.mpr (hsubset hspec)
  · intro path
    exact ⟨isNew_offer_insert (by simp), isNew_offer_insert (by simp)⟩

/-- An import comes back under the empty local name and once more as it was.
The fragment starts with an import that can be read, and it is refused for the
comment behind it. -/
theorem run_keeps_first_offers_of_repetition :
    (run [.insert ⟨none, ['a']⟩,
      .insertAll [⟨some [], ['a']⟩, ⟨none, ['a']⟩]]).items =
      [⟨none, ['a']⟩, ⟨some [], ['a']⟩] ∧
    Import.ofFragment ("import".toList ++ ['"', 'b', '"', '/', '*']) =
      .error ⟨1, .unterminatedComment⟩ ∧
    (Offer.insertFragment
      ("import".toList ++ ['"', 'b', '"', '/', '*'])).apply
        (run [.insert ⟨none, ['a']⟩,
          .insertAll [⟨some [], ['a']⟩, ⟨none, ['a']⟩]]) =
      run [.insert ⟨none, ['a']⟩,
        .insertAll [⟨some [], ['a']⟩, ⟨none, ['a']⟩]] ∧
    (run [.insert ⟨none, ['a']⟩,
      .insertAll [⟨some [], ['a']⟩, ⟨none, ['a']⟩]]).insertAll
        [⟨some [], ['a']⟩] =
      run [.insert ⟨none, ['a']⟩,
        .insertAll [⟨some [], ['a']⟩, ⟨none, ['a']⟩]] := by
  have hends : Import.EndsIdentifier ['"', 'b', '"', '/', '*'] := by
    rintro c ⟨⟩
    rfl
  have hspec :
      Import.Spec ['"', 'b', '"', '/', '*'] ⟨none, ['b']⟩ ['/', '*'] :=
    Import.importSpec_eq_ok_iff.mp rfl
  have hskip : Import.skipTrivia ['/', '*'] =
      .error ⟨.unterminatedComment, ['/', '*']⟩ := by
    rw [Import.skipTrivia]
    rfl
  have hstop := Import.declarations_step (.single hends (.none _) hspec)
  rw [Import.declarations_eq ['/', '*'], hskip] at hstop
  have hrefused := Import.ofFragment_eq_error_iff.mpr ⟨_, hstop, rfl⟩
  obtain ⟨hitems, -, -, -, -, hfragment, hagain, -⟩ := run_keeps_first_offers
    [.insert ⟨none, ['a']⟩, .insertAll [⟨some [], ['a']⟩, ⟨none, ['a']⟩]]
  exact ⟨hitems.trans (by decide), hrefused, (hfragment _ _ hrefused).2,
    hagain _ (by decide)⟩

end ImportSet
end Stencil
