import Stencil.Import.Fragment

/-!
# Sets of imports

A set of imports keeps them in the order in which they were first offered.
The order is what the import block of the generated file shows, and that
no import occurs twice is part of the type.
-/

namespace Stencil

/-- Imports in the order of first offer, without repetition. -/
structure ImportSet where
  items : List ImportSpec
  nodup : items.Nodup

namespace ImportSet

def empty : ImportSet :=
  ⟨[], List.nodup_nil⟩

def contains (set : ImportSet) (spec : ImportSpec) : Bool :=
  spec ∈ set.items

def size (set : ImportSet) : Nat :=
  set.items.length

/-- Whether an import is new to the set, and the set with it. -/
def offer (set : ImportSet) (spec : ImportSpec) : Bool × ImportSet :=
  if hmem : spec ∈ set.items then (false, set)
  else
    (true, {
      items := set.items ++ [spec]
      nodup := by
        rw [List.nodup_append]
        refine ⟨set.nodup, by simp, ?_⟩
        intro a ha b hb
        rw [List.mem_singleton] at hb
        rintro rfl
        exact hmem (hb ▸ ha) })

def insert (set : ImportSet) (spec : ImportSpec) : ImportSet :=
  (set.offer spec).2

theorem items_insert (set : ImportSet) (spec : ImportSpec) :
    (set.insert spec).items =
      if spec ∈ set.items then set.items else set.items ++ [spec] := by
  unfold insert offer
  split <;> rfl

theorem mem_items_insert {set : ImportSet} {spec other : ImportSpec} :
    other ∈ (set.insert spec).items ↔ other ∈ set.items ∨ other = spec := by
  rw [items_insert]
  split
  · rename_i hmem
    constructor
    · exact .inl
    · rintro (hother | rfl)
      · exact hother
      · exact hmem
  · simp

def insertAll (set : ImportSet) (specs : List ImportSpec) : ImportSet :=
  specs.foldl insert set

theorem eraseDups_eq_self {specs : List ImportSpec} (hnodup : specs.Nodup) :
    specs.eraseDups = specs := by
  induction specs with
  | nil => rfl
  | cons spec specs ih =>
      obtain ⟨hnew, htail⟩ := List.nodup_cons.mp hnodup
      have hothers : specs.filter (fun other => !other == spec) = specs := by
        rw [List.filter_eq_self]
        intro other hother
        have hne : other ≠ spec := fun heq => hnew (heq ▸ hother)
        simpa using hne
      rw [List.eraseDups_cons, hothers, ih htail]

theorem insertAll_insertAll (set : ImportSet) (specs more : List ImportSpec) :
    (set.insertAll specs).insertAll more = set.insertAll (specs ++ more) :=
  List.foldl_append.symm

theorem items_insertAll (set : ImportSet) (specs : List ImportSpec) :
    (set.insertAll specs).items = (set.items ++ specs).eraseDups := by
  induction specs generalizing set with
  | nil =>
      rw [List.append_nil, eraseDups_eq_self set.nodup]
      rfl
  | cons spec specs ih =>
      have hstep : (set.insertAll (spec :: specs)).items =
          ((set.insert spec).items ++ specs).eraseDups := ih (set.insert spec)
      rw [hstep, items_insert]
      split
      · rename_i hmem
        rw [List.eraseDups_append, List.eraseDups_append, List.cons_removeAll]
        simp [hmem]
      · rw [List.append_assoc, List.singleton_append]

def insertFragment (set : ImportSet) (fragment : Text) :
    Except Import.Error ImportSet :=
  (Import.ofFragment fragment).map set.insertAll

/-- The import declaration for the set, empty if the set is. -/
def block (set : ImportSet) : Text :=
  if set.items = [] then []
  else
    "import (\n".toList ++
      set.items.flatMap (fun spec => '\t' :: spec.spelling ++ ['\n']) ++
      ")\n".toList

end ImportSet
end Stencil
