/-!
# Texts

A text is a list of characters.  Templates, the code written for them and the
messages about them are texts, and every cut made in one is a cut between two
characters, so no operation here can land inside the encoding of a character.

Two operations carry the rest.  `newlines` is the measure behind every line
number, and it adds up over concatenation.  `cut?` takes a text apart around
the first occurrence of a delimiter: it loses nothing, and it shortens the
text, which is what lets a reader recurse on what stands after the delimiter.
-/

namespace Stencil

/-- A text, as the list of its characters. -/
abbrev Text := List Char

namespace Text

def newlines (text : Text) : Nat :=
  text.count '\n'

@[simp] theorem newlines_nil : newlines [] = 0 := rfl

@[simp] theorem newlines_append (before after : Text) :
    newlines (before ++ after) = newlines before + newlines after :=
  List.count_append

def ofNat (number : Nat) : Text :=
  Nat.toDigits 10 number

/-- The lower case hexadecimal digits of a number, at least `width` of them. -/
def hexadecimal (width number : Nat) : Text :=
  (Nat.toDigits 16 number).leftpad width '0'

/-- The text before the first occurrence of a delimiter and the text after it,
or nothing if the delimiter does not occur. -/
def cut? (delimiter : Text) : Text → Option (Text × Text)
  | [] => if delimiter = [] then some ([], []) else none
  | c :: text =>
      if delimiter.isPrefixOf (c :: text) then
        some ([], (c :: text).drop delimiter.length)
      else
        (cut? delimiter text).map fun (before, after) => (c :: before, after)

theorem eq_append_of_cut? {delimiter text before after : Text}
    (hcut : cut? delimiter text = some (before, after)) :
    text = before ++ delimiter ++ after := by
  induction text generalizing before with
  | nil =>
      by_cases hempty : delimiter = [] <;> simp_all [cut?]
  | cons c text ih =>
      by_cases hhead : delimiter.isPrefixOf (c :: text)
      · simp only [cut?, hhead, if_true, Option.some.injEq,
          Prod.mk.injEq] at hcut
        obtain ⟨rfl, rfl⟩ := hcut
        obtain ⟨after, hafter⟩ := List.isPrefixOf_iff_prefix.mp hhead
        simp [← hafter]
      · simp only [cut?, hhead, if_false, Bool.false_eq_true,
          Option.map_eq_some_iff] at hcut
        obtain ⟨⟨rest, after'⟩, hrest, heq⟩ := hcut
        simp only [Prod.mk.injEq] at heq
        obtain ⟨rfl, rfl⟩ := heq
        simp [ih hrest]

theorem length_of_cut? {delimiter text before after : Text}
    (hcut : cut? delimiter text = some (before, after)) :
    text.length = before.length + delimiter.length + after.length := by
  rw [eq_append_of_cut? hcut]
  simp [Nat.add_assoc]

/-- Texts put one after another, with a separator between neighbours. -/
def join (separator : Text) (texts : List Text) : Text :=
  (texts.intersperse separator).flatten

end Text

end Stencil
