import Mathlib.Data.List.SplitBy
import Stencil.Proofs.ImportGrammar
import Stencil.Proofs.UppercaseLetters
import Stencil.Template.Basic

/-!
# Names of templates

The name of a template is read off its file name in one pass that remembers
only whether a word has begun.  Here it is compared with the words themselves:
the longest runs of letters and digits, each with its first character in upper
case.  What stands between two words, or before and behind all of them, does
not matter to the name.

The pass drops every other character of the file name, but it looks at a
character before its case is changed.  So a name may hold combining marks
after all, and it does exactly if a word starts with one of the letters that
have no capital of their own.
-/

namespace Stencil
namespace Template

/-! ## Words -/

/-- The longest runs of letters and digits. -/
def nameWords (text : Text) : List Text :=
  (text.splitBy fun c next => isNameCharacter c &&
    isNameCharacter next).filter
    (·.all isNameCharacter)

/-- A word with its first character in upper case. -/
def capitalize : Text → Text
  | [] => []
  | c :: word => Text.uppercase c ++ word

theorem nameWords_append {before after : Text}
    (hseam : (∀ c ∈ before.getLast?, isNameCharacter c = false) ∨
      ∀ c ∈ after.head?, isNameCharacter c = false) :
    nameWords (before ++ after) = nameWords before ++ nameWords after := by
  unfold nameWords
  rw [List.splitBy_append, List.filter_append]
  intro c hc next hnext
  rcases hseam with hbefore | hafter
  · simp [hbefore c hc]
  · simp [hafter next hnext]

theorem nameWords_word {word : Text} (hne : word ≠ [])
    (hword : ∀ c ∈ word, isNameCharacter c = true) :
    nameWords word = [word] := by
  have hpairwise : word.Pairwise fun c next =>
      (isNameCharacter c && isNameCharacter next) = true := by
    apply List.pairwise_of_forall_mem_list
    intro c hc next hnext
    rw [hword c hc, hword next hnext]
    rfl
  rw [nameWords, List.splitBy_of_isChain hne hpairwise.isChain]
  simpa using hword

theorem nameWords_gap {gap : Text}
    (hgap : ∀ c ∈ gap, isNameCharacter c = false) :
    nameWords gap = [] := by
  induction gap with
  | nil => rfl
  | cons c gap ih =>
      rw [List.forall_mem_cons] at hgap
      have hsplit := @nameWords_append [c] gap (.inl (by simpa using hgap.1))
      have halone : nameWords [c] = [] := by
        rw [nameWords,
          List.splitBy_of_isChain (List.cons_ne_nil c []) (.singleton c)]
        simp [hgap.1]
      rw [List.singleton_append] at hsplit
      rw [hsplit, halone, ih hgap.2, List.append_nil]

theorem nameWords_gap_append {gap : Text}
    (hgap : ∀ c ∈ gap, isNameCharacter c = false) (after : Text) :
    nameWords (gap ++ after) = nameWords after := by
  rw [nameWords_append, nameWords_gap hgap, List.nil_append]
  left
  intro c hc
  exact hgap c (List.mem_of_mem_getLast? hc)

theorem nameWords_append_gap {gap : Text}
    (hgap : ∀ c ∈ gap, isNameCharacter c = false) (before : Text) :
    nameWords (before ++ gap) = nameWords before := by
  rw [nameWords_append, nameWords_gap hgap, List.append_nil]
  right
  intro c hc
  exact hgap c (List.mem_of_mem_head? hc)

theorem nameWords_around {gap : Text}
    (hgap : ∀ c ∈ gap, isNameCharacter c = false) (hne : gap ≠ [])
    (before after : Text) :
    nameWords (before ++ gap ++ after) =
      nameWords before ++ nameWords after := by
  rw [nameWords_append, nameWords_append_gap hgap]
  left
  intro c hc
  rw [List.getLast?_append_of_ne_nil _ hne] at hc
  exact hgap c (List.mem_of_mem_getLast? hc)

/-! ## One pass -/

theorem capitalizeFrom_false (text : Text) :
    capitalizeFrom false text =
      text.takeWhile isNameCharacter ++
        capitalizeFrom true (text.dropWhile isNameCharacter) := by
  induction text with
  | nil => rfl
  | cons c text ih =>
      by_cases hc : isNameCharacter c = true
      · rw [List.takeWhile_cons_of_pos hc, List.dropWhile_cons_of_pos hc,
          capitalizeFrom, if_pos hc, ih]
        rfl
      · rw [List.takeWhile_cons_of_neg hc, List.dropWhile_cons_of_neg hc,
          capitalizeFrom, capitalizeFrom, if_neg hc, if_neg hc,
          List.nil_append]

theorem capitalizeFrom_true (text : Text) :
    capitalizeFrom true text = (nameWords text).flatMap capitalize := by
  -- The induction is on the length, since a word is read as a whole.
  induction hlength : text.length using Nat.strongRecOn generalizing text with
  | _ length ih =>
      subst hlength
      cases text with
      | nil => rfl
      | cons c text =>
          by_cases hc : isNameCharacter c = true
          · have hword : ∀ d ∈ c :: text.takeWhile isNameCharacter,
                isNameCharacter d = true := by
              rw [List.forall_mem_cons]
              exact ⟨hc, fun d hd => List.mem_takeWhile_imp hd⟩
            have hparts : c :: text = (c :: text.takeWhile isNameCharacter) ++
                text.dropWhile isNameCharacter := by
              rw [List.cons_append, List.takeWhile_append_dropWhile]
            have hshorter :
                (text.dropWhile isNameCharacter).length <
                  (c :: text).length :=
              Nat.lt_succ_of_le
                (List.dropWhile_sublist isNameCharacter).length_le
            have hwords :
                nameWords (c :: text) =
                  (c :: text.takeWhile isNameCharacter) ::
                nameWords (text.dropWhile isNameCharacter) := by
              rw [hparts,
                nameWords_append
                  (.inr (Text.head_dropWhile isNameCharacter text)),
                  nameWords_word (List.cons_ne_nil _ _) hword,
                  List.singleton_append]
            rw [capitalizeFrom, if_pos hc, if_pos rfl, capitalizeFrom_false,
              ih _ hshorter _ rfl, hwords, List.flatMap_cons, capitalize,
              List.append_assoc]
          · have hgap : ∀ d ∈ [c], isNameCharacter d = false := by
              simpa using hc
            have hwords := nameWords_gap_append hgap text
            rw [List.singleton_append] at hwords
            rw [capitalizeFrom, if_neg hc,
              ih _ (Nat.lt_succ_self _) _ rfl, hwords]

/-! ## File names -/

/-- The part of a file name before its first dot. -/
def IsStem (fileName stem : Text) : Prop :=
  '.' ∉ stem ∧ ∃ rest, fileName = stem ++ rest ∧ ∀ c ∈ rest.head?, c = '.'

theorem IsStem.takeWhile_eq {fileName stem : Text}
    (hstem : IsStem fileName stem) :
    fileName.takeWhile (· ≠ '.') = stem := by
  obtain ⟨hdot, rest, rfl, hrest⟩ := hstem
  apply Text.takeWhile_run
  · intro c hc
    simpa using ne_of_mem_of_not_mem hc hdot
  · intro c hc
    simpa using hrest c hc

theorem exists_isStem (fileName : Text) : ∃ stem, IsStem fileName stem := by
  refine ⟨fileName.takeWhile (· ≠ '.'), ?_, fileName.dropWhile (· ≠ '.'),
    List.takeWhile_append_dropWhile.symm, ?_⟩
  · intro hmem
    simpa using List.mem_takeWhile_imp hmem
  · intro c hc
    simpa using Text.head_dropWhile (· ≠ '.') fileName c hc

theorem name_eq_of_isStem {template : Template} {stem : Text}
    (hstem : IsStem template.fileName stem) :
    template.name = (nameWords stem).flatMap capitalize := by
  rw [name, hstem.takeWhile_eq, capitalizeFrom_true]

/-- The name of a template consists of the words of its file name up to the
first dot, each with its first character in upper case.  So it stays the same
when what stands between two words is replaced by something else without
letters and digits, and when such characters are added before the first word
or behind the last. -/
theorem name_capitalizes_words (template : Template) :
    (∃ stem, IsStem template.fileName stem ∧
      template.name = (nameWords stem).flatMap capitalize) ∧
    ∀ (other : Template) (before gap replacement after : Text),
      IsStem template.fileName (before ++ gap ++ after) →
      IsStem other.fileName (before ++ replacement ++ after) →
      (∀ c ∈ gap, isNameCharacter c = false) →
      (∀ c ∈ replacement, isNameCharacter c = false) →
      (gap ≠ [] ∧ replacement ≠ [] ∨ before = [] ∨ after = []) →
        other.name = template.name := by
  constructor
  · obtain ⟨stem, hstem⟩ := exists_isStem template.fileName
    exact ⟨stem, hstem, name_eq_of_isStem hstem⟩
  · intro other before gap replacement after hstem hother hgap
      hreplacement hplace
    rw [name_eq_of_isStem hstem, name_eq_of_isStem hother]
    rcases hplace with ⟨hne, hstill⟩ | rfl | rfl
    · rw [nameWords_around hgap hne, nameWords_around hreplacement hstill]
    · rw [List.nil_append, List.nil_append, nameWords_gap_append hgap,
        nameWords_gap_append hreplacement]
    · rw [List.append_nil, List.append_nil, nameWords_append_gap hgap,
        nameWords_append_gap hreplacement]

-- The paths are `v/ßa-1b.x` and `v/ßa_ 1b.y`.
theorem name_capitalizes_words_of_sharp_s :
    let template : Template :=
      ⟨[118, 47, 0xC3, 0x9F, 97, 45, 49, 98, 46, 120], []⟩
    let other : Template :=
      ⟨[118, 47, 0xC3, 0x9F, 97, 95, 32, 49, 98, 46, 121], []⟩
    IsStem template.fileName (['ß', 'a'] ++ ['-'] ++ ['1', 'b']) ∧
      IsStem other.fileName (['ß', 'a'] ++ ['_', ' '] ++ ['1', 'b']) ∧
      template.name = ['S', 'S', 'a', '1', 'b'] ∧
      other.name = ['S', 'S', 'a', '1', 'b'] := by
  intro template other
  have hstem : IsStem template.fileName (['ß', 'a'] ++ ['-'] ++ ['1', 'b']) :=
    ⟨by decide, ['.', 'x'], by decide +kernel, by simp⟩
  have hother :
      IsStem other.fileName (['ß', 'a'] ++ ['_', ' '] ++ ['1', 'b']) :=
    ⟨by decide, ['.', 'y'], by decide +kernel, by simp⟩
  have hname : template.name = ['S', 'S', 'a', '1', 'b'] := by decide +kernel
  have hdash : isNameCharacter '-' = false := by decide +kernel
  have hblank : isNameCharacter '_' = false ∧
      isNameCharacter ' ' = false := by decide +kernel
  have hsame :=
    (name_capitalizes_words template).2 other ['ß', 'a'] ['-'] ['_', ' ']
      ['1', 'b'] hstem hother (by simpa using hdash) (by simpa using hblank)
    (.inl ⟨List.cons_ne_nil _ _, List.cons_ne_nil _ _⟩)
  exact ⟨hstem, hother, hname, hsame.trans hname⟩

/-! ## Characters of a name -/

theorem isNameCharacter_of_mark {c : Char}
    (hc : c.toNat ∈ Text.combiningMarks) :
    isNameCharacter c = false := by
  have hlarge : ∀ mark ∈ Text.combiningMarks, '9'.toNat < mark := by decide
  rw [isNameCharacter, Text.isLetter_of_mark hc, Bool.false_or, Char.isDigit,
    Bool.and_eq_false_iff]
  right
  have hbeyond : ¬ c.val.toNat ≤ '9'.val.toNat :=
    Nat.not_le.mpr (hlarge c.toNat hc)
  simpa [UInt32.le_iff_toNat_le] using hbeyond

theorem uppercase_spells_iff {c : Char} (hc : isNameCharacter c = true) :
    (∀ d ∈ Text.uppercase c, isNameCharacter d = true) ↔
      c.toNat ∉ Text.decomposingLetters := by
  have hmark : c.toNat ∉ Text.combiningMarks := by
    intro hmem
    rw [isNameCharacter_of_mark hmem] at hc
    cases hc
  rw [← Text.exists_mark_uppercase_iff hmark]
  constructor
  · rintro hall ⟨d, hd, hmem⟩
    have hname := hall d hd
    rw [isNameCharacter_of_mark hmem] at hname
    cases hname
  · intro hnone d hd
    rcases Text.mem_uppercase hd with rfl | hletter | hmem
    · exact hc
    · rw [isNameCharacter, hletter, Bool.true_or]
    · exact absurd ⟨d, hd, hmem⟩ hnone

theorem spelled_of_mem_nameWords {text word : Text}
    (hword : word ∈ nameWords text) :
    ∀ c ∈ word, isNameCharacter c = true :=
  List.all_eq_true.mp (List.mem_filter.mp hword).2

theorem capitalize_spells_iff {word : Text}
    (hword : ∀ c ∈ word, isNameCharacter c = true) :
    (∀ c ∈ capitalize word, isNameCharacter c = true) ↔
      ∀ c ∈ word.head?, c.toNat ∉ Text.decomposingLetters := by
  cases word with
  | nil => simp [capitalize]
  | cons c word =>
      rw [List.forall_mem_cons] at hword
      rw [capitalize, List.forall_mem_append, uppercase_spells_iff hword.1]
      simpa using fun _ => hword.2

theorem mem_capitalize {word : Text}
    (hword : ∀ c ∈ word, isNameCharacter c = true) :
    ∀ c ∈ capitalize word, isNameCharacter c = true ∨
      c.toNat ∈ Text.combiningMarks := by
  cases word with
  | nil => simp [capitalize]
  | cons first word =>
      rw [List.forall_mem_cons] at hword
      intro c hc
      rcases List.mem_append.mp hc with hupper | hrest
      · rcases Text.mem_uppercase hupper with rfl | hletter | hmark
        · exact .inl hword.1
        · left
          rw [isNameCharacter, hletter, Bool.true_or]
        · exact .inr hmark
      · exact .inl (hword.2 c hrest)

/-- No word of the text starts with a letter that has no capital of its
own. -/
def HasCapitals (text : Text) : Prop :=
  ∀ word ∈ nameWords text, ∀ c ∈ word.head?, c.toNat ∉ Text.decomposingLetters

theorem name_spells_iff {template : Template} {stem : Text}
    (hstem : IsStem template.fileName stem) :
    (∀ c ∈ template.name, isNameCharacter c = true) ↔ HasCapitals stem := by
  rw [name_eq_of_isStem hstem, HasCapitals]
  constructor
  · intro hall word hword
    apply (capitalize_spells_iff (spelled_of_mem_nameWords hword)).mp
    intro c hc
    exact hall c (List.mem_flatMap.mpr ⟨word, hword, hc⟩)
  · intro hcapitals c hc
    obtain ⟨word, hword, hc⟩ := List.mem_flatMap.mp hc
    exact (capitalize_spells_iff (spelled_of_mem_nameWords hword)).mpr
      (hcapitals word hword) c hc

/-- When the names of the generated functions consist of letters and digits:
exactly if no word of the file name up to its first dot starts with a letter
that has no capital of its own.  Otherwise there are combining marks among
their characters, and nothing else. -/
theorem names_have_only_letters_iff (template : Template) :
    ∃ stem, IsStem template.fileName stem ∧
      ((∀ c ∈ template.name, isNameCharacter c = true) ↔ HasCapitals stem) ∧
      ((∀ c ∈ template.functionName, isNameCharacter c = true) ↔
        HasCapitals stem) ∧
      ((∀ c ∈ template.viewName, isNameCharacter c = true) ↔
        HasCapitals stem) ∧
      ∀ c ∈ template.name, isNameCharacter c = true ∨
      c.toNat ∈ Text.combiningMarks := by
  obtain ⟨stem, hstem⟩ := exists_isStem template.fileName
  have hname := name_spells_iff hstem
  have hsuffix {suffix : Text}
      (hletters : suffix.all isNameCharacter = true) :
      (∀ c ∈ template.name ++ suffix, isNameCharacter c = true) ↔
        HasCapitals stem := by
    rw [List.forall_mem_append, hname]
    exact and_iff_left (List.all_eq_true.mp hletters)
  refine ⟨stem, hstem, hname, hsuffix (by decide +kernel),
    hsuffix (by decide +kernel), ?_⟩
  intro c hc
  rw [name_eq_of_isStem hstem] at hc
  obtain ⟨word, hword, hc⟩ := List.mem_flatMap.mp hc
  exact mem_capitalize (spelled_of_mem_nameWords hword) c hc

/-- The file name `ΐ.egon` is made of letters and a dot, and the name of its
template has two combining marks. -/
theorem name_of_letter_without_capital :
    let template : Template :=
      ⟨[118, 47, 0xCE, 0x90, 46, 101, 103, 111, 110], []⟩
    template.name = ['Ι', '\u0308', '\u0301'] ∧
      ¬ ∀ c ∈ template.name, isNameCharacter c = true := by
  intro template
  have hname : template.name = ['Ι', '\u0308', '\u0301'] := by decide +kernel
  refine ⟨hname, ?_⟩
  intro hall
  have hmark : isNameCharacter '\u0308' = false := by decide +kernel
  rw [hall '\u0308' (by simp [hname])] at hmark
  cases hmark

end Template
end Stencil
