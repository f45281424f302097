import Mathlib.Data.List.SplitBy
import Stencil.Proofs.Concatenation
import Stencil.Proofs.Utf8

/-!
# Merging neighbours

Two parts of the library shorten a list in the same way.  Normalisation merges
neighbouring texts of a template, and collapsing merges neighbouring spaces of
a text.  Both look at one neighbour at a time, while what they do is said in
terms of runs: every run of elements that can be merged becomes one element,
and all other elements stay.

The laws hold for every way of merging that is associative.  An element can
then be merged with what a run has already become, so it does not matter in
which order a run is merged, or that a part of the list was merged before.
-/

namespace Stencil

/-- Which elements can be merged with their neighbours, and what two of them
become. -/
structure Merger (α : Type) where
  merges : α → Bool
  join : α → α → α
  merges_join : ∀ a b, merges a = true → merges (join a b) = true
  join_assoc : ∀ a b c, join (join a b) c = join a (join b c)

namespace Merger

variable {α : Type} (merger : Merger α)

def mergesBoth (a b : α) : Bool :=
  merger.merges a && merger.merges b

/-- The list with an element put in front, merged with the head if both can be
merged. -/
def attach (a : α) : List α → List α
  | [] => [a]
  | b :: list =>
      if merger.mergesBoth a b then merger.join a b :: list
      else a :: b :: list

/-- The list with all neighbours merged that can be merged. -/
def merge (list : List α) : List α :=
  list.foldr merger.attach []

/-- The longest runs of elements that can be merged, every other element being
a run by itself. -/
def runs (list : List α) : List (List α) :=
  list.splitBy merger.mergesBoth

/-- A run and the element that it becomes. -/
inductive Becomes : List α → α → Prop
  | alone {a : α} (halone : merger.merges a = false) : Becomes [a] a
  | joined {a : α} {others : List α} (hall : ∀ b ∈ a :: others,
      merger.merges b = true) :
      Becomes (a :: others) (others.foldl merger.join a)

theorem merge_cons (a : α) (list : List α) :
    merger.merge (a :: list) = merger.attach a (merger.merge list) := rfl

theorem mergesBoth_iff {a b : α} :
    merger.mergesBoth a b = true ↔ merger.merges a = true ∧
      merger.merges b = true := by
  simp [mergesBoth]

/-! ## Concatenation -/

theorem attach_attach {a b : α} (hboth : merger.mergesBoth a b = true)
    (list : List α) :
    merger.attach a (merger.attach b list) =
      merger.attach (merger.join a b) list := by
  obtain ⟨ha, hb⟩ := merger.mergesBoth_iff.mp hboth
  have hab := merger.merges_join a b ha
  cases list with
  | nil => simp [attach, hboth]
  | cons c list =>
      by_cases hc : merger.merges c = true
      · have hbc := merger.merges_join b c hb
        simp [attach, mergesBoth, ha, hb, hc, hab, hbc, merger.join_assoc]
      · simp [attach, mergesBoth, ha, hb, hc]

theorem merge_attach_append (a : α) (list others : List α) :
    merger.merge (merger.attach a list ++ others) =
      merger.attach a (merger.merge (list ++ others)) := by
  cases list with
  | nil => rfl
  | cons b list =>
      by_cases hboth : merger.mergesBoth a b = true
      · rw [attach, if_pos hboth, List.cons_append, List.cons_append,
          merge_cons, merge_cons, merger.attach_attach hboth]
      · rw [attach, if_neg hboth]
        rfl

theorem merge_merge_append (list others : List α) :
    merger.merge (merger.merge list ++ others) =
      merger.merge (list ++ others) := by
  induction list with
  | nil => rfl
  | cons a list ih =>
      rw [merge_cons, merge_attach_append, ih, List.cons_append, merge_cons]

theorem merge_merge (list : List α) :
    merger.merge (merger.merge list) = merger.merge list := by
  have hwhole := merger.merge_merge_append list []
  rwa [List.append_nil, List.append_nil] at hwhole

/-- Parts may be merged before the whole. -/
theorem merge_append (list others : List α) :
    merger.merge (list ++ others) =
      merger.merge (merger.merge list ++ merger.merge others) := by
  have hright : merger.merge (list ++ merger.merge others) =
      merger.merge (list ++ others) := by
    unfold merge
    rw [List.foldr_append, List.foldr_append]
    exact congrArg (list.foldr merger.attach) (merger.merge_merge others)
  rw [merge_merge_append, hright]

/-! ## What is left -/

theorem isChain_attach (a : α) {list : List α}
    (hchain : list.IsChain fun b c => merger.mergesBoth b c = false) :
    (merger.attach a list).IsChain fun b c =>
      merger.mergesBoth b c = false := by
  cases list with
  | nil => exact .singleton a
  | cons b list =>
      by_cases hboth : merger.mergesBoth a b = true
      · obtain ⟨ha, hb⟩ := merger.mergesBoth_iff.mp hboth
        have hjoined : ∀ c,
            merger.mergesBoth (merger.join a b) c =
              merger.mergesBoth b c := by
          intro c
          simp [mergesBoth, hb, merger.merges_join a b ha]
        rw [attach, if_pos hboth, List.isChain_cons]
        simpa [hjoined] using List.isChain_cons.mp hchain
      · rw [attach, if_neg hboth]
        exact List.isChain_cons_cons.mpr ⟨by simpa using hboth, hchain⟩

theorem isChain_merge (list : List α) :
    (merger.merge list).IsChain fun a b => merger.mergesBoth a b = false := by
  induction list with
  | nil => exact .nil
  | cons a list ih => exact merger.isChain_attach a ih

theorem filter_attach (a : α) (list : List α) :
    (merger.attach a list).filter (!merger.merges ·) =
      (a :: list).filter (!merger.merges ·) := by
  cases list with
  | nil => rfl
  | cons b list =>
      by_cases hboth : merger.mergesBoth a b = true
      · obtain ⟨ha, hb⟩ := merger.mergesBoth_iff.mp hboth
        simp [attach, hboth, ha, hb, merger.merges_join a b ha]
      · rw [attach, if_neg hboth]

theorem filter_merge (list : List α) :
    (merger.merge list).filter (!merger.merges ·) =
      list.filter (!merger.merges ·) := by
  induction list with
  | nil => rfl
  | cons a list ih =>
      rw [merge_cons, filter_attach, List.filter_cons, List.filter_cons, ih]

/-! ## Runs -/

theorem exists_runs_cons (a : α) (list : List α) :
    ∃ run others, merger.runs (a :: list) = (a :: run) :: others := by
  have hflatten := List.flatten_splitBy merger.mergesBoth (a :: list)
  have hnil := List.nil_notMem_splitBy merger.mergesBoth (a :: list)
  unfold runs
  generalize (a :: list).splitBy merger.mergesBoth = pieces at hflatten hnil ⊢
  match pieces with
  | [] => cases hflatten
  | [] :: others => exact absurd List.mem_cons_self hnil
  | (b :: run) :: others =>
      cases hflatten
      exact ⟨run, others, rfl⟩

theorem runs_cons_of_mergesBoth {a b : α} {list run : List α}
    {others : List (List α)} (hboth : merger.mergesBoth a b = true)
    (hruns : merger.runs (b :: list) = (b :: run) :: others) :
    merger.runs (a :: b :: list) = (a :: b :: run) :: others := by
  obtain ⟨hflatten, hnil, hinside, hbetween⟩ := List.splitBy_eq_iff.mp hruns
  refine List.splitBy_eq_iff.mpr ⟨?_, ?_, ?_, ?_⟩
  · rw [hflatten]
    rfl
  · simpa using hnil
  · rw [List.forall_mem_cons] at hinside ⊢
    exact ⟨List.isChain_cons_cons.mpr ⟨hboth, hinside.1⟩, hinside.2⟩
  · rw [List.isChain_cons] at hbetween ⊢
    simpa using hbetween

theorem runs_cons_of_not_mergesBoth {a b : α}
    (hboth : ¬ merger.mergesBoth a b = true) (list : List α) :
    merger.runs (a :: b :: list) = [a] :: merger.runs (b :: list) :=
  List.splitBy_append_cons (l := [a]) list (by simpa using hboth)

theorem merges_foldl_join {a : α} (ha : merger.merges a = true)
    (list : List α) :
    merger.merges (list.foldl merger.join a) = true := by
  induction list generalizing a with
  | nil => exact ha
  | cons b list ih => exact ih (merger.merges_join a b ha)

theorem foldl_join_join (a b : α) (list : List α) :
    list.foldl merger.join (merger.join a b) =
      merger.join a (list.foldl merger.join b) := by
  induction list generalizing b with
  | nil => rfl
  | cons c list ih =>
      rw [List.foldl_cons, merger.join_assoc, ih, List.foldl_cons]

variable {merger} in
theorem Becomes.merges_eq {a b : α} {run : List α}
    (hrun : merger.Becomes (a :: run) b) :
    merger.merges b = merger.merges a := by
  cases hrun with
  | alone halone => rfl
  | joined hall =>
      have ha := hall a List.mem_cons_self
      rw [ha, merger.merges_foldl_join ha]

variable {merger} in
theorem Becomes.cons {a b c : α} {run : List α}
    (hrun : merger.Becomes (b :: run) c)
    (hboth : merger.mergesBoth a b = true) :
    merger.Becomes (a :: b :: run) (merger.join a c) := by
  obtain ⟨ha, hb⟩ := merger.mergesBoth_iff.mp hboth
  cases hrun with
  | alone halone =>
      rw [hb] at halone
      cases halone
  | joined hall =>
      rw [← merger.foldl_join_join]
      exact .joined (List.forall_mem_cons.mpr ⟨ha, hall⟩)

theorem becomes_singleton (a : α) : merger.Becomes [a] a := by
  cases ha : merger.merges a with
  | false => exact .alone ha
  | true =>
      have hall : ∀ b ∈ [a], merger.merges b = true := by simpa using ha
      exact .joined hall

/-- Merging turns every run into one element. -/
theorem forall₂_merge (list : List α) :
    List.Forall₂ merger.Becomes (merger.runs list) (merger.merge list) := by
  induction list with
  | nil => exact .nil
  | cons a list ih =>
      cases list with
      | nil => exact .cons (merger.becomes_singleton a) .nil
      | cons b list =>
          obtain ⟨run, others, hruns⟩ := merger.exists_runs_cons b list
          rw [hruns] at ih
          rw [merge_cons]
          generalize merger.merge (b :: list) = merged at ih ⊢
          cases ih with
          | @cons _ c _ merged hrun hothers =>
              -- What the first run has become merges as its first element
              -- does.
              have hhead : merger.mergesBoth a c = merger.mergesBoth a b := by
                rw [mergesBoth, hrun.merges_eq, mergesBoth]
              by_cases hboth : merger.mergesBoth a b = true
              · rw [merger.runs_cons_of_mergesBoth hboth hruns, attach,
                  if_pos (hhead.trans hboth)]
                exact .cons (hrun.cons hboth) hothers
              · rw [merger.runs_cons_of_not_mergesBoth hboth, hruns, attach,
                  hhead, if_neg hboth]
                exact .cons (merger.becomes_singleton a) (.cons hrun hothers)

end Merger

/-! ## Texts of a template -/

namespace Block

/-- The content of a text. -/
def content (block : Block) : Text :=
  match block.item with
  | .text content => content
  | _ => []

theorem eq_text_of_isText {block : Block} (htext : block.isText = true) :
    block = ⟨.text block.content, block.position⟩ := by
  obtain ⟨item, position⟩ := block
  cases item with
  | text content => rfl
  | _ => cases htext

def textMerger : Merger Block where
  merges := isText
  join block next := ⟨.text (block.content ++ next.content), block.position⟩
  merges_join _ _ _ := rfl
  join_assoc _ _ _ := by simp [content]

theorem mergeTexts_eq_merge (blocks : List Block) :
    mergeTexts blocks = textMerger.merge blocks := by
  induction blocks with
  | nil => rfl
  | cons block blocks ih =>
      rw [Merger.merge_cons, ← ih]
      cases hmerged : mergeTexts blocks with
      | nil =>
          rw [mergeTexts_cons_of_separated (by simp [hmerged]), hmerged,
            Merger.attach]
      | cons next rest =>
          by_cases hboth : textMerger.mergesBoth block next = true
          · obtain ⟨hblock, hnext⟩ := textMerger.mergesBoth_iff.mp hboth
            rw [Merger.attach, if_pos hboth]
            rw [eq_text_of_isText hnext] at hmerged
            rw [eq_text_of_isText hblock, mergeTexts_cons_of_texts hmerged]
            rfl
          · have hseparated : ∀ other ∈ (mergeTexts blocks).head?,
                block.Separated other := by
              rw [hmerged]
              rintro other ⟨⟩
              exact mt textMerger.mergesBoth_iff.mpr hboth
            rw [mergeTexts_cons_of_separated hseparated, hmerged,
              Merger.attach, if_neg hboth]

/-- A run of blocks and the block that stands for it in a normalised
template. -/
inductive Normalizes : List Block → Block → Prop
  | other {block : Block} (hother : block.isText = false) :
      Normalizes [block] block
  | texts {first : Block} {others : List Block}
      (htexts : ∀ block ∈ first :: others, block.isText = true) :
      Normalizes (first :: others)
        ⟨.text ((first :: others).flatMap Block.content), first.position⟩

theorem foldl_join_texts {first : Block} (hfirst : first.isText = true)
    (others : List Block) :
    others.foldl textMerger.join first =
      ⟨.text ((first :: others).flatMap Block.content), first.position⟩ := by
  induction others generalizing first with
  | nil =>
      rw [List.foldl_nil, List.flatMap_singleton]
      exact eq_text_of_isText hfirst
  | cons next others ih =>
      have hjoined : (textMerger.join first next).content =
          first.content ++ next.content := rfl
      rw [List.foldl_cons, ih rfl, List.flatMap_cons, List.flatMap_cons,
        List.flatMap_cons, hjoined, List.append_assoc]
      rfl

theorem Normalizes.of_becomes {run : List Block} {block : Block}
    (hrun : textMerger.Becomes run block) : Normalizes run block := by
  cases hrun with
  | alone halone => exact .other halone
  | joined hall =>
      rw [foldl_join_texts (hall _ List.mem_cons_self)]
      exact .texts hall

/-- Normalisation is exactly the merging of runs.  Every longest run of texts
becomes one text at the position of the first, every other block stays as it
is, and nothing is added.  Afterwards no two texts are neighbours.  Parts of a
template may be normalised before the whole, so a second time changes
nothing. -/
theorem mergeTexts_merges_runs (blocks others : List Block) :
    List.Forall₂ Normalizes
      (blocks.splitBy fun block next => block.isText && next.isText)
        (mergeTexts blocks) ∧
    (mergeTexts blocks).filter (!·.isText) = blocks.filter (!·.isText) ∧
    (mergeTexts blocks).IsChain Separated ∧
    mergeTexts (blocks ++ others) =
      mergeTexts (mergeTexts blocks ++ mergeTexts others) ∧
    mergeTexts (mergeTexts blocks) = mergeTexts blocks := by
  simp only [mergeTexts_eq_merge]
  refine ⟨?_, textMerger.filter_merge blocks, ?_,
    textMerger.merge_append blocks others, textMerger.merge_merge blocks⟩
  · exact (textMerger.forall₂_merge blocks).imp fun _ _ => .of_becomes
  · refine (textMerger.isChain_merge blocks).imp ?_
    intro block next hapart hboth
    rw [textMerger.mergesBoth_iff.mpr hboth] at hapart
    cases hapart

end Block

/-! ## Spaces of a text -/

namespace Text

def spaceMerger : Merger Char where
  merges c := c == ' '
  join c _ := c
  merges_join _ _ hc := hc
  join_assoc _ _ _ := rfl

/-- Tab, newline, vertical tab, form feed and carriage return. -/
def droppedCharacters : List Char :=
  ['\t', '\n', '\x0b', '\x0c', '\r']

theorem isCollapsed_iff {c : Char} : isCollapsed c = true ↔
    c ∈ droppedCharacters := by
  simp [isCollapsed, droppedCharacters]

theorem attach_of_ne_space {c : Char} (hc : c ≠ ' ') (text : Text) :
    spaceMerger.attach c text = c :: text := by
  cases text with
  | nil => rfl
  | cons d text => simp [Merger.attach, Merger.mergesBoth, spaceMerger, hc]

/-- The flag stands for a space that the text is attached to. -/
theorem attach_space (text : Text) :
    spaceMerger.attach ' ' (collapse text) =
      ' ' :: collapseAfter true text := by
  unfold collapse
  -- A dropped character leaves the flag alone, so the space stays in front of
  -- the rest.
  induction text with
  | nil => rfl
  | cons c text ih =>
      by_cases hdropped : isCollapsed c = true
      · rw [collapseAfter, if_pos hdropped, collapseAfter,
          if_pos hdropped, ih]
      · rw [collapseAfter, if_neg hdropped, collapseAfter, if_neg hdropped]
        by_cases hc : c = ' '
        · simp [hc, Merger.attach, Merger.mergesBoth, spaceMerger]
        · simp [hc, Merger.attach, Merger.mergesBoth, spaceMerger]

theorem collapse_eq_merge (text : Text) :
    collapse text =
      spaceMerger.merge (text.filter (· ∉ droppedCharacters)) := by
  induction text with
  | nil => rfl
  | cons c text ih =>
      by_cases hdropped : isCollapsed c = true
      · have hmem := isCollapsed_iff.mp hdropped
        rw [List.filter_cons_of_neg (by simpa using hmem), ← ih, collapse,
          collapseAfter, if_pos hdropped]
        rfl
      · have hmem := mt isCollapsed_iff.mpr hdropped
        rw [List.filter_cons_of_pos (by simpa using hmem), Merger.merge_cons,
          ← ih, collapse, collapseAfter, if_neg hdropped]
        by_cases hc : c = ' '
        · rw [hc, attach_space]
          rfl
        · rw [if_neg hc, attach_of_ne_space hc]
          rfl

theorem attach_sublist (c : Char) (text : Text) :
    (spaceMerger.attach c text).Sublist (c :: text) := by
  cases text with
  | nil => exact .refl [c]
  | cons d text =>
      by_cases hboth : spaceMerger.mergesBoth c d = true
      · rw [Merger.attach, if_pos hboth]
        exact (List.sublist_cons_self d text).cons_cons c
      · rw [Merger.attach, if_neg hboth]

theorem merge_sublist (text : Text) :
    (spaceMerger.merge text).Sublist text := by
  induction text with
  | nil => exact .refl []
  | cons c text ih => exact (attach_sublist c _).trans (ih.cons_cons c)

theorem collapse_sublist_filter (text : Text) :
    (collapse text).Sublist (text.filter (· ∉ droppedCharacters)) := by
  rw [collapse_eq_merge]
  exact merge_sublist _

theorem notMem_dropped_of_mem_collapse {text : Text} {c : Char}
    (hc : c ∈ collapse text) :
    c ∉ droppedCharacters := by
  have hkept :=
    (List.mem_filter.mp ((collapse_sublist_filter text).subset hc)).2
  simpa using hkept

theorem collapse_eq_merge_of_kept {text : Text}
    (hkept : ∀ c ∈ text, c ∉ droppedCharacters) :
    collapse text = spaceMerger.merge text := by
  rw [collapse_eq_merge, List.filter_eq_self.mpr]
  simpa using hkept

theorem collapse_append (text other : Text) :
    collapse (text ++ other) =
      collapse (collapse text ++ collapse other) := by
  have hkept : ∀ c ∈ collapse text ++ collapse other,
      c ∉ droppedCharacters := by
    intro c hc
    rcases List.mem_append.mp hc with htext | hother
    · exact notMem_dropped_of_mem_collapse htext
    · exact notMem_dropped_of_mem_collapse hother
  rw [collapse_eq_merge_of_kept hkept, collapse_eq_merge, List.filter_append,
    Merger.merge_append, ← collapse_eq_merge, ← collapse_eq_merge]

/-- A run of spaces becomes one space. -/
theorem flatMap_of_becomes {runs : List Text} {text : Text}
    (hruns : List.Forall₂ spaceMerger.Becomes runs text) :
    runs.flatMap (fun run => if ' ' ∈ run then [' '] else run) = text := by
  induction hruns with
  | nil => rfl
  | cons hrun hruns ih =>
      rw [List.flatMap_cons, ih]
      cases hrun with
      | alone halone =>
          have hne := ne_of_beq_false halone
          simp [hne.symm]
      | @joined c others hall =>
          have hc : c = ' ' := eq_of_beq (hall c List.mem_cons_self)
          have hfirst : others.foldl spaceMerger.join c = c :=
            List.foldl_fixed others
          rw [hfirst, hc]
          simp

/-- Collapsing is a stable squeeze.  The characters to be dropped go first,
and then every longest run of spaces becomes one space.  All other characters
stay in their order, so the text never grows, neither in characters nor in
bytes.  Parts of a text may be collapsed before the whole, so a second time
changes nothing. -/
theorem collapse_squeezes_spaces (text other : Text) :
    collapse text =
      ((text.filter (· ∉ droppedCharacters)).splitBy fun c next =>
        c == ' ' && next == ' ').flatMap
        (fun run => if ' ' ∈ run then [' '] else run) ∧
    (collapse text).Sublist text ∧
    (collapse text).filter (· != ' ') =
      text.filter (fun c => c != ' ' && c ∉ droppedCharacters) ∧
    (∀ c ∈ collapse text, c ∉ droppedCharacters) ∧
    ¬ [' ', ' '] <:+: collapse text ∧
    (collapse text).length ≤ text.length ∧
    (Utf8.encode (collapse text)).length ≤ (Utf8.encode text).length ∧
    collapse (text ++ other) = collapse (collapse text ++ collapse other) ∧
    collapse (collapse text) = collapse text := by
  have hsublist : (collapse text).Sublist text :=
    (collapse_sublist_filter text).trans List.filter_sublist
  refine ⟨?_, hsublist, ?_, fun c => notMem_dropped_of_mem_collapse, ?_,
    hsublist.length_le, (hsublist.flatMap _).length_le,
    collapse_append text other, ?_⟩
  · rw [collapse_eq_merge]
    exact (flatMap_of_becomes (spaceMerger.forall₂_merge _)).symm
  · have hothers :=
      spaceMerger.filter_merge (text.filter (· ∉ droppedCharacters))
    rw [← collapse_eq_merge, List.filter_filter] at hothers
    exact hothers
  · rintro ⟨before, after, hspaces⟩
    have hchain :=
      spaceMerger.isChain_merge (text.filter (· ∉ droppedCharacters))
    rw [← collapse_eq_merge, ← hspaces] at hchain
    have hpair := hchain.left_of_append.right_of_append
    simp [Merger.mergesBoth, spaceMerger] at hpair
  · have hself := collapse_append text []
    rw [List.append_nil, show collapse [] = [] from rfl,
      List.append_nil] at hself
    exact hself.symm

-- A dropped character does not end a run of spaces.
example : collapse ['a', ' ', '\n', ' ', 'b'] = ['a', ' ', 'b'] := rfl

end Text

end Stencil
