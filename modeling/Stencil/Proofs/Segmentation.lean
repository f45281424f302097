import Mathlib.Data.List.Chain
import Stencil.Proofs.FirstOccurrence
import Stencil.Proofs.Segments

/-!
# Taking a source apart

Reading the first segment of a source is determined by the spelling.  A
segment is canonical if nothing in it ends it too early or gives it another
kind, and a text has to be followed by a tag or by the end.  Under these two
conditions the first segment of a source is the one that the source is spelled
with, and only under these.

The rest of the module runs this step to the end of the source.  `Run` is the
sequence of steps, and its lemmas say that a run can be read off the spelling,
that what stands behind a run does not disturb it, and that no two texts of a
run are neighbours.
-/

namespace Stencil

namespace Tag

/-- The text behind a sigil does not make another sigil of it. -/
def Admits : Tag → Text → Prop
  | .code, inner => ∀ c ∈ inner.head?, c ∉ ['%', '!', '=', '#']
  | .print, inner => inner.head? ≠ some '='
  | _, _ => True

theorem admits_append_iff {kind : Tag} {inner : Text} (hne : inner ≠ [])
    (rest : Text) :
    kind.Admits (inner ++ rest) ↔ kind.Admits inner := by
  have hhead : (inner ++ rest).head? = inner.head? := by
    cases inner with
    | nil => exact absurd rfl hne
    | cons c inner => rfl
  cases kind <;> simp [Admits, hhead]

theorem ofSigil_sigil_append {kind : Tag} {inner : Text}
    (hadmits : kind.Admits inner) :
    ofSigil (kind.sigil ++ inner) = (kind, inner) := by
  cases kind with
  | code =>
      cases inner with
      | nil => rfl
      | cons c inner =>
          have hc : c ∉ ['%', '!', '=', '#'] := hadmits c rfl
          unfold ofSigil
          split <;> simp_all [sigil]
  | print =>
      cases inner with
      | nil => rfl
      | cons c inner =>
          have hc : c ≠ '=' := fun heq => hadmits (congrArg some heq)
          unfold ofSigil
          split <;> simp_all [sigil]
  | header => rfl
  | parameter => rfl
  | rawPrint => rfl
  | comment => rfl

theorem admits_ofSigil (source : Text) :
    (ofSigil source).1.Admits (ofSigil source).2 := by
  unfold ofSigil
  split
  · trivial
  · trivial
  · trivial
  · rename_i rest hdouble
    cases rest with
    | nil => simp [Admits]
    | cons c rest =>
        intro hhead
        exact hdouble rest (by rw [Option.some.inj hhead])
  · trivial
  · rename_i hheader hparameter _ hprint hcomment
    cases source with
    | nil => simp [Admits]
    | cons c source =>
        rintro d hd hsigil
        cases hd
        simp only [List.mem_cons, List.not_mem_nil, or_false] at hsigil
        rcases hsigil with rfl | rfl | rfl | rfl
        · exact hheader source rfl
        · exact hparameter source rfl
        · exact hprint source rfl
        · exact hcomment source rfl

theorem unbordered_mark : Text.Unbordered mark := by decide

theorem unbordered_closer (kind : Tag) : Text.Unbordered kind.closer := by
  cases kind <;> decide

theorem closer_ne_nil (kind : Tag) : kind.closer ≠ [] := by
  cases kind <;> decide

end Tag

namespace Segment

/-- Nothing in the segment ends it too early or gives it another kind. -/
def Canonical : Segment → Prop
  | .text content => content ≠ [] ∧ ¬ Tag.mark <:+: content
  | .tag kind content =>
      kind.Admits (content ++ kind.closer) ∧ ¬ kind.closer <:+: content

/-- The source behind the segment does not prolong it. -/
def EndsBefore (rest : Text) : Segment → Prop
  | .text _ => rest = [] ∨ Tag.mark <+: rest
  | .tag _ _ => True

/-! ## The first segment -/

theorem textRun_eq_of_cut? (source : Text) :
    textRun source =
      match Text.cut? Tag.mark source with
      | some (before, after) => (before, Tag.mark ++ after)
      | none => (source, []) := by
  induction source with
  | nil => rfl
  | cons c source ih =>
      by_cases hhead : Tag.mark <+: c :: source
      · obtain ⟨after, hafter⟩ := hhead
        rw [← hafter, Text.cut?_append_self (by decide)]
        rfl
      · have hskip : ¬ Tag.mark.isPrefixOf (c :: source) = true :=
          mt List.isPrefixOf_iff_prefix.mp hhead
        rw [textRun, if_neg hskip, ih, Text.cut?_cons_of_not_head hhead]
        cases Text.cut? Tag.mark source <;> rfl

theorem textRun_append_eq {content rest : Text}
    (hnot : ¬ Tag.mark <:+: content) (hrest : rest = [] ∨ Tag.mark <+: rest) :
    textRun (content ++ rest) = (content, rest) := by
  rw [textRun_eq_of_cut?]
  rcases hrest with rfl | ⟨after, rfl⟩
  · rw [List.append_nil, Text.cut?_eq_none_iff.mpr hnot]
  · rw [← List.append_assoc,
      Text.cut?_append Tag.unbordered_mark (by decide) hnot]

theorem textRun_spec (source : Text) :
    ¬ Tag.mark <:+: (textRun source).1 ∧
      ((textRun source).2 = [] ∨ Tag.mark <+: (textRun source).2) := by
  rw [textRun_eq_of_cut?]
  cases hcut : Text.cut? Tag.mark source with
  | none => exact ⟨Text.cut?_eq_none_iff.mp hcut, .inl rfl⟩
  | some parts =>
      exact ⟨Text.not_infix_of_cut? (by decide) hcut,
        .inr (List.prefix_append _ _)⟩

theorem first_mark_append (body : Text) :
    first (Tag.mark ++ body) =
      match Text.cut? (Tag.ofSigil body).1.closer (Tag.ofSigil body).2 with
      | some (content, rest) =>
          .segment (.tag (Tag.ofSigil body).1 content) rest
      | none => .truncated := rfl

theorem first_of_not_mark {source : Text} (hne : source ≠ [])
    (hmark : ¬ Tag.mark <+: source) :
    first source =
      .segment (.text (textRun source).1) (textRun source).2 := by
  unfold first
  split
  · exact absurd rfl hne
  · exact absurd (List.prefix_append Tag.mark _) hmark
  · rfl

theorem first_text_append {content rest : Text}
    (hcanonical : Canonical (.text content))
    (hends : EndsBefore rest (.text content)) :
    first (content ++ rest) = .segment (.text content) rest := by
  obtain ⟨hne, hnot⟩ := hcanonical
  have hmark : ¬ Tag.mark <+: content ++ rest :=
    Tag.unbordered_mark.not_prefix_append hne hnot hends
  rw [first_of_not_mark (by simp [hne]) hmark, textRun_append_eq hnot hends]

theorem first_tag_append {kind : Tag} {content : Text}
    (hcanonical : Canonical (.tag kind content)) (rest : Text) :
    first (spelling (.tag kind content) ++ rest) =
      .segment (.tag kind content) rest := by
  obtain ⟨hadmits, hnot⟩ := hcanonical
  have hinner : kind.Admits (content ++ kind.closer ++ rest) := by
    rw [Tag.admits_append_iff (by simp [Tag.closer_ne_nil])]
    exact hadmits
  have hspelling : spelling (.tag kind content) ++ rest =
      Tag.mark ++ (kind.sigil ++ (content ++ kind.closer ++ rest)) := by
    simp [spelling]
  rw [hspelling, first_mark_append, Tag.ofSigil_sigil_append hinner,
    Text.cut?_append kind.unbordered_closer kind.closer_ne_nil hnot]

/-- The first segment of a source is the one that the source is spelled
with. -/
theorem first_eq_segment_iff {source rest : Text} {segment : Segment} :
    first source = .segment segment rest ↔
      source = segment.spelling ++ rest ∧ segment.Canonical ∧
        segment.EndsBefore rest := by
  constructor
  · intro hfirst
    refine ⟨(first_spelling hfirst).symm, ?_⟩
    by_cases hmark : Tag.mark <+: source
    · obtain ⟨body, rfl⟩ := hmark
      rw [first_mark_append] at hfirst
      split at hfirst
      · rename_i content after hcut
        cases hfirst
        rw [Text.cut?_eq_some_iff (Tag.unbordered_closer _)
            (Tag.closer_ne_nil _)] at hcut
        have hadmits := Tag.admits_ofSigil body
        rw [hcut.1, Tag.admits_append_iff (by simp [Tag.closer_ne_nil])]
          at hadmits
        exact ⟨⟨hadmits, hcut.2⟩, trivial⟩
      · cases hfirst
    · have hne : source ≠ [] := by
        rintro rfl
        cases hfirst
      have htext := first_spelling_ne_nil hfirst
      rw [first_of_not_mark hne hmark] at hfirst
      cases hfirst
      exact ⟨⟨htext, (textRun_spec source).1⟩, (textRun_spec source).2⟩
  · rintro ⟨rfl, hcanonical, hends⟩
    cases segment with
    | text content => exact first_text_append hcanonical hends
    | tag kind content => exact first_tag_append hcanonical rest

theorem first_eq_finished_iff {source : Text} : first source = .finished ↔
    source = [] := by
  constructor
  · intro hfirst
    by_contra hne
    by_cases hmark : Tag.mark <+: source
    · obtain ⟨body, rfl⟩ := hmark
      rw [first_mark_append] at hfirst
      split at hfirst <;> cases hfirst
    · rw [first_of_not_mark hne hmark] at hfirst
      cases hfirst
  · rintro rfl
    rfl

/-- A tag that no closer of its kind follows. -/
def Unclosed (source : Text) : Prop :=
  ∃ (kind : Tag) (inner : Text),
    source = Tag.mark ++ kind.sigil ++ inner ∧ kind.Admits inner ∧
      ¬ kind.closer <:+: inner

theorem first_eq_truncated_iff {source : Text} :
    first source = .truncated ↔ Unclosed source := by
  constructor
  · intro hfirst
    by_cases hmark : Tag.mark <+: source
    · obtain ⟨body, rfl⟩ := hmark
      rw [first_mark_append] at hfirst
      split at hfirst
      · cases hfirst
      · rename_i hcut
        refine ⟨(Tag.ofSigil body).1, (Tag.ofSigil body).2, ?_,
          Tag.admits_ofSigil body, Text.cut?_eq_none_iff.mp hcut⟩
        rw [List.append_assoc, Tag.sigil_append_ofSigil]
    · rw [first_of_not_mark (ne_nil_of_truncated hfirst) hmark] at hfirst
      cases hfirst
  · rintro ⟨kind, inner, rfl, hadmits, hnot⟩
    rw [List.append_assoc, first_mark_append,
      Tag.ofSigil_sigil_append hadmits, Text.cut?_eq_none_iff.mpr hnot]

/-! ## Runs -/

def spell (segments : List Segment) : Text :=
  segments.flatMap spelling

@[simp] theorem spell_nil : spell [] = [] := rfl

@[simp] theorem spell_cons (segment : Segment) (segments : List Segment) :
    spell (segment :: segments) = segment.spelling ++ spell segments :=
  List.flatMap_cons

@[simp] theorem spell_append (segments others : List Segment) :
    spell (segments ++ others) = spell segments ++ spell others :=
  List.flatMap_append

theorem spell_eq_around {segments : List Segment} {index : Nat}
    {segment : Segment} (hsegment : segments[index]? = some segment) :
    spell segments =
      spell (segments.take index) ++
        (segment.spelling ++ spell (segments.drop (index + 1))) := by
  obtain ⟨hindex, hget⟩ := List.getElem?_eq_some_iff.mp hsegment
  rw [← spell_cons, ← spell_append, ← hget, List.getElem_cons_drop,
    List.take_append_drop]

def isText : Segment → Bool
  | .text _ => true
  | .tag _ _ => false

def Separated (segment next : Segment) : Prop :=
  ¬ (segment.isText = true ∧ next.isText = true)

instance (segment next : Segment) : Decidable (segment.Separated next) :=
  inferInstanceAs (Decidable (¬ _))

/-- Reading segment after segment takes the source apart into the segments and
what is left. -/
inductive Run : Text → List Segment → Text → Prop
  | done (source : Text) : Run source [] source
  | step {source rest left : Text} {segment : Segment}
      {segments : List Segment}
      (hfirst : first source = .segment segment rest)
      (hrun : Run rest segments left) :
      Run source (segment :: segments) left

theorem mark_prefix_of_endsBefore {content rest : Text} {segment : Segment}
    {left : Text} (hends : EndsBefore rest (.text content))
    (hfirst : first rest = .segment segment left) :
    Tag.mark <+: rest := by
  rcases hends with rfl | hmark
  · cases hfirst
  · exact hmark

theorem isText_eq_false_of_mark {source rest : Text} {segment : Segment}
    (hmark : Tag.mark <+: source)
    (hfirst : first source = .segment segment rest) :
    segment.isText = false := by
  cases segment with
  | tag kind content => rfl
  | text content =>
      obtain ⟨rfl, hcanonical, hends⟩ := first_eq_segment_iff.mp hfirst
      exact absurd hmark
        (Tag.unbordered_mark.not_prefix_append hcanonical.1
          hcanonical.2 hends)

namespace Run

theorem eq_spell_append {source left : Text} {segments : List Segment}
    (hrun : Run source segments left) : source = spell segments ++ left := by
  induction hrun with
  | done source => rfl
  | step hfirst hrun ih =>
      rw [spell_cons, List.append_assoc, ← ih, first_spelling hfirst]

theorem eq_spell {source : Text} {segments : List Segment}
    (hrun : Run source segments []) : source = spell segments := by
  rw [hrun.eq_spell_append, List.append_nil]

theorem append {source middle left : Text} {segments others : List Segment}
    (hrun : Run source segments middle) (hmore : Run middle others left) :
    Run source (segments ++ others) left := by
  induction hrun with
  | done source => exact hmore
  | step hfirst hrun ih => exact .step hfirst (ih hmore)

theorem canonical {source left : Text} {segments : List Segment}
    (hrun : Run source segments left) :
    ∀ segment ∈ segments, segment.Canonical := by
  induction hrun with
  | done source => simp
  | step hfirst hrun ih =>
      have hhead := (first_eq_segment_iff.mp hfirst).2.1
      simpa using ⟨hhead, ih⟩

theorem separated {source left : Text} {segments : List Segment}
    (hrun : Run source segments left) : segments.IsChain Separated := by
  induction hrun with
  | done source => exact .nil
  | @step source rest left segment segments hfirst hrun ih =>
      cases hrun with
      | done rest => exact .singleton segment
      | @step _ after _ next segments hnext hafter =>
          refine List.isChain_cons_cons.mpr ⟨?_, ih⟩
          rintro ⟨hsegment, htext⟩
          -- Behind a text the source goes on with a mark, and no text starts
          -- with one.
          cases segment with
          | tag kind content => cases hsegment
          | text content =>
              have hends := (first_eq_segment_iff.mp hfirst).2.2
              have hmark := mark_prefix_of_endsBefore hends hnext
              rw [isText_eq_false_of_mark hmark hnext] at htext
              cases htext

theorem append_mark {source left more : Text} {segments : List Segment}
    (hrun : Run source segments left) (hmore : Tag.mark <+: more) :
    Run (source ++ more) segments (left ++ more) := by
  induction hrun with
  | done source => exact .done _
  | @step source rest left segment segments hfirst hrun ih =>
      obtain ⟨rfl, hcanonical, hends⟩ := first_eq_segment_iff.mp hfirst
      refine .step
        (first_eq_segment_iff.mpr ⟨List.append_assoc .., hcanonical, ?_⟩) ih
      cases segment with
      | tag kind content => trivial
      | text content =>
          right
          rcases hends with rfl | hmark
          · exact hmore
          · exact hmark.trans (List.prefix_append rest more)

end Run

theorem run_spell {segments : List Segment}
    (hcanonical : ∀ segment ∈ segments, segment.Canonical)
    (hseparated : segments.IsChain Separated) :
    Run (spell segments) segments [] := by
  induction segments with
  | nil => exact .done []
  | cons segment segments ih =>
      have hrun := ih
        (fun other hother => hcanonical other (List.mem_cons_of_mem _ hother))
        hseparated.tail
      refine .step (first_eq_segment_iff.mpr
        ⟨spell_cons segment segments,
          hcanonical segment List.mem_cons_self, ?_⟩) hrun
      cases segment with
      | tag kind content => trivial
      | text content =>
          cases segments with
          | nil => exact .inl rfl
          | cons next segments =>
              right
              have hnext := (List.isChain_cons_cons.mp hseparated).1
              cases next with
              | text other => exact absurd ⟨rfl, rfl⟩ hnext
              | tag kind other =>
                  refine ⟨kind.sigil ++ other ++ kind.closer ++
                    spell segments, ?_⟩
                  simp [spelling]

theorem Run.without_left {source left : Text} {segments : List Segment}
    (hrun : Run source segments left) : Run (spell segments) segments [] :=
  run_spell hrun.canonical hrun.separated

/-! ## All segments of a source -/

/-- The segments of a source, up to its end or to a tag that is never
closed. -/
def parts (source : Text) : List Segment :=
  match _hfirst : first source with
  | .segment segment rest => segment :: parts rest
  | .finished | .truncated => []
termination_by source.length
decreasing_by exact length_rest_lt _hfirst

theorem parts_of_segment {source rest : Text} {segment : Segment}
    (hfirst : first source = .segment segment rest) :
    parts source = segment :: parts rest := by
  rw [parts]
  split <;> rename_i hother <;> rw [hfirst] at hother <;> cases hother
  rfl

theorem Run.parts_eq_append {source left : Text} {segments : List Segment}
    (hrun : Run source segments left) :
    parts source = segments ++ parts left := by
  induction hrun with
  | done source => rfl
  | step hfirst hrun ih => rw [parts_of_segment hfirst, ih, List.cons_append]

theorem Run.parts_eq {source : Text} {segments : List Segment}
    (hrun : Run source segments []) : parts source = segments := by
  have hnil : parts [] = [] := by
    rw [parts]
    rfl
  rw [hrun.parts_eq_append, hnil, List.append_nil]

end Segment
end Stencil
