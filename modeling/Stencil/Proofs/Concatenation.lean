import Stencil.Proofs.Scanning

/-!
# Sources put one behind the other

Parsing a concatenation gives the blocks of the two parts, those of the second
part moved down by the lines of the first.  The first part must parse on its
own, so it ends in a text or with a whole tag, and a whole tag closes where it
did before, whatever follows it.

Only the seam needs care.  If the first part ends in a text and the second
part starts with one, the two are read as a single text, and merging does the
same to their blocks.  A tag could arise there from the last character of one
text and the first of the other, and this is the one case that has to be
excluded.
-/

namespace Stencil

/-! ## Further down in a file -/

def Position.down (lines : Nat) (position : Position) : Position :=
  { position with line := position.line + lines }

def Block.down (lines : Nat) (block : Block) : Block :=
  { block with position := block.position.down lines }

def SyntaxError.down (lines : Nat) (error : SyntaxError) : SyntaxError :=
  { error with position := error.position.down lines }

theorem Placed.down {path : Text} {typesafe : Bool} {line : Nat}
    {segments : List Segment} {blocks : List Block}
    (hplaced : Placed path typesafe line segments blocks) (lines : Nat) :
    Placed path typesafe (line + lines) segments
      (blocks.map (Block.down lines)) := by
  induction hplaced with
  | nil line => exact .nil _
  | cons hmeans hplaced ih =>
      rw [Nat.add_right_comm] at ih
      exact .cons hmeans ih

theorem Segment.Bad.fault_down {source : Text}
    {fault : Position → SyntaxError} (hbad : Segment.Bad source fault)
    (lines : Nat) (position : Position) :
    fault (position.down lines) = (fault position).down lines := by
  cases hbad with
  | unclosed hunclosed => rfl
  | undeclared rest hcloser hwords => rfl

/-! ## The seam -/

/-- The last character of the first text and the first character of the second
do not make up the mark of a tag. -/
def Seamless (before after : Text) : Prop :=
  ¬ (before.getLast? = some '<' ∧ after.head? = some '%')

theorem Seamless.of_append {before rest after : Text}
    (hseam : Seamless (before ++ rest) after) : Seamless rest after := by
  rintro ⟨hlast, hhead⟩
  apply hseam
  constructor
  · simp [List.getLast?_append, hlast]
  · exact hhead

theorem Seamless.mark_not_infix_append {before after : Text}
    (hseam : Seamless before after) (hbefore : ¬ Tag.mark <:+: before)
    (hafter : ¬ Tag.mark <:+: after) : ¬ Tag.mark <:+: before ++ after := by
  induction before with
  | nil => exact hafter
  | cons c before ih =>
      intro hoccurs
      rw [List.cons_append] at hoccurs
      rcases List.infix_cons_iff.mp hoccurs with hhead | htail
      · -- The mark has two characters, so it reaches over the seam only from
        -- the last one.
        cases before with
        | nil =>
            obtain ⟨hfirst, hsecond⟩ := List.cons_prefix_cons.mp hhead
            apply hseam
            constructor
            · simp [← hfirst]
            · obtain ⟨rest, hrest⟩ := hsecond
              rw [List.nil_append] at hrest
              rw [← hrest]
              rfl
        | cons d before =>
            obtain ⟨rfl, hsecond⟩ := List.cons_prefix_cons.mp hhead
            obtain ⟨rfl, -⟩ := List.cons_prefix_cons.mp hsecond
            exact hbefore ⟨[], before, rfl⟩
      · have hwhole : Seamless ([c] ++ before) after := hseam
        have hinner : ¬ Tag.mark <:+: before := fun hinfix =>
          hbefore (List.infix_cons hinfix)
        exact ih hwhole.of_append hinner htail

namespace Segment

theorem first_append_of_endsBefore {source rest : Text} {segment : Segment}
    (hfirst : first source = .segment segment rest) {more : Text}
    (hends : segment.EndsBefore (rest ++ more)) :
    first (source ++ more) = .segment segment (rest ++ more) := by
  obtain ⟨rfl, hcanonical, -⟩ := first_eq_segment_iff.mp hfirst
  rw [first_eq_segment_iff]
  exact ⟨List.append_assoc .., hcanonical, hends⟩

theorem first_append_of_texts {content next after rest : Text}
    (hcanonical : Canonical (.text content))
    (hfirst : first after = .segment (.text next) rest)
    (hseam : Seamless content next) :
    first (content ++ after) = .segment (.text (content ++ next)) rest := by
  obtain ⟨rfl, hnext, hends⟩ := first_eq_segment_iff.mp hfirst
  have hjoined : Canonical (.text (content ++ next)) := by
    constructor
    · simp [hcanonical.1]
    · exact hseam.mark_not_infix_append hcanonical.2 hnext.2
  rw [spelling, ← List.append_assoc]
  exact first_text_append hjoined hends

theorem mark_prefix_of_first_tag {source rest content : Text} {kind : Tag}
    (hfirst : first source = .segment (.tag kind content) rest) :
    Tag.mark <+: source := by
  rw [← first_spelling hfirst]
  simp [spelling]

theorem Run.segments_of_nil {segments : List Segment} {left : Text}
    (hrun : Run [] segments left) : segments = [] := by
  cases hrun with
  | done => rfl
  | step hfirst _ => cases hfirst

end Segment

namespace Block

theorem mergeTexts_cons_of_separated {block : Block} {blocks : List Block}
    (hseparated : ∀ next ∈ (mergeTexts blocks).head?, block.Separated next) :
    mergeTexts (block :: blocks) = block :: mergeTexts blocks := by
  rw [mergeTexts]
  split
  · rename_i content next position rest hitem hmerged
    rw [hmerged] at hseparated
    exact absurd ⟨by simp [isText, hitem], rfl⟩ (hseparated _ rfl)
  · rfl

theorem mergeTexts_cons_of_texts {content next : Text}
    {position other : Position} {blocks rest : List Block}
    (hmerged : mergeTexts blocks = ⟨.text next, other⟩ :: rest) :
    mergeTexts (⟨.text content, position⟩ :: blocks) =
      ⟨.text (content ++ next), position⟩ :: rest := by
  rw [mergeTexts, hmerged]

end Block

/-! ## Runs one behind the other -/

/-- A source that ends in a text, followed by a source that starts with
one. -/
theorem exists_run_append_of_texts {path : Text} {typesafe : Bool}
    {line : Nat} {content after left : Text} {others : List Segment}
    {more : List Block} (hcanonical : Segment.Canonical (.text content))
    (hrun : Segment.Run after others left)
    (hplaced : Placed path typesafe (line + content.newlines) others more)
    (hleft : left = [] ∨ Tag.mark <+: left) (hseam : Seamless content after)
    (hends : ¬ Segment.EndsBefore after (.text content)) :
    ∃ joined, Segment.Run (content ++ after) joined left ∧
      Placed path typesafe line joined
        (Block.mergeTexts (⟨.text content, ⟨path, line⟩⟩ :: more)) := by
  have hmerged := Block.mergeTexts_eq_self (hplaced.separated hrun.separated)
  cases hrun with
  | done => exact absurd hleft hends
  | @step _ rest _ segment others hfirst hrest =>
      cases segment with
      | tag kind inner =>
          exact absurd (.inr (Segment.mark_prefix_of_first_tag hfirst)) hends
      | text next =>
          have hnext : Seamless content next := by
            rintro ⟨hlast, hhead⟩
            apply hseam
            refine ⟨hlast, ?_⟩
            rw [← Segment.first_spelling hfirst]
            simp [Segment.spelling, List.head?_append, hhead]
          cases hplaced with
          | cons hmeans hplaced =>
              cases hmeans
              refine ⟨.text (content ++ next) :: others, ?_, ?_⟩
              · exact .step
                  (Segment.first_append_of_texts hcanonical hfirst hnext)
                  hrest
              · rw [Block.mergeTexts_cons_of_texts hmerged]
                refine .cons (.text _) ?_
                simpa [Segment.spelling, Nat.add_assoc] using hplaced

theorem exists_run_append {path : Text} {typesafe : Bool} {line : Nat}
    {before after left : Text} {segments others : List Segment}
    {blocks more : List Block} (hbefore : Segment.Run before segments [])
    (hblocks : Placed path typesafe line segments blocks)
    (hafter : Segment.Run after others left)
    (hmore : Placed path typesafe (line + before.newlines) others more)
    (hleft : left = [] ∨ Tag.mark <+: left) (hseam : Seamless before after) :
    ∃ joined, Segment.Run (before ++ after) joined left ∧
      Placed path typesafe line joined
        (Block.mergeTexts (blocks ++ more)) := by
  induction segments generalizing before line blocks with
  | nil =>
      cases hbefore
      cases hblocks
      refine ⟨others, hafter, ?_⟩
      rw [List.nil_append,
        Block.mergeTexts_eq_self (hmore.separated hafter.separated)]
      exact hmore
  | cons segment segments ih =>
      cases hbefore with
      | @step _ rest _ _ _ hfirst hrest =>
          cases hblocks with
          | @cons _ _ item _ blocks hmeans hblocks =>
              have hsource := Segment.first_spelling hfirst
              subst hsource
              rw [Text.newlines_append, ← Nat.add_assoc] at hmore
              by_cases hends : segment.EndsBefore (rest ++ after)
              · obtain ⟨joined, hjoined, hmerged⟩ :=
                  ih hrest hblocks hmore hseam.of_append
                have hrun := Segment.Run.step
                  (Segment.first_append_of_endsBefore hfirst hends) hjoined
                have hall : Placed path typesafe line (segment :: joined) _ :=
                  .cons hmeans hmerged
                have hseparated :=
                  List.isChain_cons.mp (hall.separated hrun.separated)
                refine ⟨segment :: joined, hrun, ?_⟩
                rw [List.cons_append,
                  Block.mergeTexts_cons_of_separated hseparated.1]
                exact hall
              · -- The segment is a text, and the first source has nothing
                -- behind it.
                have hown := (Segment.first_eq_segment_iff.mp hfirst).2
                cases segment with
                | tag kind content => exact absurd trivial hends
                | text content =>
                    have hnothing : rest = [] := by
                      rcases hown.2 with hnil | hmark
                      · exact hnil
                      · exact absurd
                          (.inr (hmark.trans (List.prefix_append rest after)))
                          hends
                    subst hnothing
                    cases hrest.segments_of_nil
                    cases hblocks
                    cases hmeans
                    rw [List.nil_append] at hends
                    rw [Segment.spelling, List.append_nil] at hseam ⊢
                    exact exists_run_append_of_texts hown.1 hafter hmore
                      hleft hseam hends

/-- Parsing is a homomorphism for concatenation.  If a source parses, and no
tag arises at its end from what follows, the concatenation parses as the other
source does: into the merged blocks of both, or with the other's error.  The
blocks and the error of the other source move down by the lines of the
first. -/
theorem parse_append_homomorphism {options : Options} {path : Bytes}
    {before after : Text} {template : Template}
    (hbefore : parse options path before = .ok template)
    (hseam : ¬ (before.getLast? = some '<' ∧ after.head? = some '%')) :
    (∀ other, parse options path after = .ok other →
      parse options path (before ++ after) =
        .ok ⟨path, Block.mergeTexts
          (template.blocks ++
            other.blocks.map (Block.down before.newlines))⟩) ∧
    (∀ error, parse options path after = .error error →
      ∃ cause, error = .malformed cause ∧
        parse options path (before ++ after) =
          .error (.malformed (cause.down before.newlines))) := by
  obtain ⟨segments, hrun, hplaced⟩ := parse_eq_ok_placed hbefore
  constructor
  · intro other hother
    obtain ⟨others, hafter, hmore⟩ := parse_eq_ok_placed hother
    obtain ⟨joined, hjoined, hmerged⟩ :=
      exists_run_append hrun hplaced hafter (hmore.down before.newlines)
        (.inl rfl) hseam
    exact parse_of_run hjoined hmerged
  · intro error herror
    obtain ⟨others, more, left, hafter, hmore, rfl | ⟨fault, hbad⟩⟩ :=
      exists_run (Utf8.decodeLossy path) options.typesafe 1 after
    · rw [parse_of_run hafter hmore] at herror
      cases herror
    · rw [parse_of_run_bad hafter hmore hbad] at herror
      cases herror
      refine ⟨_, rfl, ?_⟩
      obtain ⟨joined, hjoined, hmerged⟩ :=
        exists_run_append hrun hplaced hafter (hmore.down before.newlines)
          (.inr hbad.mark_starts) hseam
      have hspell :
          Segment.spell joined = before ++ Segment.spell others := by
        apply (List.append_left_inj left).mp
        rw [← hjoined.eq_spell_append, List.append_assoc,
          ← hafter.eq_spell_append]
      rw [parse_of_run_bad hjoined hmerged hbad, ← hbad.fault_down, hspell]
      simp only [Position.down, Text.newlines_append]
      congr 4
      omega

theorem parse_append_homomorphism_inside_text :
    parse {} [116] (['a', '\n'] ++ ['b', '<', '%', '#', '%', '>']) =
      .ok ⟨[116],
        [⟨.text ['a', '\n', 'b'], ⟨['t'], 1⟩⟩, ⟨.comment [], ⟨['t'], 2⟩⟩]⟩ ∧
    parse {} [116] (['a', '\n'] ++ ['\n', '<', '%']) =
      .error (.malformed (.truncatedTag ⟨['t'], 3⟩)) := by
  have hbefore : parse {} [116] ['a', '\n'] =
      .ok ⟨[116], [⟨.text ['a', '\n'], ⟨['t'], 1⟩⟩]⟩ :=
    parse_of_run
      (@Segment.run_spell_of_wellFormed [.text ['a', '\n']] (by decide)
        (by decide))
      (.cons (.text _) (.nil _))
  have hcomment : parse {} [116] ['b', '<', '%', '#', '%', '>'] =
      .ok ⟨[116], [⟨.text ['b'], ⟨['t'], 1⟩⟩, ⟨.comment [], ⟨['t'], 1⟩⟩]⟩ :=
    parse_of_run
      (@Segment.run_spell_of_wellFormed [.text ['b'], .tag .comment []]
        (by decide) (by decide))
      (.cons (.text _) (.cons (.comment _) (.nil _)))
  have hunclosed : Segment.Bad ['<', '%'] SyntaxError.truncatedTag :=
    .unclosed ⟨.code, [], rfl, by simp [Tag.Admits], by decide⟩
  have htruncated : parse {} [116] ['\n', '<', '%'] =
      .error (.malformed (.truncatedTag ⟨['t'], 2⟩)) :=
    parse_of_run_bad
      ((@Segment.run_spell_of_wellFormed [.text ['\n']] (by decide)
        (by decide)).append_mark hunclosed.mark_starts)
      (.cons (.text _) (.nil _)) hunclosed
  constructor
  · exact (parse_append_homomorphism hbefore (by decide)).1 _ hcomment
  · obtain ⟨cause, hcause, hwhole⟩ :=
      (parse_append_homomorphism hbefore (by decide)).2 _ htruncated
    cases hcause
    exact hwhole

end Stencil
