import Stencil.Template.Cursor

/-!
# Segments

The source of a template is a concatenation of segments: runs of literal text
and tags.  A tag starts with `<%`, and the characters that follow decide its
kind and how it ends.  Header tags end at the first `%%>`, all other tags at
the first `%>` after the opener.

Spelling a segment and reading the first segment of a source are the two sides
here, and `first_spelling` says that reading loses nothing.
-/

namespace Stencil

namespace Tag

/-- The characters with which every tag starts. -/
def mark : Text :=
  ['<', '%']

/-- The characters that follow the mark and tell the kind. -/
def sigil : Tag → Text
  | .code => []
  | .header => ['%']
  | .parameter => ['!']
  | .print => ['=']
  | .rawPrint => ['=', '=']
  | .comment => ['#']

def closer : Tag → Text
  | .header => ['%', '%', '>']
  | _ => ['%', '>']

/-- The kind of a tag and the text after its opener, read from the text after
the mark. -/
def ofSigil : Text → Tag × Text
  | '%' :: rest => (.header, rest)
  | '!' :: rest => (.parameter, rest)
  | '=' :: '=' :: rest => (.rawPrint, rest)
  | '=' :: rest => (.print, rest)
  | '#' :: rest => (.comment, rest)
  | rest => (.code, rest)

theorem sigil_append_ofSigil (source : Text) :
    (ofSigil source).1.sigil ++ (ofSigil source).2 = source := by
  unfold ofSigil
  split <;> simp [sigil]

end Tag

/-- A stretch of a template's source. -/
inductive Segment where
  | text (content : Text)
  | tag (kind : Tag) (content : Text)
  deriving DecidableEq, Repr

namespace Segment

def spelling : Segment → Text
  | .text content => content
  | .tag kind content => Tag.mark ++ kind.sigil ++ content ++ kind.closer

/-- What stands at the head of a source. -/
inductive Head where
  | finished
  /-- A whole segment, and the source after it. -/
  | segment (segment : Segment) (rest : Text)
  | truncated
  deriving DecidableEq, Repr

/-- The text before the first tag, and the source from that tag on. -/
def textRun : Text → Text × Text
  | [] => ([], [])
  | c :: source =>
      if Tag.mark.isPrefixOf (c :: source) then ([], c :: source)
      else (c :: (textRun source).1, (textRun source).2)

def first (source : Text) : Head :=
  match source with
  | [] => .finished
  | '<' :: '%' :: body =>
      let (kind, inner) := Tag.ofSigil body
      match Text.cut? kind.closer inner with
      | some (content, rest) => .segment (.tag kind content) rest
      | none => .truncated
  | source => .segment (.text (textRun source).1) (textRun source).2

theorem textRun_append (source : Text) :
    (textRun source).1 ++ (textRun source).2 = source := by
  induction source with
  | nil => rfl
  | cons c source ih =>
      unfold textRun
      split
      · rfl
      · simp [ih]

theorem first_spelling {source rest : Text} {segment : Segment}
    (hfirst : first source = .segment segment rest) :
    segment.spelling ++ rest = source := by
  unfold first at hfirst
  split at hfirst
  · cases hfirst
  · rename_i body
    split at hfirst
    rename_i kind inner hsigil
    split at hfirst
    · rename_i content after hcut
      cases hfirst
      have hbody := Tag.sigil_append_ofSigil body
      rw [hsigil, Text.eq_append_of_cut? hcut] at hbody
      simp [spelling, Tag.mark, ← hbody]
    · cases hfirst
  · cases hfirst
    exact textRun_append source

theorem first_spelling_ne_nil {source rest : Text} {segment : Segment}
    (hfirst : first source = .segment segment rest) :
    segment.spelling ≠ [] := by
  unfold first at hfirst
  split at hfirst
  · cases hfirst
  · split at hfirst
    split at hfirst
    · cases hfirst
      simp [spelling, Tag.mark]
    · cases hfirst
  · rename_i hempty hmark
    cases hfirst
    cases source with
    | nil => exact absurd rfl hempty
    | cons c source =>
        have hprefix : Tag.mark.isPrefixOf (c :: source) = false := by
          cases source with
          | nil => simp [Tag.mark, List.isPrefixOf]
          | cons d source =>
              have hne := hmark source
              simp only [Tag.mark, List.isPrefixOf, Bool.and_true,
                Bool.and_eq_false_iff, beq_eq_false_iff_ne]
              by_cases hc : '<' = c
              · right
                intro hd
                exact hne (by rw [← hc, ← hd])
              · exact .inl hc
        simp [spelling, textRun, hprefix]

theorem length_rest_lt {source rest : Text} {segment : Segment}
    (hfirst : first source = .segment segment rest) :
    rest.length < source.length := by
  have hlength := congrArg List.length (first_spelling hfirst)
  have hpos := List.length_pos_iff.mpr (first_spelling_ne_nil hfirst)
  simp only [List.length_append] at hlength
  omega

theorem ne_nil_of_truncated {source : Text}
    (hfirst : first source = .truncated) :
    source ≠ [] := by
  rintro rfl
  simp [first] at hfirst

end Segment
end Stencil
