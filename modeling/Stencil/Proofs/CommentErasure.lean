import Stencil.Proofs.GeneratedText
import Stencil.Proofs.Scanning

/-!
# Comments never reach the output

What is generated for a template depends on its blocks only through the
headers, the parameters, the prints and the statements, and no comment
contributes to any of them.  So a template and the template without its
comments have the same code, or the same error.

In a source, the content of a comment is passed over up to the first closer.
All that is left of it is the number of its newlines, on which the lines of
later blocks and errors depend.  Two sources that differ in a comment are
therefore taken apart in the same way before it and behind it, and their
templates are the same without the comments.
-/

namespace Stencil

def Block.isComment (block : Block) : Bool :=
  match block.item with
  | .comment _ => true
  | _ => false

def Template.withoutComments (template : Template) : Template :=
  { template with
    blocks := template.blocks.filter fun block => !block.isComment }

/-! ## Generating without comments -/

theorem Block.filterMap_filter_comments {β : Type} {select : Block → Option β}
    (hselect : ∀ content position, select ⟨.comment content, position⟩ = none)
    (blocks : List Block) :
    (blocks.filter fun block => !block.isComment).filterMap select =
      blocks.filterMap select := by
  rw [List.filterMap_filter]
  congr 1
  funext block
  obtain ⟨item, position⟩ := block
  cases item with
  | comment content => exact (hselect content position).symm
  | text content => rfl
  | code content => rfl
  | header content => rfl
  | parameter name type => rfl
  | print content kind => rfl
  | rawPrint content => rfl

namespace Template

theorem headers_withoutComments (template : Template) :
    template.withoutComments.headers = template.headers :=
  Block.filterMap_filter_comments (fun _ _ => rfl) template.blocks

theorem parameters_withoutComments (template : Template) :
    template.withoutComments.parameters = template.parameters :=
  Block.filterMap_filter_comments (fun _ _ => rfl) template.blocks

theorem prints_withoutComments (template : Template) :
    template.withoutComments.prints = template.prints :=
  Block.filterMap_filter_comments (fun _ _ => rfl) template.blocks

theorem imports_withoutComments (options : Options) (template : Template) :
    template.withoutComments.imports options = template.imports options := by
  unfold imports baseImports headerFragment
  rw [prints_withoutComments, headers_withoutComments]
  rfl

theorem file_withoutComments (workingDirectory : List Bytes)
    (options : Options) (template : Template) :
    template.withoutComments.file workingDirectory options =
      template.file workingDirectory options := by
  have hbody :
      template.withoutComments.blocks.filterMap
        (Go.Statement.ofBlock? options) =
      template.blocks.filterMap (Go.Statement.ofBlock? options) :=
    Block.filterMap_filter_comments (fun _ _ => rfl) template.blocks
  unfold file
  rw [imports_withoutComments, parameters_withoutComments, filterMap_body,
    filterMap_body, hbody]
  rfl

theorem generate_withoutComments (workingDirectory : List Bytes)
    (options : Options) (template : Template) :
    template.withoutComments.generate workingDirectory options =
      template.generate workingDirectory options := by
  rw [generate, generate, file_withoutComments]

end Template

theorem compile_eq_of_withoutComments {options : Options} {path : Bytes}
    {source other : Text}
    (hsame :
      (Template.ofSource options.typesafe path source).map
          Template.withoutComments =
        (Template.ofSource options.typesafe path other).map
          Template.withoutComments)
    (workingDirectory : List Bytes) :
    compile workingDirectory options path source =
      compile workingDirectory options path other := by
  have hcompile : ∀ text, compile workingDirectory options path text =
      (((Template.ofSource options.typesafe path text).map
        Template.withoutComments).mapError CompileError.malformed).bind
          (Template.generate workingDirectory options) := by
    intro text
    unfold compile parse
    cases Template.ofSource options.typesafe path text with
    | error cause => rfl
    | ok template =>
      exact (template.generate_withoutComments workingDirectory options).symm
  rw [hcompile, hcompile, hsame]

/-! ## Scanning around a comment -/

theorem Segment.run_around_comment {before after left comment : Text}
    {segments others : List Segment} (hbefore : Run before segments [])
    (hcomment : ¬ ['%', '>'] <:+: comment) (hafter : Run after others left) :
    Run (before ++ (spelling (.tag .comment comment) ++ after))
      (segments ++ .tag .comment comment :: others) left := by
  -- A mark follows, so the last text of the first part does not run on into
  -- it.
  have hmark : Tag.mark <+: spelling (.tag .comment comment) ++ after :=
    ⟨['#'] ++ comment ++ ['%', '>'] ++ after, by
      simp [spelling, Tag.mark, Tag.sigil, Tag.closer]⟩
  have hcanonical : Canonical (.tag .comment comment) := ⟨trivial, hcomment⟩
  exact (hbefore.append_mark hmark).append
    (.step (first_tag_append hcanonical after) hafter)

theorem Segment.newlines_spelling_comment (comment : Text) :
    (spelling (.tag .comment comment)).newlines = comment.newlines := by
  simp [spelling, Text.newlines, Tag.mark, Tag.sigil, Tag.closer]

/-- Of a comment, the scan of a source keeps the number of newlines. -/
theorem Template.exists_ofSource_around_comment {before : Text}
    {segments : List Segment} (hbefore : Segment.Run before segments [])
    (hwell : ∀ segment ∈ segments, segment.WellFormed) (after : Text)
    (lines : Nat) (typesafe : Bool) (path : Bytes) :
    ∃ outcome, ∀ comment : Text, ¬ ['%', '>'] <:+: comment →
      comment.newlines = lines →
      (Template.ofSource typesafe path
        (before ++ (Segment.spelling (.tag .comment comment) ++ after))).map
          Template.withoutComments = outcome := by
  obtain ⟨blocks, hblocks⟩ :=
    exists_placed hwell (Utf8.decodeLossy path) typesafe 1
  -- The line behind the comment is fixed by `lines`, so the rest can be taken
  -- apart before the comment is chosen.
  obtain ⟨others, more, left, hafter, hmore, hleft⟩ :=
    exists_run (Utf8.decodeLossy path) typesafe
      (1 + (Segment.spell segments).newlines + lines) after
  have hplaced : ∀ comment : Text, comment.newlines = lines →
      ∃ block : Block, block.isComment = true ∧
        Placed (Utf8.decodeLossy path) typesafe 1
          (segments ++ .tag .comment comment :: others)
          (blocks ++ block :: more) := by
    intro comment hlines
    rw [← hlines, ← Segment.newlines_spelling_comment comment] at hmore
    exact ⟨_, rfl, hblocks.append (.cons (.comment comment) hmore)⟩
  rcases hleft with rfl | ⟨fault, hbad⟩
  · refine ⟨.ok ⟨path, (blocks ++ more).filter fun block => !block.isComment⟩,
      ?_⟩
    intro comment hcomment hlines
    obtain ⟨block, hblock, hall⟩ := hplaced comment hlines
    rw [ofSource_of_run (Segment.run_around_comment hbefore hcomment hafter)
        hall]
    simp [Except.map, withoutComments, hblock]
  · refine ⟨.error (fault ⟨Utf8.decodeLossy path,
      1 + ((Segment.spell segments).newlines +
        (lines + (Segment.spell others).newlines))⟩), ?_⟩
    intro comment hcomment hlines
    obtain ⟨block, -, hall⟩ := hplaced comment hlines
    rw [ofSource_of_run_bad
        (Segment.run_around_comment hbefore hcomment hafter) hall hbad,
      Segment.spell_append, Segment.spell_cons, Text.newlines_append,
      Text.newlines_append, Segment.newlines_spelling_comment, hlines]
    rfl

/-- Comments never reach the output.  Two sources that differ in a comment,
behind a part that scans without an error, have the same code and mappings, or
the same error, if the two comments have the same number of newlines. -/
theorem compile_ignores_comments {scannedAs : Text} {markers : Bool}
    {before : Text} {blocks : List Block}
    (hscan : (Cursor.start scannedAs markers before).results =
      some (blocks.map .ok))
    {comment other : Text} (hcomment : ¬ ['%', '>'] <:+: comment)
    (hother : ¬ ['%', '>'] <:+: other)
    (hlines : comment.newlines = other.newlines) (after : Text)
    (workingDirectory : List Bytes) (options : Options) (path : Bytes) :
    compile workingDirectory options path
        (before ++ ['<', '%', '#'] ++ comment ++ ['%', '>'] ++ after) =
      compile workingDirectory options path
        (before ++ ['<', '%', '#'] ++ other ++ ['%', '>'] ++ after) := by
  obtain ⟨segments, hrun, hplaced⟩ := Cursor.results_start_eq_iff.mp hscan
  obtain ⟨outcome, houtcome⟩ := Template.exists_ofSource_around_comment hrun
    (hplaced.wellFormed hrun.canonical) after other.newlines
    options.typesafe path
  have hspelling : ∀ text,
      before ++ ['<', '%', '#'] ++ text ++ ['%', '>'] ++ after =
        before ++ (Segment.spelling (.tag .comment text) ++ after) := by
    intro text
    simp [Segment.spelling, Tag.mark, Tag.sigil, Tag.closer]
  rw [hspelling, hspelling]
  apply compile_eq_of_withoutComments
  rw [houtcome comment hcomment hlines, houtcome other hother rfl]

/-- One comment starts like a tag of another kind, the other ends in a percent
sign, and a tag that is never closed follows.  It is found on the second
line. -/
theorem compile_ignores_comments_before_open_tag :
    compile [] {} [47, 118, 47, 97]
        (['a', '<'] ++ ['<', '%', '#'] ++ ['<', '%', '!', '\n'] ++
          ['%', '>'] ++ ['<', '%']) =
      .error (.malformed (.truncatedTag ⟨['/', 'v', '/', 'a'], 2⟩)) := by
  have hrun : Segment.Run ['a', '<'] [.text ['a', '<']] [] :=
    @Segment.run_spell_of_wellFormed [.text ['a', '<']]
      (by decide) (by decide)
  have hplaced : Placed ['/', 'v', '/', 'a'] false 1 [.text ['a', '<']] _ :=
    .cons (.text _) (.nil _)
  have hscan := Cursor.results_start_eq_iff.mpr ⟨_, hrun, hplaced⟩
  have hopener : ¬ ['%', '>'] <:+: ['<', '%', '!', '\n'] := by decide
  have hpercent : ¬ ['%', '>'] <:+: ['\n', '"', '%'] := by decide
  have hbad : Segment.Bad ['<', '%'] SyntaxError.truncatedTag :=
    .unclosed ⟨.code, [], rfl, by simp [Tag.Admits], by decide⟩
  have hparse : parse {} [47, 118, 47, 97]
      (['a', '<'] ++ ['<', '%', '#'] ++ ['\n', '"', '%'] ++ ['%', '>'] ++
        ['<', '%']) =
        .error (.malformed (.truncatedTag ⟨['/', 'v', '/', 'a'], 2⟩)) :=
    parse_of_run_bad
      (Segment.run_around_comment hrun hpercent (.done ['<', '%']))
      (hplaced.append (.cons (.comment _) (.nil _))) hbad
  rw [compile_ignores_comments hscan hopener hpercent rfl, compile, hparse]

end Stencil
