import Stencil.Proofs.Scanning
import Stencil.Proofs.SourceMappings
import Stencil.Proofs.Utf8

/-!
# Embedded code keeps its lines

A code tag is copied as it is, and the copy starts at the start of a line.  So
the lines of the copy are the pieces of the tag, and the generated line that
lies some lines below the mapped one belongs to the template line that lies as
many lines below the tag.

The argument follows a tag from the source to the generated code.  Its block
stands at the index of its segment, on the line that the segments before it
lead to.  That line is known, since a template without a path does not
compile.
-/

namespace Stencil

/-! ## From the tag to its block -/

theorem Placed.getElem?_code {path : Text} {typesafe : Bool} {line : Nat}
    {segments : List Segment} {blocks : List Block} {index : Nat}
    {content : Text} (hplaced : Placed path typesafe line segments blocks)
    (htag : segments[index]? = some (.tag .code content)) :
    blocks[index]? =
      some ⟨.code content,
        ⟨path, line + (Segment.spell (segments.take index)).newlines⟩⟩ := by
  induction hplaced generalizing index with
  | nil line => cases htag
  | cons hmeans hplaced ih =>
      cases index with
      | zero =>
          cases htag
          cases hmeans
          rfl
      | succ index =>
          rw [List.getElem?_cons_succ, ih htag]
          simp [Nat.add_assoc]

theorem Segment.Run.eq_around_code {source content : Text}
    {segments : List Segment} {index : Nat} (hrun : Run source segments [])
    (htag : segments[index]? = some (.tag .code content)) :
    source = spell (segments.take index) ++ ['<', '%'] ++ content ++
      (['%', '>'] ++ spell (segments.drop (index + 1))) := by
  rw [hrun.eq_spell, spell_eq_around htag]
  simp [spelling, Tag.mark, Tag.sigil, Tag.closer]

/-! ## From the block to its lines -/

namespace Block

/-- The generated line on which the statement of the block at an index
starts. -/
def startLine (options : Options) (opening : Text) (blocks : List Block)
    (index : Nat) : Nat :=
  match blocks[index]? with
  | some block => 1 + (codeBefore options opening blocks index block).newlines
  | none => 0

theorem startLine_eq {blocks : List Block} {index : Nat} {block : Block}
    (hblock : blocks[index]? = some block) (options : Options)
    (opening : Text) :
    startLine options opening blocks index =
      1 + (codeBefore options opening blocks index block).newlines := by
  rw [startLine, hblock]

theorem codeBefore_take {index count : Nat} (hindex : index ≤ count)
    (options : Options) (opening : Text) (blocks : List Block)
    (block : Block) :
    codeBefore options opening (blocks.take count) index block =
      codeBefore options opening blocks index block := by
  rw [codeBefore, codeBefore, List.take_take, Nat.min_eq_left hindex]

/-- A block that has a statement moves all later statements down. -/
theorem newlines_codeBefore_lt {options : Options} {blocks : List Block}
    {index later : Nat} {block : Block} {statement : Go.Statement}
    (hlater : index < later) (hblock : blocks[index]? = some block)
    (hstatement : Go.Statement.ofBlock? options block = some statement)
    (opening : Text) (other : Block) :
    (codeBefore options opening blocks index block).newlines <
      (codeBefore options opening blocks later other).newlines := by
  have hearlier : (blocks.take later)[index]? = some block := by
    rw [List.getElem?_take_of_lt hlater, hblock]
  have hcode := flatMap_codeLines_eq hearlier hstatement opening
  rw [codeBefore_take (Nat.le_of_lt hlater)] at hcode
  have hnewline : ∀ text : Text,
      Text.newlines ('\n' :: text) = text.newlines + 1 :=
    fun _ => List.count_cons_self
  have hnewlines := congrArg Text.newlines hcode
  rw [newlines_codeBefore options opening blocks later other]
  simp only [Text.newlines_append, hnewline] at hnewlines
  omega

theorem preface_of_debug {options : Options} {position : Position}
    (hdebug : options.debug = true) (hknown : position.IsKnown)
    (content : Text) :
    preface options ⟨.code content, position⟩ =
      position.lineDirective ++ ['\n'] := by
  rw [preface_eq_directive hdebug rfl rfl]
  exact if_pos hknown

end Block

namespace Template

variable {workingDirectory : List Bytes} {options : Options}
  {template : Template}
variable {file : Go.File} {index : Nat} {content : Text} {position : Position}

theorem path_ne_nil_of_file
    (hfile : template.file workingDirectory options = .ok file) :
    template.path ≠ [] := by
  obtain ⟨package, imports, hpackage, -⟩ := file_eq_ok_iff.mp hfile
  exact path_ne_nil_of_package? hpackage

theorem mapping_mem_of_block
    (hfile : template.file workingDirectory options = .ok file)
    {block : Block} (hblock : template.blocks[index]? = some block)
    (hmapped : block.IsMapped options) :
    ⟨Block.startLine options file.opening template.blocks index,
      block.position.line⟩ ∈
      (file.listing options.debug).finish.mappings := by
  rw [Go.File.mappings_listing (text_of_file hfile).1, List.mem_filterMap]
  refine ⟨(block, index), List.mem_zipIdx_iff_getElem?.mpr hblock, ?_⟩
  rw [Block.startLine_eq hblock]
  exact if_pos hmapped

theorem line?_of_code
    (hfile : template.file workingDirectory options = .ok file)
    (hblock : template.blocks[index]? = some ⟨.code content, position⟩)
    {offset : Nat} {line : Text}
    (hline : (splitWhere (· == '\n') content)[offset]? = some line) :
    (file.listing options.debug).finish.text.line?
        (Block.startLine options file.opening template.blocks index +
          offset) =
      some line := by
  obtain ⟨after, hafter⟩ := exists_text_eq_codeBefore hfile hblock rfl
  have hlast :=
    Block.getLast?_codeBefore file.getLast?_opening options template.blocks
      index ⟨.code content, position⟩
  have hbetween := Text.line?_between hline
    (Block.codeBefore options file.opening template.blocks index
      ⟨.code content, position⟩)
    ('\n' :: after)
  -- The copy starts behind a newline and ends before one, so nothing shares
  -- its lines.
  rw [Text.lastLine_eq_nil hlast, Text.firstLine_newline, ite_self, ite_self,
    List.nil_append, List.append_nil] at hbetween
  rw [hafter, Block.startLine_eq hblock]
  exact hbetween

theorem exists_text_eq_directive
    (hfile : template.file workingDirectory options = .ok file)
    (hblock : template.blocks[index]? = some ⟨.code content, position⟩)
    (hdebug : options.debug = true) (hknown : position.IsKnown) :
    ∃ above below : Text,
      (file.listing options.debug).finish.text =
        above ++ (position.lineDirective ++ ['\n']) ++ content ++
          '\n' :: below ∧
      above.getLast? = some '\n' ∧
      Block.startLine options file.opening template.blocks index =
        1 + (above ++ (position.lineDirective ++ ['\n'])).newlines := by
  obtain ⟨below, hbelow⟩ := exists_text_eq_codeBefore hfile hblock rfl
  have hstart := Block.startLine_eq hblock options file.opening
  rw [Block.codeBefore, Block.preface_of_debug hdebug hknown] at hbelow hstart
  refine ⟨_, below, hbelow, ?_, hstart⟩
  exact Text.getLast?_append_wholeLines file.getLast?_opening
    (Block.wholeLines_flatMap options _)

end Template

/-! ## From the source to the generated code -/

/-- Embedded code is attributed to its true lines.  Every code tag has a
mapping of its own, and every piece of its content is a whole line of the
generated code, as many lines below the mapped one as the piece lies below the
start of the tag in the source.  On its source line, only the first piece
follows something, and only the last piece precedes something.  If the options
ask for it, a line directive with the file name and the line of the tag stands
right before the code. -/
theorem compile_attributes_code {workingDirectory : List Bytes}
    {options : Options} {path : Bytes} {source : Text} {code : Code}
    (hcompile : compile workingDirectory options path source = .ok code) :
    ∃ generatedLine : Nat → Nat,
      (∀ index later content other, index < later →
        (Segment.parts source)[index]? = some (.tag .code content) →
        (Segment.parts source)[later]? = some (.tag .code other) →
        generatedLine index < generatedLine later) ∧
      ∀ index content,
        (Segment.parts source)[index]? = some (.tag .code content) →
        let before : Text :=
          Segment.spell ((Segment.parts source).take index) ++ ['<', '%']
        let after : Text :=
          ['%', '>'] ++
            Segment.spell ((Segment.parts source).drop (index + 1))
        let tagLine := 1 + before.newlines
        let directive : Text := "//line ".toList ++
          (Path.fileName? (Utf8.decodeLossy path)).getD
            (Utf8.decodeLossy path) ++
          ':' :: Text.ofNat tagLine
        source = before ++ content ++ after ∧
        ⟨generatedLine index, tagLine⟩ ∈ code.mappings ∧
        (∀ offset piece,
          (splitWhere (· == '\n') content)[offset]? = some piece →
          code.text.line? (generatedLine index + offset) = some piece ∧
          source.line? (tagLine + offset) =
            some ((if offset = 0 then before.lastLine else []) ++
              (piece ++ if offset = content.newlines then after.firstLine
                else []))) ∧
        (options.debug = true → ∃ above below : Text,
          code.text = above ++ (directive ++ ['\n']) ++ content ++
            '\n' :: below ∧
          above.getLast? = some '\n' ∧
          generatedLine index =
            1 + (above ++ (directive ++ ['\n'])).newlines) := by
  obtain ⟨template, file, hparse, hfile, rfl⟩ := compile_eq_ok_iff.mp hcompile
  obtain ⟨segments, hrun, hplaced⟩ := parse_eq_ok_placed hparse
  have hpath : Utf8.decodeLossy path ≠ [] := by
    obtain ⟨rfl, -⟩ :=
      Template.ofSource_eq_ok_iff.mp (parse_eq_ok_iff.mp hparse)
    exact Utf8.decodeLossy_ne_nil (Template.path_ne_nil_of_file hfile)
  -- Segments and blocks have the same indices, so the index of a tag is that
  -- of its block.
  rw [hrun.parts_eq]
  refine ⟨Block.startLine options file.opening template.blocks, ?_, ?_⟩
  · intro index later content other hlater htag hother
    have hblock := hplaced.getElem?_code htag
    rw [Block.startLine_eq hblock,
      Block.startLine_eq (hplaced.getElem?_code hother)]
    exact Nat.add_lt_add_left
      (Block.newlines_codeBefore_lt hlater hblock rfl _ _) 1
  · intro index content htag before after tagLine directive
    have hnewlines :
        before.newlines = (Segment.spell (segments.take index)).newlines := by
      simp [before, Text.newlines]
    have hblock := hplaced.getElem?_code htag
    rw [← hnewlines] at hblock
    have hknown : Position.IsKnown ⟨Utf8.decodeLossy path, tagLine⟩ :=
      ⟨hpath, Nat.lt_of_lt_of_le Nat.zero_lt_one (Nat.le_add_right 1 _)⟩
    have hsource : source = before ++ content ++ after :=
      hrun.eq_around_code htag
    refine ⟨hsource, Template.mapping_mem_of_block hfile hblock ⟨hknown, rfl⟩,
      ?_, ?_⟩
    · intro offset piece hpiece
      refine ⟨Template.line?_of_code hfile hblock hpiece, ?_⟩
      rw [hsource]
      exact Text.line?_between hpiece before after
    · intro hdebug
      have hdirective : directive =
          Position.lineDirective ⟨Utf8.decodeLossy path, tagLine⟩ := rfl
      rw [hdirective]
      exact Template.exists_text_eq_directive hfile hblock hdebug hknown

/-- Two lines of code behind a text, with a directive for the second template
line. -/
theorem compile_attributes_code_behind_text :
    ∃ code line, compile [] { debug := true } [47, 118, 47, 97]
        ['a', '\n', '<', '%', 'x', '\n', 'y', '%', '>', 'b'] = .ok code ∧
      ⟨line, 2⟩ ∈ code.mappings ∧
      code.text.line? line = some ['x'] ∧
      code.text.line? (line + 1) = some ['y'] ∧
      "//line a:2\nx\ny\n".toList <:+: code.text := by
  have hrun : Segment.Run ['a', '\n', '<', '%', 'x', '\n', 'y', '%', '>', 'b']
      [.text ['a', '\n'], .tag .code ['x', '\n', 'y'], .text ['b']] [] :=
    @Segment.run_spell_of_wellFormed
      [.text ['a', '\n'], .tag .code ['x', '\n', 'y'], .text ['b']]
        (by decide) (by decide)
  have hplaced : Placed ['/', 'v', '/', 'a'] false 1
      [.text ['a', '\n'], .tag .code ['x', '\n', 'y'], .text ['b']] _ :=
    .cons (.text _) (.cons (.code _) (.cons (.text _) (.nil _)))
  obtain ⟨template, hparse, hpackage, hheaders⟩ :
      ∃ template : Template,
        parse { debug := true } [47, 118, 47, 97]
          ['a', '\n', '<', '%', 'x', '\n', 'y', '%', '>', 'b'] =
            .ok template ∧
        template.package? [] = some ['v'] ∧ template.headers = [] :=
    ⟨_, parse_of_run hrun hplaced, rfl, rfl⟩
  obtain ⟨file, hfile⟩ :=
    Template.exists_file_of_headers_nil hpackage hheaders { debug := true }
  have hcompile := compile_eq_ok_iff.mpr ⟨template, file, hparse, hfile, rfl⟩
  obtain ⟨generatedLine, -, hattributed⟩ := compile_attributes_code hcompile
  rw [hrun.parts_eq] at hattributed
  obtain ⟨-, hmapping, hlines, hdirective⟩ :=
    hattributed 1 ['x', '\n', 'y'] rfl
  obtain ⟨above, below, htext, -, -⟩ := hdirective rfl
  refine ⟨_, generatedLine 1, hcompile, hmapping, (hlines 0 ['x'] rfl).1,
    (hlines 1 ['y'] rfl).1, above, below, ?_⟩
  rw [htext]
  simp only [List.append_assoc]
  rfl

end Stencil
