import Mathlib.Data.List.Basic
import Stencil.Proofs.GeneratedText
import Stencil.Proofs.Lines

/-!
# Mappings from generated lines to template lines

A listing maps a statement at the moment it is written, to the line that its
counter shows.  The counter is exact, that is, it is one more than the number
of newlines written so far, and every statement is written on a line of its
own.  So a mapping names the line on which the statement of its block starts.

Two facts about whole bodies follow from what one statement does.  The
mappings are those of the blocks that have a statement and a known position,
in order.  And the mappings of a listing are strictly increasing and stay
behind its counter, because every statement ends with a newline.
-/

namespace Stencil

/-! ## The counter of a listing -/

/-- The counter shows the line that is being written, and the mappings lead up
to earlier lines in strict order. -/
structure Listing.Exact (listing : Listing) : Prop where
  line : listing.line = 1 + listing.finish.text.newlines
  increasing : listing.finish.mappings.Pairwise
    fun mapping later => mapping.generatedLine < later.generatedLine
  passed : ∀ mapping ∈ listing.finish.mappings,
    0 < mapping.generatedLine ∧ mapping.generatedLine < listing.line

theorem Listing.exact_empty : Listing.empty.Exact := by
  constructor <;> simp [Listing.empty, Listing.finish]

theorem Listing.Exact.afterPush {listing : Listing} (hexact : listing.Exact)
    (text : Text) :
    (listing.push text).Exact := by
  constructor
  · simp [hexact.line, Nat.add_assoc]
  · rw [Listing.mappings_finish_push]
    exact hexact.increasing
  · intro mapping hmem
    rw [Listing.mappings_finish_push] at hmem
    have hpassed := hexact.passed mapping hmem
    rw [Listing.line_push]
    omega

theorem Listing.Exact.afterNewline {listing : Listing}
    (hexact : listing.Exact) :
    listing.newline.Exact := by
  constructor
  · simp [hexact.line, Text.newlines, Nat.add_assoc]
  · exact hexact.increasing
  · intro mapping hmem
    have hpassed := hexact.passed mapping hmem
    rw [Listing.line_newline]
    omega

theorem Listing.Exact.afterMappedLine {listing : Listing}
    (hexact : listing.Exact) (text : Text) (position : Position) :
    ((listing.pushMapped text position).newline).Exact := by
  have hmappings :
      ((listing.pushMapped text position).newline).finish.mappings =
      listing.finish.mappings ++
        if position.IsKnown then [⟨listing.line, position.line⟩] else [] :=
    Listing.mappings_finish_pushMapped listing text position
  have hline : ((listing.pushMapped text position).newline).line =
      listing.line + text.newlines + 1 := by
    simp
  constructor
  · rw [hline, hexact.line]
    simp [Text.newlines, Nat.add_assoc]
  · rw [hmappings]
    split
    · rw [List.pairwise_append]
      refine ⟨hexact.increasing, List.pairwise_singleton _ _, ?_⟩
      intro mapping hmem later hlater
      rw [List.mem_singleton.mp hlater]
      exact (hexact.passed mapping hmem).2
    · rw [List.append_nil]
      exact hexact.increasing
  · intro mapping hmem
    rw [hmappings, List.mem_append] at hmem
    rw [hline]
    rcases hmem with hearlier | hown
    · have hpassed := hexact.passed mapping hearlier
      omega
    · split at hown
      · rw [List.mem_singleton.mp hown]
        have hpositive := hexact.line
        constructor
        · show 0 < listing.line
          omega
        · show listing.line < listing.line + text.newlines + 1
          omega
      · cases hown

namespace Go

/-- The line directive before a statement, with the end of its line. -/
def Statement.preface (debug : Bool) (statement : Statement) : Text :=
  ((statement.directive? debug).map (· ++ ['\n'])).getD []

theorem Statement.lines_eq (debug : Bool) (statement : Statement) :
    statement.lines debug =
      statement.preface debug ++ statement.action.code ++ ['\n'] :=
  rfl

theorem Statement.writeTo_eq (debug : Bool) (listing : Listing)
    (statement : Statement) :
    ∃ preceded : Listing, preceded.finish.text =
        listing.finish.text ++ statement.preface debug ∧
      preceded.finish.mappings = listing.finish.mappings ∧
      (listing.Exact → preceded.Exact) ∧
      statement.writeTo debug listing =
        (preceded.pushMapped statement.action.code
          statement.position).newline := by
  unfold Statement.writeTo Statement.preface
  cases statement.directive? debug with
  | none => exact ⟨listing, by simp, rfl, id, rfl⟩
  | some directive =>
      refine ⟨listing.pushLine directive, ?_, ?_, ?_, rfl⟩
      · simp [Listing.pushLine]
      · simp [Listing.pushLine]
      · intro hexact
        exact (hexact.afterPush directive).afterNewline

theorem Statement.exact_writeTo {listing : Listing} (hexact : listing.Exact)
    (debug : Bool) (statement : Statement) :
    (statement.writeTo debug listing).Exact := by
  obtain ⟨preceded, -, -, hpreceded, hwrite⟩ :=
    statement.writeTo_eq debug listing
  rw [hwrite]
  exact (hpreceded hexact).afterMappedLine _ _

theorem Statement.mappings_finish_writeTo {listing : Listing}
    (hexact : listing.Exact) (debug : Bool) (statement : Statement) :
    (statement.writeTo debug listing).finish.mappings =
      listing.finish.mappings ++
        if statement.position.IsKnown then
          [⟨1 + (listing.finish.text ++ statement.preface debug).newlines,
            statement.position.line⟩]
        else [] := by
  obtain ⟨preceded, htext, hmappings, hpreceded, hwrite⟩ :=
    statement.writeTo_eq debug listing
  rw [hwrite, ← htext, ← hmappings, ← (hpreceded hexact).line]
  exact Listing.mappings_finish_pushMapped preceded statement.action.code
    statement.position

theorem Statement.exact_foldl_writeTo {listing : Listing}
    (hexact : listing.Exact) (debug : Bool) (body : List Statement) :
    (body.foldl (Statement.writeTo debug) listing).Exact := by
  induction body generalizing listing with
  | nil => exact hexact
  | cons statement body ih =>
      exact ih (Statement.exact_writeTo hexact debug statement)

end Go

/-! ## The blocks of a body -/

namespace Block

/-- Something is written for the block: it is code or a print, or a text that
does not collapse to nothing. -/
def isWritten (options : Options) (block : Block) : Bool :=
  match block.item with
  | .text content =>
      (if options.minify then content.collapse else content) ≠ []
  | .code _ | .print _ _ | .rawPrint _ => true
  | .comment _ | .parameter _ _ | .header _ => false

def IsMapped (options : Options) (block : Block) : Prop :=
  block.position.IsKnown ∧ block.isWritten options = true

instance (options : Options) (block : Block) :
    Decidable (block.IsMapped options) :=
  inferInstanceAs (Decidable (_ ∧ _))

theorem ofBlock?_eq_none_iff {options : Options} {block : Block} :
    Go.Statement.ofBlock? options block = none ↔
      block.isWritten options = false := by
  obtain ⟨item, position⟩ := block
  cases item with
  | text content =>
      rw [Go.Statement.ofBlock?_text]
      show _ ↔ decide (Go.effectiveText options content ≠ []) = false
      simp
  | _ => simp [Go.Statement.ofBlock?, isWritten]

theorem position_of_ofBlock? {options : Options} {block : Block}
    {statement : Go.Statement}
    (hstatement : Go.Statement.ofBlock? options block = some statement) :
    statement.position = block.position := by
  obtain ⟨item, position⟩ := block
  cases item with
  | text content =>
      simp only [Go.Statement.ofBlock?] at hstatement
      split at hstatement <;> cases hstatement
      rfl
  | code content => cases hstatement; rfl
  | print content kind => cases hstatement; rfl
  | rawPrint content => cases hstatement; rfl
  | comment content => cases hstatement
  | header content => cases hstatement
  | parameter name type => cases hstatement

/-- The lines of generated code that a block contributes. -/
def codeLines (options : Options) (block : Block) : Text :=
  ((Go.Statement.ofBlock? options block).map
    (Go.Statement.lines options.debug)).getD []

/-- The line directive before the statement of a block. -/
def preface (options : Options) (block : Block) : Text :=
  ((Go.Statement.ofBlock? options block).map
    (Go.Statement.preface options.debug)).getD []

theorem preface_eq_directive {options : Options} {block : Block}
    {statement : Go.Statement} (hdebug : options.debug = true)
    (hstatement : Go.Statement.ofBlock? options block = some statement)
    (hembedded : statement.action.isEmbedded = true) :
    block.preface options =
      if block.position.IsKnown then block.position.lineDirective ++ ['\n']
      else [] := by
  have hposition := position_of_ofBlock? hstatement
  simp only [preface, hstatement, Option.map_some, Option.getD_some,
    Go.Statement.preface, Go.Statement.directive?, hdebug, hembedded,
    Bool.and_self, if_true, hposition, Position.lineDirective?]
  split <;> rfl

/-- The code before the statement of the block that stands at an index, given
the code before the first of the blocks. -/
def codeBefore (options : Options) (opening : Text) (blocks : List Block)
    (index : Nat) (block : Block) : Text :=
  opening ++ (blocks.take index).flatMap (codeLines options) ++
    block.preface options

theorem newlines_codeBefore (options : Options) (opening : Text)
    (blocks : List Block) (index : Nat) (block : Block) :
    (codeBefore options opening blocks index block).newlines =
      opening.newlines +
        Text.newlines ((blocks.take index).flatMap (codeLines options)) +
        (block.preface options).newlines := by
  simp [codeBefore, Nat.add_assoc]

def mapping? (options : Options) (opening : Text) (blocks : List Block)
    (block : Block) (index : Nat) : Option Mapping :=
  if block.IsMapped options then
    some ⟨1 + (codeBefore options opening blocks index block).newlines,
      block.position.line⟩
  else none

theorem flatMap_lines_filterMap (options : Options) (blocks : List Block) :
    (blocks.filterMap (Go.Statement.ofBlock? options)).flatMap
        (Go.Statement.lines options.debug) =
      blocks.flatMap (codeLines options) := by
  induction blocks with
  | nil => rfl
  | cons block blocks ih =>
      rw [List.filterMap_cons, List.flatMap_cons, ← ih, codeLines]
      cases Go.Statement.ofBlock? options block <;> rfl

theorem mapping?_append {options : Options} {opening : Text}
    {blocks : List Block} {block : Block} {index : Nat}
    (hindex : index ≤ blocks.length) (later : List Block) :
    mapping? options opening (blocks ++ later) block index =
      mapping? options opening blocks block index := by
  rw [mapping?, mapping?, codeBefore, codeBefore,
    List.take_append_of_le_length hindex]

theorem mapping?_of_not_written {options : Options} {block : Block}
    (hstatement : Go.Statement.ofBlock? options block = none)
    (opening : Text) (blocks : List Block) (index : Nat) :
    mapping? options opening blocks block index = none := by
  have hwritten := ofBlock?_eq_none_iff.mp hstatement
  rw [mapping?, if_neg]
  rintro ⟨-, hmapped⟩
  rw [hwritten] at hmapped
  cases hmapped

theorem mapping?_of_written {options : Options} {block : Block}
    {statement : Go.Statement}
    (hstatement : Go.Statement.ofBlock? options block = some statement)
    (opening : Text) (blocks : List Block) :
    mapping? options opening blocks block blocks.length =
      if statement.position.IsKnown then
        some ⟨1 + (opening ++ blocks.flatMap (codeLines options) ++
          statement.preface options.debug).newlines, statement.position.line⟩
      else none := by
  have hwritten : block.isWritten options = true := by
    by_contra hnot
    rw [Bool.not_eq_true, ← ofBlock?_eq_none_iff, hstatement] at hnot
    cases hnot
  have hposition := position_of_ofBlock? hstatement
  simp only [mapping?, codeBefore, IsMapped, hwritten, and_true,
    preface, hstatement, Option.map_some, Option.getD_some,
    List.take_length, hposition]

/-- The mappings of a body are those of its blocks.  The induction is on the
last block, since only what is written before a block decides about its
mapping. -/
theorem mappings_foldl_writeTo {listing : Listing} (hexact : listing.Exact)
    (options : Options) (blocks : List Block) :
    ((blocks.filterMap (Go.Statement.ofBlock? options)).foldl
        (Go.Statement.writeTo options.debug) listing).finish.mappings =
      listing.finish.mappings ++ blocks.zipIdx.filterMap fun (block, index) =>
        mapping? options listing.finish.text blocks block index := by
  induction blocks using List.reverseRecOn with
  | nil => simp
  | append_singleton blocks block ih =>
      have hearlier :
          (blocks.zipIdx.filterMap fun (other, index) =>
            mapping? options listing.finish.text (blocks ++ [block])
              other index) =
          blocks.zipIdx.filterMap fun (other, index) =>
            mapping? options listing.finish.text blocks other index := by
        apply List.filterMap_congr
        rintro ⟨other, index⟩ hmem
        have hindex := List.snd_lt_of_mem_zipIdx hmem
        exact mapping?_append (by omega) [block]
      have hlast :
          mapping? options listing.finish.text (blocks ++ [block]) block
            blocks.length = mapping? options listing.finish.text blocks block
              blocks.length :=
        mapping?_append (Nat.le_refl _) [block]
      rw [List.filterMap_append, List.foldl_append, List.zipIdx_append,
        List.filterMap_append, hearlier, ← List.append_assoc, ← ih]
      cases hstatement : Go.Statement.ofBlock? options block with
      | none =>
          have hnone :=
            mapping?_of_not_written hstatement listing.finish.text blocks
              blocks.length
          simp [hstatement, hlast, hnone]
      | some statement =>
          have hwritten :=
            Go.Statement.exact_foldl_writeTo hexact options.debug
              (blocks.filterMap (Go.Statement.ofBlock? options))
          have htext :
              ((blocks.filterMap (Go.Statement.ofBlock? options)).foldl
                (Go.Statement.writeTo options.debug) listing).finish.text =
              listing.finish.text ++ blocks.flatMap (codeLines options) := by
            rw [Go.Statement.text_finish_foldl_writeTo,
              flatMap_lines_filterMap]
          have hstep :=
            Go.Statement.mappings_finish_writeTo hwritten
              options.debug statement
          have hown :=
            mapping?_of_written hstatement listing.finish.text blocks
          rw [htext] at hstep
          simp only [List.filterMap_cons, List.filterMap_nil, hstatement,
            List.foldl_cons, List.foldl_nil, List.zipIdx_cons,
            List.zipIdx_nil, Nat.zero_add, hlast, hown, hstep]
          split <;> simp

/-- The code of a body, split at the statement of one of its blocks. -/
theorem flatMap_codeLines_eq {options : Options} {blocks : List Block}
    {index : Nat} {block : Block} {statement : Go.Statement}
    (hblock : blocks[index]? = some block)
    (hstatement : Go.Statement.ofBlock? options block = some statement)
    (opening : Text) :
    opening ++ blocks.flatMap (codeLines options) =
      codeBefore options opening blocks index block ++
        statement.action.code ++
        '\n' :: (blocks.drop (index + 1)).flatMap (codeLines options) := by
  have hsplit :
      blocks = blocks.take index ++ block :: blocks.drop (index + 1) := by
    obtain ⟨hindex, hget⟩ := List.getElem?_eq_some_iff.mp hblock
    rw [← hget, List.getElem_cons_drop, List.take_append_drop]
  have hlines : block.codeLines options =
      block.preface options ++ statement.action.code ++ ['\n'] := by
    simp [codeLines, preface, hstatement, Go.Statement.lines_eq]
  calc
    opening ++ blocks.flatMap (codeLines options) =
        opening ++ (blocks.take index).flatMap (codeLines options) ++
          (block.codeLines options ++
            (blocks.drop (index + 1)).flatMap (codeLines options)) := by
      conv_lhs => rw [hsplit]
      rw [List.flatMap_append, List.flatMap_cons, List.append_assoc]
    _ = _ := by
      rw [hlines]
      simp [codeBefore]

end Block

/-! ## Statements on lines of their own -/

namespace Go

theorem Statement.wholeLines_preface (debug : Bool) (statement : Statement) :
    Text.WholeLines (statement.preface debug) := by
  unfold Statement.preface
  cases statement.directive? debug with
  | none => exact .inl rfl
  | some directive => exact .inr (by simp)

theorem Statement.wholeLines_lines (debug : Bool) (statement : Statement) :
    Text.WholeLines (statement.lines debug) := by
  rw [Statement.lines_eq]
  exact .inr (by simp)

/-- The code before the first statement of the template function. -/
def File.opening (file : File) : Text :=
  file.preamble ++ file.signatureLine

theorem File.getLast?_opening (file : File) :
    file.opening.getLast? = some '\n' := by
  have hline : file.signatureLine.getLast? = some '\n' := by
    unfold File.signatureLine
    exact List.getLast?_append.trans rfl
  rw [File.opening, List.getLast?_append, hline]
  rfl

theorem File.exact_opened (file : File) :
    ((Listing.empty.push file.preamble).push file.signatureLine).Exact :=
  (Listing.exact_empty.afterPush file.preamble).afterPush file.signatureLine

theorem File.exact_listing (debug : Bool) (file : File) :
    (file.listing debug).Exact := by
  have hbody :=
    Statement.exact_foldl_writeTo file.exact_opened debug file.body
  exact (hbody.afterPush File.functionEnd).afterPush file.ending

theorem File.mappings_listing {options : Options} {file : File}
    {blocks : List Block}
    (hbody : file.body = blocks.filterMap (Statement.ofBlock? options)) :
    (file.listing options.debug).finish.mappings =
      blocks.zipIdx.filterMap fun (block, index) =>
        Block.mapping? options file.opening blocks block index := by
  have hmappings :=
    Block.mappings_foldl_writeTo file.exact_opened options blocks
  have htext :
      ((Listing.empty.push file.preamble).push
        file.signatureLine).finish.text =
      file.opening := by
    simp [File.opening]
  rw [htext] at hmappings
  simp only [File.listing, Listing.mappings_finish_push, hbody, hmappings]
  rfl

end Go

theorem Block.wholeLines_codeLines (options : Options) (block : Block) :
    Text.WholeLines (block.codeLines options) := by
  unfold Block.codeLines
  cases Go.Statement.ofBlock? options block with
  | none => exact .inl rfl
  | some statement => exact statement.wholeLines_lines options.debug

theorem Block.wholeLines_flatMap (options : Options) (blocks : List Block) :
    Text.WholeLines (blocks.flatMap (codeLines options)) := by
  induction blocks with
  | nil => exact .inl rfl
  | cons block blocks ih =>
      rw [List.flatMap_cons]
      exact (block.wholeLines_codeLines options).append ih

theorem Block.wholeLines_preface (options : Options) (block : Block) :
    Text.WholeLines (block.preface options) := by
  unfold Block.preface
  cases Go.Statement.ofBlock? options block with
  | none => exact .inl rfl
  | some statement => exact statement.wholeLines_preface options.debug

theorem Block.getLast?_codeBefore {opening : Text}
    (hopening : opening.getLast? = some '\n') (options : Options)
    (blocks : List Block) (index : Nat) (block : Block) :
    (codeBefore options opening blocks index block).getLast? = some '\n' := by
  apply Text.getLast?_append_wholeLines
  · exact Text.getLast?_append_wholeLines hopening
      (wholeLines_flatMap options _)
  · exact block.wholeLines_preface options

/-! ## Generated templates -/

namespace Template

variable {workingDirectory : List Bytes} {options : Options}
  {template : Template}
variable {file : Go.File}

theorem text_of_file
    (hfile : template.file workingDirectory options = .ok file) :
    file.body = template.blocks.filterMap (Go.Statement.ofBlock? options) ∧
      (file.listing options.debug).finish.text =
        file.opening ++ template.blocks.flatMap (Block.codeLines options) ++
          Go.File.functionEnd ++ file.ending := by
  refine ⟨body_of_file hfile, ?_⟩
  rw [Go.File.text_listing, body_of_file hfile, Block.flatMap_lines_filterMap]
  rfl

/-- The generated code, split at the statement of a block. -/
theorem exists_text_eq_codeBefore
    (hfile : template.file workingDirectory options = .ok file)
    {index : Nat} {block : Block}
    (hblock : template.blocks[index]? = some block) {statement : Go.Statement}
    (hstatement : Go.Statement.ofBlock? options block = some statement) :
    ∃ after, (file.listing options.debug).finish.text =
      Block.codeBefore options file.opening template.blocks index block ++
        statement.action.code ++ '\n' :: after := by
  refine ⟨(template.blocks.drop (index + 1)).flatMap
    (Block.codeLines options) ++
    Go.File.functionEnd ++ file.ending, ?_⟩
  rw [(text_of_file hfile).2, Block.flatMap_codeLines_eq hblock hstatement]
  simp only [List.append_assoc, List.cons_append]

end Template

/-- Source mappings are sound and complete.  There is exactly one for each
block that has a known position and for which something is written, in the
order of the blocks.  It leads from the line on which the block's own
statement starts to the line of the block, and the statement starts at the
start of its line.  So the generated lines are strictly increasing, and each
is a line of the code. -/
theorem Template.mappings_name_statements {workingDirectory : List Bytes}
    {options : Options} {template : Template} {code : Code}
    (hgenerate : template.generate workingDirectory options = .ok code) :
    ∃ file, template.file workingDirectory options = .ok file ∧
      code.text =
        file.opening ++ template.blocks.flatMap (Block.codeLines options) ++
        Go.File.functionEnd ++ file.ending ∧
      (code.mappings = template.blocks.zipIdx.filterMap fun (block, index) =>
        if block.IsMapped options then
          some ⟨1 + (Block.codeBefore options file.opening template.blocks
              index block).newlines,
            block.position.line⟩
        else none) ∧
      (∀ index block, template.blocks[index]? = some block →
        block.IsMapped options →
        (Block.codeBefore options file.opening template.blocks index
          block).getLast? = some '\n' ∧
        ∃ statement after,
          Go.Statement.ofBlock? options block = some statement ∧
          code.text =
            Block.codeBefore options file.opening template.blocks index
              block ++ statement.action.code ++ '\n' :: after) ∧
      code.mappings.Pairwise
        (fun mapping later => mapping.generatedLine < later.generatedLine) ∧
      ∀ mapping ∈ code.mappings,
        0 < mapping.generatedLine ∧
          mapping.generatedLine ≤ code.text.lines.length := by
  obtain ⟨file, hfile, rfl⟩ := Template.generate_eq_ok_iff.mp hgenerate
  obtain ⟨hbody, htext⟩ := Template.text_of_file hfile
  have hexact := file.exact_listing options.debug
  refine ⟨file, hfile, htext, Go.File.mappings_listing hbody, ?_,
    hexact.increasing, ?_⟩
  · intro index block hblock hmapped
    refine ⟨Block.getLast?_codeBefore file.getLast?_opening _ _ _ _, ?_⟩
    cases hstatement : Go.Statement.ofBlock? options block with
    | none =>
        have hwritten := Block.ofBlock?_eq_none_iff.mp hstatement
        rw [hmapped.2] at hwritten
        cases hwritten
    | some statement =>
        obtain ⟨after, hafter⟩ :=
          Template.exists_text_eq_codeBefore hfile hblock hstatement
        exact ⟨statement, after, rfl, hafter⟩
  · intro mapping hmem
    have hpassed := hexact.passed mapping hmem
    have hline := hexact.line
    have hlines :=
      Text.newlines_le_length_lines (file.listing options.debug).finish.text
    omega

/-- A collapsed text, a comment and a print without a position are not mapped,
but the lines of the code and of the print move the later mappings down. -/
theorem Template.mappings_name_statements_around_comment :
    ∃ code line, Template.generate [] { minify := true } ⟨[47, 118, 47, 97],
        [⟨.text ['\n'], ⟨['t'], 1⟩⟩, ⟨.code ['x', '\n', 'y'], ⟨['t'], 2⟩⟩,
          ⟨.comment [], ⟨['t'], 3⟩⟩, ⟨.print ['n'] .default, ⟨[], 0⟩⟩,
          ⟨.rawPrint ['z'], ⟨['t'], 4⟩⟩,
          ⟨.text ['b'], ⟨['t'], 4⟩⟩]⟩ = .ok code ∧
      code.mappings = [⟨line, 2⟩, ⟨line + 3, 4⟩, ⟨line + 4, 4⟩] := by
  obtain ⟨file, hfile⟩ :=
    @Template.exists_file_of_headers_nil [] ⟨[47, 118, 47, 97],
      [⟨.text ['\n'], ⟨['t'], 1⟩⟩, ⟨.code ['x', '\n', 'y'], ⟨['t'], 2⟩⟩,
        ⟨.comment [], ⟨['t'], 3⟩⟩, ⟨.print ['n'] .default, ⟨[], 0⟩⟩,
        ⟨.rawPrint ['z'], ⟨['t'], 4⟩⟩,
        ⟨.text ['b'], ⟨['t'], 4⟩⟩]⟩ ['v'] rfl rfl
      { minify := true }
  have hgenerate := Template.generate_eq_ok_iff.mpr ⟨file, hfile, rfl⟩
  obtain ⟨other, -, -, hmappings, -⟩ :=
    Template.mappings_name_statements hgenerate
  -- Only the number of lines before the first statement is left open.
  obtain ⟨opened, hopened⟩ : ∃ opened,
    other.opening.newlines = opened := ⟨_, rfl⟩
  refine ⟨_, 1 + opened, hgenerate, ?_⟩
  rw [hmappings]
  simp only [Block.newlines_codeBefore, hopened]
  rfl

end Stencil
