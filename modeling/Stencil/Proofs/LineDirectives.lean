import Stencil.Proofs.CompileFailure
import Stencil.Proofs.SourceMappings

/-!
# Line directives

Debug mode leaves the generated file as it is and writes line directives into
it.  The two listings of a file are compared block by block.  Without
directives a block contributes its statement, and with them it contributes the
same statement behind the inserted text, which is empty for most blocks.

Text and statements are inserted and written in the same order, so the
newlines before a statement are those of the statements before it and those of
the texts inserted up to it.  This is all that the mappings see of debug mode.
-/

namespace Stencil
namespace Block

/-- The statement of a block with the end of its line, if the block has
one. -/
def statementText (options : Options) (block : Block) : Text :=
  ((Go.Statement.ofBlock? options block).map fun statement =>
    statement.action.code ++ ['\n']).getD []

/-- The text that debug mode inserts before the statement of a block: a
directive with the file name and the line, if the block is code or a print of
a known position. -/
def insertedText (block : Block) : Text :=
  match block.item with
  | .code _ | .print _ _ | .rawPrint _ =>
      if block.position.IsKnown then
        "//line ".toList ++
          (Path.fileName? block.position.path).getD block.position.path ++
          ':' :: Text.ofNat block.position.line ++ ['\n']
      else []
  | .text _ | .comment _ | .parameter _ _ | .header _ => []

/-! ## One block -/

theorem codeLines_eq_append (options : Options) (block : Block) :
    block.codeLines options =
      block.preface options ++ block.statementText options := by
  unfold codeLines preface statementText
  cases Go.Statement.ofBlock? options block with
  | none => rfl
  | some statement => exact List.append_assoc _ _ _

theorem preface_of_not_debug (options : Options) (block : Block) :
    block.preface { options with debug := false } = [] := by
  unfold preface
  cases Go.Statement.ofBlock? { options with debug := false } block with
  | none => rfl
  | some statement => rfl

theorem preface_of_text {options : Options} (content : Text)
    (position : Position) :
    preface options ⟨.text content, position⟩ = [] := by
  unfold preface
  rw [Go.Statement.ofBlock?_text]
  split
  · rfl
  · cases options.debug <;> rfl

theorem preface_of_debug_on (options : Options) (block : Block) :
    block.preface { options with debug := true } = block.insertedText := by
  obtain ⟨item, position⟩ := block
  cases item with
  | text content => exact preface_of_text content position
  | code content => exact preface_eq_directive rfl rfl rfl
  | print content kind => exact preface_eq_directive rfl rfl rfl
  | rawPrint content => exact preface_eq_directive rfl rfl rfl
  | comment content => rfl
  | parameter name type => rfl
  | header content => rfl

/-! ## The blocks before a statement -/

theorem codeLines_of_debug (options : Options) (block : Block) :
    block.codeLines { options with debug := true } =
      block.insertedText ++ block.statementText options := by
  rw [codeLines_eq_append, preface_of_debug_on]
  rfl

theorem codeLines_of_not_debug (options : Options) (block : Block) :
    block.codeLines { options with debug := false } =
      block.statementText options := by
  rw [codeLines_eq_append, preface_of_not_debug]
  rfl

theorem newlines_flatMap_append (first second : Block → Text)
    (blocks : List Block) :
    Text.newlines (blocks.flatMap fun block => first block ++ second block) =
      Text.newlines (blocks.flatMap first) +
        Text.newlines (blocks.flatMap second) := by
  induction blocks with
  | nil => rfl
  | cons block blocks ih =>
      simp only [List.flatMap_cons, Text.newlines_append, ih]
      omega

theorem flatMap_take_succ {blocks : List Block} {index : Nat} {block : Block}
    (hblock : blocks[index]? = some block) (text : Block → Text) :
    (blocks.take (index + 1)).flatMap text =
      (blocks.take index).flatMap text ++ text block := by
  rw [List.take_add_one, hblock, List.flatMap_append]
  simp

/-- The line of a statement without directives. -/
def plainLine (options : Options) (opening : Text) (blocks : List Block)
    (index : Nat) : Nat :=
  1 + Text.newlines
    (opening ++ (blocks.take index).flatMap (statementText options))

theorem newlines_codeBefore_of_not_debug (options : Options) (opening : Text)
    (blocks : List Block) (index : Nat) (block : Block) :
    1 + (codeBefore { options with debug := false } opening blocks index
        block).newlines =
      plainLine options opening blocks index := by
  have hlines := funext (codeLines_of_not_debug options)
  rw [codeBefore, preface_of_not_debug, hlines, List.append_nil, plainLine]

theorem newlines_codeBefore_of_debug {blocks : List Block} {index : Nat}
    {block : Block} (hblock : blocks[index]? = some block) (options : Options)
    (opening : Text) :
    1 + (codeBefore { options with debug := true } opening blocks index
        block).newlines =
      plainLine options opening blocks index +
        Text.newlines ((blocks.take (index + 1)).flatMap insertedText) := by
  -- The text inserted for the block itself stands before its statement, so it
  -- is counted with the texts of the blocks before it.
  have hlines := funext (codeLines_of_debug options)
  rw [newlines_codeBefore, preface_of_debug_on, hlines,
    newlines_flatMap_append, flatMap_take_succ hblock, plainLine]
  simp only [Text.newlines_append]
  omega

def mapped (options : Options) (blocks : List Block) : List (Block × Nat) :=
  blocks.zipIdx.filter fun (block, _) => block.IsMapped options

theorem filterMap_mapping?_eq (options : Options) (opening : Text)
    (blocks : List Block) :
    (blocks.zipIdx.filterMap fun (block, index) =>
        mapping? options opening blocks block index) =
      (mapped options blocks).map fun (block, index) =>
        ⟨1 + (codeBefore options opening blocks index block).newlines,
          block.position.line⟩ := by
  rw [mapped, ← List.filterMap_eq_map, List.filterMap_filter]
  congr 1
  funext ⟨block, index⟩
  simp [mapping?]

end Block

/-! ## Generated templates -/

namespace Template

variable {workingDirectory : List Bytes} {options : Options}
  {template : Template}
variable {file : Go.File}

theorem text_of_debug
    (hfile : template.file workingDirectory options = .ok file)
    (debug : Bool) :
    (file.listing debug).finish.text =
      file.opening ++
        template.blocks.flatMap
          (Block.codeLines { options with debug := debug }) ++
        (Go.File.functionEnd ++ file.ending) := by
  have hdebug :
      template.file workingDirectory { options with debug := debug } =
        .ok file :=
    hfile
  rw [← List.append_assoc]
  exact (text_of_file hdebug).2

theorem mappings_of_debug
    (hfile : template.file workingDirectory options = .ok file)
    (debug : Bool) :
    (file.listing debug).finish.mappings =
      (Block.mapped options template.blocks).map fun (block, index) =>
        ⟨1 + (Block.codeBefore { options with debug := debug } file.opening
            template.blocks index block).newlines,
          block.position.line⟩ := by
  have hbody : file.body =
      template.blocks.filterMap
        (Go.Statement.ofBlock? { options with debug := debug }) :=
    body_of_file hfile
  exact (Go.File.mappings_listing hbody).trans
    (Block.filterMap_mapping?_eq _ _ _)

theorem mappings_without_directives
    (hfile : template.file workingDirectory options = .ok file) :
    (file.listing false).finish.mappings =
      (Block.mapped options template.blocks).map fun (block, index) =>
        ⟨Block.plainLine options file.opening template.blocks index,
          block.position.line⟩ := by
  rw [mappings_of_debug hfile]
  simp only [Block.newlines_codeBefore_of_not_debug]

theorem mappings_with_directives
    (hfile : template.file workingDirectory options = .ok file) :
    (file.listing true).finish.mappings =
      (Block.mapped options template.blocks).map fun (block, index) =>
        ⟨Block.plainLine options file.opening template.blocks index +
          Text.newlines
            ((template.blocks.take (index + 1)).flatMap Block.insertedText),
          block.position.line⟩ := by
  rw [mappings_of_debug hfile]
  apply List.map_congr_left
  rintro ⟨block, index⟩ hmem
  have hblock := List.mem_zipIdx_iff_getElem?.mp (List.mem_of_mem_filter hmem)
  simp only [Block.newlines_codeBefore_of_debug hblock]

end Template

/-- Debug mode only inserts directives.  It changes neither whether a template
is generated nor the error.  The code is the same but for the directives, each
right before the statement of its block.  The mappings are those of the same
blocks, and each of them moves down by the newlines inserted up to its
statement. -/
theorem Template.debug_only_inserts_directives (workingDirectory : List Bytes)
    (options : Options) (template : Template) :
    (∀ error,
      template.generate workingDirectory { options with debug := true } =
          .error error ↔
        template.generate workingDirectory { options with debug := false } =
          .error error) ∧
    ∀ plain,
      template.generate workingDirectory { options with debug := false } =
        .ok plain →
      ∃ (debugged : Code) (opening ending : Text),
        template.generate workingDirectory { options with debug := true } =
          .ok debugged ∧
        plain.text =
          opening ++ template.blocks.flatMap (Block.statementText options) ++
            ending ∧
        debugged.text =
          opening ++ (template.blocks.flatMap fun block =>
            block.insertedText ++ block.statementText options) ++ ending ∧
        (plain.mappings =
          (Block.mapped options template.blocks).map fun (block, index) =>
            ⟨Block.plainLine options opening template.blocks index,
              block.position.line⟩) ∧
        (debugged.mappings =
          (Block.mapped options template.blocks).map fun (block, index) =>
            ⟨Block.plainLine options opening template.blocks index +
              Text.newlines
                ((template.blocks.take (index + 1)).flatMap
                  Block.insertedText),
              block.position.line⟩) ∧
        debugged.mappings.length = plain.mappings.length ∧
        debugged.mappings.map (·.sourceLine) =
          plain.mappings.map (·.sourceLine) := by
  constructor
  · intro error
    rw [Template.generate_eq_error_iff, Template.generate_eq_error_iff]
  · intro plain hgenerate
    obtain ⟨file, hfile, rfl⟩ := Template.generate_eq_ok_iff.mp hgenerate
    have hplain := Template.mappings_without_directives hfile
    have hdebugged := Template.mappings_with_directives hfile
    refine ⟨(file.listing true).finish, file.opening,
      Go.File.functionEnd ++ file.ending,
      Template.generate_eq_ok_iff.mpr ⟨file, hfile, rfl⟩, ?_, ?_, hplain,
      hdebugged, ?_, ?_⟩
    · rw [Template.text_of_debug hfile,
        funext (Block.codeLines_of_not_debug options)]
    · rw [Template.text_of_debug hfile,
        funext (Block.codeLines_of_debug options)]
    · rw [hplain, hdebugged, List.length_map, List.length_map]
    · rw [hplain, hdebugged, List.map_map, List.map_map]
      rfl

/-- The name of the first file has a newline in it, so its directive takes two
lines.  A text and a print of unknown position get none. -/
theorem Template.debug_only_inserts_directives_of_newline_in_name :
    ∃ plain debugged line,
      Template.generate [] { debug := false } ⟨[47, 118, 47, 97],
        [⟨.code ['x'], ⟨['t', '\n'], 2⟩⟩, ⟨.text ['a'], ⟨['t'], 3⟩⟩,
          ⟨.print ['n'] .default, ⟨[], 0⟩⟩,
          ⟨.rawPrint ['z'], ⟨['t'], 4⟩⟩]⟩ = .ok plain ∧
      Template.generate [] { debug := true } ⟨[47, 118, 47, 97],
        [⟨.code ['x'], ⟨['t', '\n'], 2⟩⟩, ⟨.text ['a'], ⟨['t'], 3⟩⟩,
          ⟨.print ['n'] .default, ⟨[], 0⟩⟩, ⟨.rawPrint ['z'], ⟨['t'], 4⟩⟩]⟩ =
            .ok debugged ∧
      plain.mappings = [⟨line, 2⟩, ⟨line + 1, 3⟩, ⟨line + 3, 4⟩] ∧
      debugged.mappings = [⟨line + 2, 2⟩, ⟨line + 3, 3⟩, ⟨line + 6, 4⟩] := by
  obtain ⟨file, hfile⟩ :=
    @Template.exists_file_of_headers_nil [] ⟨[47, 118, 47, 97],
      [⟨.code ['x'], ⟨['t', '\n'], 2⟩⟩, ⟨.text ['a'], ⟨['t'], 3⟩⟩,
        ⟨.print ['n'] .default, ⟨[], 0⟩⟩,
        ⟨.rawPrint ['z'], ⟨['t'], 4⟩⟩]⟩ ['v'] rfl rfl {}
  have hgenerate := Template.generate_eq_ok_iff.mpr ⟨file, hfile, rfl⟩
  obtain ⟨debugged, opening, -, hdebugged, -, -, hplain, hmoved, -, -⟩ :=
    (Template.debug_only_inserts_directives [] {} _).2 _ hgenerate
  obtain ⟨opened, hopened⟩ : ∃ opened, opening.newlines = opened := ⟨_, rfl⟩
  simp only [Block.plainLine, Text.newlines_append, hopened] at hplain hmoved
  refine ⟨_, debugged, 1 + opened, hgenerate, hdebugged, ?_, ?_⟩
  · rw [hplain]
    rfl
  · rw [hmoved]
    rfl

end Stencil
