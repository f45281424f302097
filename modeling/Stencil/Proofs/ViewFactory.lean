import Mathlib.Data.List.Flatten
import Mathlib.Data.List.Nodup
import Mathlib.Data.List.Perm.Basic
import Stencil.Proofs.LiteralText
import Stencil.Proofs.NeededImports
import Stencil.Proofs.SourceMappings

/-!
# View factories

Asking for a view factory adds one import and the factory itself.  The
template function is the same text in both files, so all that happens to its
statements is that they move down with the end of the preamble.

The import of the view type stands behind the imports of the code itself and
before those of the headers, and an import that is offered twice is kept where
it was offered first.  So the import list either grows by one entry or changes
its order, and the number of its newlines can be compared in both cases, since
the two lists are permutations of each other up to the new entry.
-/

namespace Stencil
namespace Go

/-- The text from the start of a generated file to the template function. -/
def preambleText (package : Text) (imports : List ImportSpec) : Text :=
  "// Code generated by egon. DO NOT EDIT.\n\npackage ".toList ++ package ++
    "\n\nimport (\n".toList ++ Import.specLines imports ++ ")\n\n".toList

def declaration (parameter : Text × Text) : Text :=
  parameter.1 ++ ' ' :: parameter.2

end Go

namespace Template

/-- The template function.  It takes the writer of the page and then the
declared parameters. -/
def functionText (options : Options) (template : Template) : Text :=
  "func ".toList ++ template.functionName ++
    '(' :: Text.join ", ".toList
      (((['w'], "io.Writer".toList) :: template.parameters).map
        Go.declaration) ++
    ") error \x7b\n".toList ++
    template.blocks.flatMap (Block.codeLines options) ++
    Go.File.functionEnd

/-- The view factory.  It takes the declared parameters, and the function that
renders the view passes their names on behind the writer of the page. -/
def factoryText (options : Options) (package : Text)
    (template : Template) : Text :=
  "func ".toList ++ template.viewName ++
    '(' :: Text.join ", ".toList (template.parameters.map Go.declaration) ++
    ") *".toList ++
    packageQualifier options.viewImport ++ ".View \x7b\n\treturn &".toList ++
    packageQualifier options.viewImport ++
    ".View\x7b\n\t\tPackageName:  ".toList ++
    Go.literal package ++ ",\n\t\tName:         ".toList ++
    Go.literal template.functionName ++ ",\n\t\tTemplatePath: ".toList ++
    Go.literal template.pathText ++
    ",\n\t\tRenderFunc: func(w io.Writer) error \x7b\n\t\t\treturn ".toList ++
    (template.functionName ++
      '(' :: Text.join ", ".toList (['w'] :: template.parameters.map (·.1)) ++
      [')']) ++
    "\n\t\t\x7d,\n\t\x7d\n\x7d\n".toList

/-! ## The parts of a file -/

variable {workingDirectory : List Bytes} {options : Options}
  {template : Template}
variable {file : Go.File}

theorem signatureLine_of_file
    (hfile : template.file workingDirectory options = .ok file) :
    file.signatureLine =
      "func ".toList ++ template.functionName ++
        '(' :: Text.join ", ".toList
          (((['w'], "io.Writer".toList) :: template.parameters).map
            Go.declaration) ++
        ") error \x7b\n".toList := by
  obtain ⟨package, imports, -, -, rfl⟩ := file_eq_ok_iff.mp hfile
  rfl

theorem ending_of_generateView
    (hfile : template.file workingDirectory options = .ok file)
    (hview : options.generateView = true) :
    file.ending = '\n' :: template.factoryText options file.package := by
  obtain ⟨package, imports, -, -, rfl⟩ := file_eq_ok_iff.mp hfile
  have hfactory : template.viewFactory? options =
      some ⟨template.viewName, packageQualifier options.viewImport,
        template.pathText⟩ :=
    if_pos hview
  rw [Go.File.ending, hfactory]
  rfl

theorem text_of_file_around_function
    (hfile : template.file workingDirectory options = .ok file) :
    (file.listing options.debug).finish.text =
      file.preamble ++ template.functionText options ++ file.ending := by
  have hfunction : template.functionText options =
      file.signatureLine ++
        template.blocks.flatMap (Block.codeLines options) ++
        Go.File.functionEnd := by
    rw [signatureLine_of_file hfile]
    rfl
  rw [(text_of_file hfile).2, hfunction, Go.File.opening]
  simp only [List.append_assoc]

theorem preamble_of_file
    (hfile : template.file workingDirectory options = .ok file) :
    file.preamble = Go.preambleText file.package file.imports.items := by
  obtain ⟨specs, -, himports⟩ := imports_eq_ok_iff.mp (imports_of_file hfile)
  -- The function always needs the package of its writer, so there is an
  -- import block.
  have hio : .plain "io".toList ∈ template.baseImports options := by
    rw [baseImports_eq]
    exact List.mem_append_left _ (List.mem_append_right _ List.mem_cons_self)
  apply Go.File.preamble_eq
  rw [himports, ImportSet.items_insertAll]
  exact List.ne_nil_of_mem
    (List.mem_eraseDups.mpr
      (List.mem_append_right _ (List.mem_append_left specs hio)))

theorem exists_specs_of_file
    (hfile : template.file workingDirectory options = .ok file) :
    template.package? workingDirectory = some file.package ∧
      ∃ specs, Import.ofFragment template.headerFragment = .ok specs := by
  obtain ⟨package, imports, hpackage, himports, rfl⟩ :=
    file_eq_ok_iff.mp hfile
  obtain ⟨specs, hspecs, -⟩ := imports_eq_ok_iff.mp himports
  exact ⟨hpackage, specs, hspecs⟩

/-! ## The imports -/

theorem baseImports_of_generateView (options : Options)
    (template : Template) :
    template.baseImports { options with generateView := true } =
      template.baseImports { options with generateView := false } ++
        [.plain options.viewImport] := by
  rw [baseImports_eq, baseImports_eq]
  simp only [if_true, Bool.false_eq_true, if_false, List.append_nil]
  rfl

end Template

/-- An import that is offered somewhere in between changes the imports that
are kept only by itself. -/
theorem ImportSet.perm_insert_of_items {set larger : ImportSet}
    {spec : ImportSpec} {before after : List ImportSpec}
    (hitems : set.items = (before ++ after).eraseDups)
    (hlarger : larger.items = (before ++ [spec] ++ after).eraseDups) :
    larger.items.Perm (set.items.insert spec) := by
  apply (List.perm_ext_iff_of_nodup larger.nodup (set.nodup.insert)).mpr
  intro other
  rw [List.mem_insert_iff, hitems, hlarger, List.mem_eraseDups,
    List.mem_eraseDups]
  simp only [List.mem_append, List.mem_singleton]
  tauto

theorem Import.newlines_specLines_le {specs larger : List ImportSpec}
    {spec : ImportSpec} (hperm : larger.Perm (specs.insert spec)) :
    (specLines specs).newlines ≤ (specLines larger).newlines := by
  have hsame : (specLines larger).newlines =
      (specLines (specs.insert spec)).newlines :=
    (hperm.flatMap fun _ _ => .rfl).count_eq '\n'
  rw [hsame]
  exact ((List.sublist_insert spec specs).flatMap _).count_le '\n'

theorem Text.newlines_between_le {text larger : Text}
    (hle : text.newlines ≤ larger.newlines) (before after : Text) :
    newlines (before ++ text ++ after) ≤
      newlines (before ++ larger ++ after) := by
  simp only [newlines_append]
  omega

/-! ## The mappings -/

def Mapping.down (lines : Nat) (mapping : Mapping) : Mapping :=
  { mapping with generatedLine := mapping.generatedLine + lines }

theorem Block.mapping?_down {opening lower : Text} {lines : Nat}
    (hlower : lower.newlines = opening.newlines + lines) (options : Options)
    (blocks : List Block) (block : Block) (index : Nat) :
    mapping? options lower blocks block index =
      (mapping? options opening blocks block index).map
        (Mapping.down lines) := by
  have hline : 1 + (codeBefore options lower blocks index block).newlines =
      1 + (codeBefore options opening blocks index block).newlines +
        lines := by
    rw [newlines_codeBefore, newlines_codeBefore, hlower]
    omega
  unfold mapping?
  split
  · rw [hline]
    rfl
  · rfl

theorem Template.mappings_down {workingDirectory : List Bytes}
    {options other : Options} {template : Template} {file lower : Go.File}
    {lines : Nat} (hfile : template.file workingDirectory options = .ok file)
    (hlower : template.file workingDirectory other = .ok lower)
    (hmapping : Block.mapping? other = Block.mapping? options)
    (hlines : lower.opening.newlines = file.opening.newlines + lines) :
    (lower.listing other.debug).finish.mappings =
      (file.listing options.debug).finish.mappings.map
        (Mapping.down lines) := by
  rw [Go.File.mappings_listing (body_of_file hlower),
    Go.File.mappings_listing (body_of_file hfile), hmapping,
    List.map_filterMap]
  apply List.filterMap_congr
  rintro ⟨block, index⟩ -
  exact Block.mapping?_down hlines options template.blocks block index

/-- Asking for a view leaves the template function alone, and the view
forwards every parameter.  The two files differ in the import list and in the
factory at the end.  The list holds the same imports and that of the view
type.  All mapped lines move down by the newlines that the preamble gains.
The factory takes the declared parameters of the function, and passes on their
names behind the writer of the page. -/
theorem Template.view_leaves_function_alone {workingDirectory : List Bytes}
    {options : Options} {template : Template} {code : Code}
    (hgenerate : template.generate workingDirectory options = .ok code) :
    ∃ (plain viewed : Code) (package : Text)
      (imports viewImports : List ImportSpec),
      template.generate workingDirectory
        { options with generateView := false } = .ok plain ∧
      template.generate workingDirectory
        { options with generateView := true } = .ok viewed ∧
      plain.text =
        Go.preambleText package imports ++ template.functionText options ∧
      viewed.text =
        Go.preambleText package viewImports ++
          template.functionText options ++
          '\n' :: template.factoryText options package ∧
      imports.Nodup ∧
      viewImports.Perm (imports.insert (.plain options.viewImport)) ∧
      (Go.preambleText package imports).newlines ≤
        (Go.preambleText package viewImports).newlines ∧
      viewed.mappings = plain.mappings.map fun mapping =>
        { mapping with
          generatedLine := mapping.generatedLine +
            ((Go.preambleText package viewImports).newlines -
              (Go.preambleText package imports).newlines) } := by
  obtain ⟨file, hfile, rfl⟩ := generate_eq_ok_iff.mp hgenerate
  obtain ⟨hpackage, specs, hspecs⟩ := exists_specs_of_file hfile
  obtain ⟨plain, hplain, hplainPackage, hitems⟩ :=
    exists_file hpackage hspecs { options with generateView := false }
  obtain ⟨viewed, hviewed, hviewedPackage, hviewItems⟩ :=
    exists_file hpackage hspecs { options with generateView := true }
  rw [baseImports_of_generateView] at hviewItems
  have hperm := ImportSet.perm_insert_of_items hitems hviewItems
  have hpreamble :
      plain.preamble = Go.preambleText file.package plain.imports.items := by
    rw [preamble_of_file hplain, hplainPackage]
  have hviewPreamble : viewed.preamble =
      Go.preambleText file.package viewed.imports.items := by
    rw [preamble_of_file hviewed, hviewedPackage]
  have hgrows : (Go.preambleText file.package plain.imports.items).newlines ≤
      (Go.preambleText file.package viewed.imports.items).newlines := by
    unfold Go.preambleText
    exact Text.newlines_between_le (Import.newlines_specLines_le hperm) _ _
  refine ⟨_, _, file.package, plain.imports.items, viewed.imports.items,
    generate_eq_ok_iff.mpr ⟨plain, hplain, rfl⟩,
    generate_eq_ok_iff.mpr ⟨viewed, hviewed, rfl⟩, ?_, ?_,
    plain.imports.nodup, hperm, hgrows, ?_⟩
  · rw [text_of_file_around_function hplain, hpreamble,
      ending_of_file hplain rfl, List.append_nil]
    rfl
  · rw [text_of_file_around_function hviewed, hviewPreamble,
      ending_of_generateView hviewed rfl, hviewedPackage]
    rfl
  · apply mappings_down hplain hviewed rfl
    -- The signature is the same, so the openings differ by their preambles
    -- only.
    have hsignature : viewed.signatureLine = plain.signatureLine :=
      (signatureLine_of_file hviewed).trans
        (signatureLine_of_file hplain).symm
    rw [Go.File.opening, Go.File.opening, hsignature, hpreamble,
      hviewPreamble, Text.newlines_append, Text.newlines_append]
    omega

/-- Two parameters stand around a text, and the factory passes both on in
order. -/
theorem Template.view_leaves_function_alone_of_scattered_parameters :
    ∃ (template : Template) (viewed : Code) (factory : Text),
      template = ⟨[47, 118, 47, 97],
        [⟨.parameter ['n'] ['i'], ⟨['a'], 1⟩⟩, ⟨.text ['x'], ⟨['a'], 1⟩⟩,
          ⟨.parameter ['m'] ['j'], ⟨['a'], 1⟩⟩]⟩ ∧
      template.generate [] { generateView := true } = .ok viewed ∧
      '\n' :: factory <:+ viewed.text ∧
      template.functionName ++ "(w, n, m".toList ++ [')'] <:+: factory := by
  obtain ⟨file, hfile⟩ :=
    @Template.exists_file_of_headers_nil [] ⟨[47, 118, 47, 97],
      [⟨.parameter ['n'] ['i'], ⟨['a'], 1⟩⟩, ⟨.text ['x'], ⟨['a'], 1⟩⟩,
        ⟨.parameter ['m'] ['j'], ⟨['a'], 1⟩⟩]⟩ ['v'] rfl rfl {}
  have hgenerate := Template.generate_eq_ok_iff.mpr ⟨file, hfile, rfl⟩
  obtain ⟨-, viewed, package, -, viewImports, -, hviewed, -, htext, -⟩ :=
    Template.view_leaves_function_alone hgenerate
  refine ⟨_, viewed, _, rfl, hviewed, htext ▸ List.suffix_append _ _, ?_⟩
  exact ⟨_, _, rfl⟩

end Stencil
