import Stencil.Compile.Basic

/-!
# The text of generated code

Statements are written to a listing one after another, and each contributes
its own lines whatever was written before.  So the text of a generated file is
its preamble, the signature of the function, the lines of the statements, the
end of the function and possibly the view factory, in this order.
-/

namespace Stencil
namespace Go

/-- The lines that a statement contributes to a listing. -/
def Statement.lines (debug : Bool) (statement : Statement) : Text :=
  ((statement.directive? debug).map (· ++ ['\n'])).getD [] ++
    statement.action.code ++ ['\n']

theorem Statement.text_finish_writeTo
    (debug : Bool) (listing : Listing) (statement : Statement) :
    (statement.writeTo debug listing).finish.text =
      listing.finish.text ++ statement.lines debug := by
  unfold Statement.writeTo Statement.lines
  cases statement.directive? debug with
  | none => simp
  | some directive => simp [Listing.pushLine]

theorem Statement.text_finish_foldl_writeTo
    (debug : Bool) (listing : Listing) (body : List Statement) :
    (body.foldl (Statement.writeTo debug) listing).finish.text =
      listing.finish.text ++ body.flatMap (Statement.lines debug) := by
  induction body generalizing listing with
  | nil => simp
  | cons statement body ih =>
      rw [List.foldl_cons, ih, Statement.text_finish_writeTo,
        List.flatMap_cons, List.append_assoc]

theorem File.text_listing (debug : Bool) (file : File) :
    (file.listing debug).finish.text =
      file.preamble ++ file.signatureLine ++
        file.body.flatMap (Statement.lines debug) ++
        File.functionEnd ++ file.ending := by
  unfold File.listing
  simp [Statement.text_finish_foldl_writeTo]

end Go

theorem Template.path_ne_nil_of_package? {workingDirectory : List Bytes}
    {template : Template} {package : Text}
    (hpackage : template.package? workingDirectory = some package) :
    template.path ≠ [] := by
  intro hnil
  rw [package?, if_pos hnil] at hpackage
  cases hpackage

theorem Template.file_eq_ok_iff {workingDirectory : List Bytes}
    {options : Options} {template : Template} {file : Go.File} :
    template.file workingDirectory options = .ok file ↔
      ∃ package imports, template.package? workingDirectory = some package ∧
        template.imports options = .ok imports ∧
        file = {
          package := package
          imports := imports
          functionName := template.functionName
          parameters := template.parameters
          body := template.body.filterMap (Go.Statement.ofBlock? options)
          view? := template.viewFactory? options } := by
  unfold Template.file
  cases template.package? workingDirectory with
  | none => simp
  | some package =>
      cases template.imports options with
      | error error => simp
      | ok imports => simp [eq_comm]

theorem Template.filterMap_body (options : Options) (template : Template) :
    template.body.filterMap (Go.Statement.ofBlock? options) =
      template.blocks.filterMap (Go.Statement.ofBlock? options) := by
  rw [Template.body, List.filterMap_filter]
  congr 1
  funext block
  obtain ⟨item, position⟩ := block
  cases item <;> rfl

theorem Template.body_of_file {workingDirectory : List Bytes}
    {options : Options} {template : Template} {file : Go.File}
    (hfile : template.file workingDirectory options = .ok file) :
    file.body =
      template.blocks.filterMap (Go.Statement.ofBlock? options) := by
  obtain ⟨package, imports, -, -, rfl⟩ := Template.file_eq_ok_iff.mp hfile
  exact Template.filterMap_body options template

theorem Template.imports_of_file {workingDirectory : List Bytes}
    {options : Options} {template : Template} {file : Go.File}
    (hfile : template.file workingDirectory options = .ok file) :
    template.imports options = .ok file.imports := by
  obtain ⟨package, imports, -, himports, rfl⟩ :=
    Template.file_eq_ok_iff.mp hfile
  exact himports

theorem Template.imports_eq_ok_iff {options : Options} {template : Template}
    {imports : ImportSet} :
    template.imports options = .ok imports ↔
      ∃ specs, Import.ofFragment template.headerFragment = .ok specs ∧
        imports = ImportSet.empty.insertAll
          (template.baseImports options ++ specs) := by
  unfold Template.imports
  cases Import.ofFragment template.headerFragment with
  | error error => simp
  | ok specs => simp [ImportSet.insertAll_insertAll, eq_comm]

/-- A package and headers that can be read make a file, whatever the options
are. -/
theorem Template.exists_file {workingDirectory : List Bytes}
    {template : Template} {package : Text} {specs : List ImportSpec}
    (hpackage : template.package? workingDirectory = some package)
    (hspecs : Import.ofFragment template.headerFragment = .ok specs)
    (options : Options) :
    ∃ file, template.file workingDirectory options = .ok file ∧
      file.package = package ∧
      file.imports.items =
        (template.baseImports options ++ specs).eraseDups := by
  refine ⟨_, Template.file_eq_ok_iff.mpr
    ⟨package, _, hpackage,
      Template.imports_eq_ok_iff.mpr ⟨specs, hspecs, rfl⟩, rfl⟩, rfl, ?_⟩
  exact ImportSet.items_insertAll ImportSet.empty _

theorem Template.exists_file_of_headers_nil {workingDirectory : List Bytes}
    {template : Template} {package : Text}
    (hpackage : template.package? workingDirectory = some package)
    (hheaders : template.headers = []) (options : Options) :
    ∃ file, template.file workingDirectory options = .ok file := by
  have hspecs : Import.ofFragment template.headerFragment = .ok [] := by
    rw [Template.headerFragment, hheaders]
    exact Import.ofFragment_nil
  obtain ⟨file, hfile, -⟩ := Template.exists_file hpackage hspecs options
  exact ⟨file, hfile⟩

theorem Template.generate_eq_ok_iff {workingDirectory : List Bytes}
    {options : Options} {template : Template} {code : Code} :
    template.generate workingDirectory options = .ok code ↔
      ∃ file, template.file workingDirectory options = .ok file ∧
        code = (file.listing options.debug).finish := by
  unfold Template.generate
  cases template.file workingDirectory options with
  | error error => simp [Except.map]
  | ok file => simp [Except.map, eq_comm]

theorem compile_eq_ok_iff {workingDirectory : List Bytes} {options : Options}
    {path : Bytes} {source : Text} {code : Code} :
    compile workingDirectory options path source = .ok code ↔
      ∃ template file, parse options path source = .ok template ∧
        template.file workingDirectory options = .ok file ∧
        code = (file.listing options.debug).finish := by
  unfold compile
  cases parse options path source with
  | error error => simp
  | ok template => simp [Template.generate_eq_ok_iff]

end Stencil
