import Stencil.Compile.Error
import Stencil.Go.File
import Stencil.Template.Basic

/-!
# Compilation

Compiling reads the source of a template and generates its file.  The package
is identified before the headers are read, and both before anything is
written, so of two faults the earlier one in this order is reported.

All headers are read as one fragment, because a group of imports may span
several tags.  A fault in the fragment is reported at the template line that
the faulty line of the fragment came from.
-/

namespace Stencil

/-- The name by which code refers to an imported package: the last component
of its path, or the one before it if the last is a version. -/
def packageQualifier (importPath : Text) : Text :=
  match (splitWhere (· = '/') importPath).reverse with
  | last :: parent :: _ =>
      if isVersion last ∧ parent ≠ [] then parent else last
  | last :: [] => last
  | [] => []
where
  isVersion : Text → Bool
    | 'v' :: digit :: digits => (digit :: digits).all Char.isDigit
    | _ => false

namespace Template

/-- The imports that generated code needs for itself. -/
def baseImports (options : Options) (template : Template) : List ImportSpec :=
  let kinds := template.prints.map fun (_, kind) =>
    Go.effectiveKind options kind
  let formats := kinds.any fun
    | .default | .custom _ => true
    | .decimal | .string => false
  ((if formats then ["fmt".toList] else []) ++
    (if kinds.contains .decimal then ["strconv".toList] else []) ++
    (if kinds = [] then [] else ["html".toList]) ++
    ["io".toList] ++
    (if options.generateView then [options.viewImport] else [])).map
      ImportSpec.plain

/-- The fragment that the headers make up together. -/
def headerFragment (template : Template) : Text :=
  Text.join ['\n'] (template.headers.map (·.1))

/-- The template line of a line of the header fragment, given the number of
the fragment line on which the first of the headers starts.  A line of a
header without a known position keeps its number. -/
def templateLine (line : Nat) : Nat → List (Text × Position) → Nat
  | _, [] => line
  | first, (content, position) :: headers =>
      if line ≤ first + content.newlines then
        if position.IsKnown then position.line + (line - first) else line
      else
        templateLine line (first + content.newlines + 1) headers

def imports (options : Options) (template : Template) :
    Except CompileError ImportSet :=
  let base := ImportSet.empty.insertAll (template.baseImports options)
  match Import.ofFragment template.headerFragment with
  | .ok specs => .ok (base.insertAll specs)
  | .error error =>
      .error (.header template.path
        { error with line := templateLine error.line 1 template.headers })

/-- The factory for views of the template, if the options ask for one. -/
def viewFactory? (options : Options) (template : Template) :
    Option Go.ViewFactory :=
  if options.generateView then
    some ⟨template.viewName, packageQualifier options.viewImport,
      template.pathText⟩
  else
    none

def file (workingDirectory : List Bytes) (options : Options)
    (template : Template) : Except CompileError Go.File :=
  match template.package? workingDirectory with
  | none => .error (.unidentifiablePackage template.path)
  | some package =>
      match template.imports options with
      | .error error => .error error
      | .ok imports => .ok {
          package := package
          imports := imports
          functionName := template.functionName
          parameters := template.parameters
          body := template.body.filterMap (Go.Statement.ofBlock? options)
          view? := template.viewFactory? options }

def generate (workingDirectory : List Bytes) (options : Options)
    (template : Template) : Except CompileError Code :=
  (template.file workingDirectory options).map fun file =>
    (file.listing options.debug).finish

end Template

/-- The template that a source spells, or why it is malformed. -/
def parse (options : Options) (path : Bytes) (source : Text) :
    Except CompileError Template :=
  match Template.ofSource options.typesafe path source with
  | .ok template => .ok template
  | .error error => .error (.malformed error)

def parseBytes (options : Options) (path contents : Bytes) :
    Except CompileError Template :=
  match Utf8.decode? contents with
  | some source => parse options path source
  | none => .error (.unreadable path .invalidText)

def compile (workingDirectory : List Bytes) (options : Options) (path : Bytes)
    (source : Text) : Except CompileError Code :=
  match parse options path source with
  | .ok template => template.generate workingDirectory options
  | .error error => .error error

end Stencil
