import Stencil.Go.Statement
import Stencil.Import.Set

/-!
# Generated files

A generated file has a preamble with package and imports, one function that
writes the page, and possibly a factory for deferred views of the page.  Only
the statements of the function are mapped, and everything else is plain text
around them.
-/

namespace Stencil
namespace Go

/-- Parameters of a function: names and types. -/
abbrev Parameters := List (Text × Text)

def Parameters.signature (parameters : Parameters) : Text :=
  Text.join ", ".toList
    (parameters.map fun (name, type) => name ++ ' ' :: type)

structure ViewFactory where
  name : Text
  /-- The name of the package with the view type. -/
  qualifier : Text
  path : Text

structure File where
  package : Text
  imports : ImportSet
  functionName : Text
  parameters : Parameters
  body : List Statement
  view? : Option ViewFactory

namespace File

def preamble (file : File) : Text :=
  "// Code generated by egon. DO NOT EDIT.\n\npackage ".toList ++
    file.package ++ "\n\n".toList ++ file.imports.block ++ ['\n']

/-- The parameters of the template function, the writer of the page first. -/
def functionParameters (file : File) : Parameters :=
  (['w'], "io.Writer".toList) :: file.parameters

def signatureLine (file : File) : Text :=
  "func ".toList ++ file.functionName ++
    '(' :: file.functionParameters.signature ++ ") error \x7b\n".toList

def functionEnd : Text :=
  "\treturn nil\n\x7d\n".toList

/-- The call of the template function from the factory. -/
def call (file : File) : Text :=
  file.functionName ++
    '(' :: Text.join ", ".toList (['w'] :: file.parameters.map (·.1)) ++ [')']

/-- The view factory, with the line break that sets it apart. -/
def viewText (file : File) (view : ViewFactory) : Text :=
  "\nfunc ".toList ++ view.name ++
    '(' :: file.parameters.signature ++ ") *".toList ++
    view.qualifier ++ ".View \x7b\n\treturn &".toList ++ view.qualifier ++
    ".View\x7b\n\t\tPackageName:  ".toList ++ literal file.package ++
    ",\n\t\tName:         ".toList ++ literal file.functionName ++
    ",\n\t\tTemplatePath: ".toList ++ literal view.path ++
    ",\n\t\tRenderFunc: func(w io.Writer) error \x7b\n\t\t\treturn ".toList ++
    file.call ++
    "\n\t\t\x7d,\n\t\x7d\n\x7d\n".toList

def ending (file : File) : Text :=
  match file.view? with
  | some view => file.viewText view
  | none => []

/-- The whole file, with line directives if asked for. -/
def listing (debug : Bool) (file : File) : Listing :=
  let opened := (Listing.empty.push file.preamble).push file.signatureLine
  let written := file.body.foldl (Statement.writeTo debug) opened
  (written.push functionEnd).push file.ending

end File
end Go
end Stencil
