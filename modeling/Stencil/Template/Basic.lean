import Stencil.Path
import Stencil.Template.Cursor
import Stencil.Text.Letter
import Stencil.Text.Uppercase
import Stencil.Text.Utf8

/-!
# Templates

A template is a path and a sequence of blocks.  The path need not be text, so
it is kept as bytes; where a name has to be shown, damaged stretches are
replaced.

The path decides the two names of the generated code.  The functions are named
for the words of the file name, and the package is the directory that the file
lies in after lexical resolution.
-/

namespace Stencil

structure Template where
  path : Bytes
  blocks : List Block
  deriving DecidableEq, Repr

namespace Template

def ofSource (typesafe : Bool) (path : Bytes) (source : Text) :
    Except SyntaxError Template :=
  (Cursor.start (Utf8.decodeLossy path) typesafe source).blocks.map
    fun blocks => ⟨path, Block.mergeTexts blocks⟩

/-- The declared parameters: names and types. -/
def parameters (template : Template) : List (Text × Text) :=
  template.blocks.filterMap Block.parameter?

/-- The contents of the header tags and their positions. -/
def headers (template : Template) : List (Text × Position) :=
  template.blocks.filterMap Block.header?

/-- The blocks that stand in the body of the generated function. -/
def body (template : Template) : List Block :=
  template.blocks.filter Block.isBody

def prints (template : Template) : List (Text × PrintKind) :=
  template.blocks.filterMap Block.print?

/-! ## Names -/

def pathText (template : Template) : Text :=
  Utf8.decodeLossy template.path

/-- The file name as text, empty if the path has none. -/
def fileName (template : Template) : Text :=
  match Path.fileName? template.path with
  | some name => Utf8.decodeLossy name
  | none => []

def outputPath (template : Template) : Bytes :=
  template.path ++ Utf8.encode ".go".toList

/-- The characters that words of a name are made of. -/
def isNameCharacter (c : Char) : Bool :=
  Text.isLetter c || c.isDigit

/-- The words of a text put together, each with its first character in upper
case.  The flag tells whether the text starts at the start of a word. -/
def capitalizeFrom (atStart : Bool) : Text → Text
  | [] => []
  | c :: text =>
      if isNameCharacter c then
        (if atStart then Text.uppercase c else [c]) ++
          capitalizeFrom false text
      else
        capitalizeFrom true text

/-- The name of the template: the words of its file name up to the first dot. -/
def name (template : Template) : Text :=
  capitalizeFrom true (template.fileName.takeWhile (· ≠ '.'))

def functionName (template : Template) : Text :=
  template.name ++ "Template".toList

def viewName (template : Template) : Text :=
  template.name ++ "View".toList

/-- The name of the package: the directory of the template, if its resolved
path has one below the root.  The empty path has no resolution. -/
def package? (workingDirectory : List Bytes) (template : Template) :
    Option Text :=
  if template.path = [] then none
  else
    match (Path.resolve workingDirectory template.path).reverse with
    | _ :: directory :: _ => some (Utf8.decodeLossy directory)
    | _ => none

end Template
end Stencil
