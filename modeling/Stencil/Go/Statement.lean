import Stencil.Go.Literal
import Stencil.Listing
import Stencil.Options
import Stencil.Template.Block
import Stencil.Text.Collapse
import Stencil.Text.Space

/-!
# Statements

Every block of a body becomes at most one statement of the template function.
Literal text and printed values are written to the page, embedded code is
copied as it is, and comments leave no trace.  A statement starts on a line of
its own, which is the line its mapping names.
-/

namespace Stencil
namespace Go

inductive Action where
  | write (text : Text)
  | run (code : Text)
  /-- Writes the value of an expression, escaped for the page. -/
  | print (kind : PrintKind) (expression : Text)
  /-- Writes the value of an expression as it is. -/
  | printRaw (expression : Text)
  deriving DecidableEq, Repr

def conversion (kind : PrintKind) (expression : Text) : Text :=
  match kind with
  | .decimal => "strconv.Itoa(".toList ++ expression ++ [')']
  | .string => expression
  | .default => "fmt.Sprintf(\"%v\", ".toList ++ expression ++ [')']
  | .custom verb =>
      "fmt.Sprintf(\"%".toList ++ verb :: "\", ".toList ++ expression ++ [')']

def writeString (expression : Text) : Text :=
  "\tio.WriteString(w, ".toList ++ expression ++ [')']

def Action.code : Action → Text
  | .write text => writeString (literal text)
  | .run code => code
  | .print kind expression =>
      writeString
        ("html.EscapeString(".toList ++ conversion kind expression ++ [')'])
  | .printRaw expression => writeString expression

/-- Whether the action evaluates Go code of the template. -/
def Action.isEmbedded : Action → Bool
  | .write _ => false
  | _ => true

/-- An action and the position of the block it stems from. -/
structure Statement where
  action : Action
  position : Position
  deriving DecidableEq, Repr

/-- The conversion in use for a print tag of the given kind. -/
def effectiveKind (options : Options) (kind : PrintKind) : PrintKind :=
  if options.stringOptimisations then kind else .default

/-- A literal text as the options want it. -/
def effectiveText (options : Options) (content : Text) : Text :=
  if options.minify then content.collapse else content

/-- The statement of a block, if it has one.  Text that collapses to nothing
has none. -/
def Statement.ofBlock? (options : Options) (block : Block) :
    Option Statement :=
  match block.item with
  | .text content =>
      if effectiveText options content = [] then none
      else some ⟨.write (effectiveText options content), block.position⟩
  | .code content => some ⟨.run content, block.position⟩
  | .print content kind =>
      some ⟨.print (effectiveKind options kind) content.trim, block.position⟩
  | .rawPrint content => some ⟨.printRaw content.trim, block.position⟩
  | .comment _ | .header _ | .parameter _ _ => none

theorem Statement.ofBlock?_text (options : Options) (content : Text)
    (position : Position) :
    Statement.ofBlock? options ⟨.text content, position⟩ =
      if effectiveText options content = [] then none
      else some ⟨.write (effectiveText options content), position⟩ := rfl

def Statement.directive? (debug : Bool) (statement : Statement) :
    Option Text :=
  if debug && statement.action.isEmbedded then
    statement.position.lineDirective?
  else none

def Statement.writeTo (debug : Bool) (listing : Listing)
    (statement : Statement) : Listing :=
  let preceded := match statement.directive? debug with
    | some directive => listing.pushLine directive
    | none => listing
  (preceded.pushMapped statement.action.code statement.position).newline

end Go
end Stencil
