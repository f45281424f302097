import Stencil.Template.Position
import Stencil.Text.Space

/-!
# Syntax errors

A template is malformed in one of two ways: a tag is never closed, or a
parameter tag does not declare exactly one name and one type.  An error keeps
the position where the tag opens.
-/

namespace Stencil

inductive TagFault where
  | truncated
  | malformedParameter
  deriving DecidableEq, Repr

def TagFault.label : TagFault → Text
  | .truncated => "Truncated tag".toList
  | .malformedParameter => "Malformed parameter".toList

/-- A malformed tag, where it opens, and what to tell about it. -/
structure SyntaxError where
  fault : TagFault
  message : Text
  position : Position
  help : Option Text
  deriving DecidableEq, Repr

namespace SyntaxError

def truncatedTag (position : Position) : SyntaxError where
  fault := .truncated
  message := "unexpected end of input inside tag".toList
  position := position
  help := some
    "every <% tag must be closed with %> (header tags with %%>)".toList

def malformedParameter (content : Text) (position : Position) :
    SyntaxError where
  fault := .malformedParameter
  message := "parameter declaration `".toList ++ Text.trim content ++
    "` should be of the form `name type`".toList
  position := position
  help := some
    "declare one parameter per tag, e.g. <%! items []string %>".toList

def description (error : SyntaxError) : Text :=
  error.position.path ++ ':' :: Text.ofNat error.position.line ++
    ": ".toList ++ error.message

end SyntaxError
end Stencil
