import Stencil.Template.Position

/-!
# Blocks

A template is a sequence of blocks: literal text and the contents of tags,
each with the position where it starts.  Adjacent texts can be merged without
any change to the page, and merging is what makes the sequence canonical.
-/

namespace Stencil

/-- How the value of a print tag becomes text. -/
inductive PrintKind where
  | decimal
  | string
  | default
  | custom (verb : Char)
  deriving DecidableEq, Repr

namespace PrintKind

def ofMarker (letter : Char) : PrintKind :=
  if letter = 'd' then .decimal
  else if letter = 's' then .string
  else .custom letter

end PrintKind

inductive Item where
  | text (content : Text)
  | code (content : Text)
  | header (content : Text)
  | parameter (name type : Text)
  | print (content : Text) (kind : PrintKind)
  | rawPrint (content : Text)
  | comment (content : Text)
  deriving DecidableEq, Repr

/-- A piece of a template and the position where it starts. -/
structure Block where
  item : Item
  position : Position
  deriving DecidableEq, Repr

namespace Block

/-- The blocks with every run of adjacent texts merged into one text at the
position of the first. -/
def mergeTexts : List Block → List Block
  | [] => []
  | block :: blocks =>
      match block.item, mergeTexts blocks with
      | .text content, ⟨.text next, _⟩ :: rest =>
          ⟨.text (content ++ next), block.position⟩ :: rest
      | _, merged => block :: merged

/-- Whether the block stands in the body of the generated function. -/
def isBody (block : Block) : Bool :=
  match block.item with
  | .header _ | .parameter _ _ => false
  | _ => true

def parameter? (block : Block) : Option (Text × Text) :=
  match block.item with
  | .parameter name type => some (name, type)
  | _ => none

def header? (block : Block) : Option (Text × Position) :=
  match block.item with
  | .header content => some (content, block.position)
  | _ => none

def print? (block : Block) : Option (Text × PrintKind) :=
  match block.item with
  | .print content kind => some (content, kind)
  | _ => none

end Block
end Stencil
