import Stencil.Split
import Stencil.Text.Basic
import Stencil.Text.Utf8

/-!
# Paths

A path is a sequence of units, bytes or characters, in which the slash divides
components.  Empty components and `.` say nothing and are dropped, so `a//b/.`
and `a/b` have the same components; `..` stands for the directory above and is
kept until the path is resolved.

Resolution is lexical: it walks the components from the left and lets each
`..` remove the component before it, without asking a file system.
-/

namespace Stencil

/-- The units in which a path can be spelled. -/
class PathUnit (α : Type) where
  slash : α
  dot : α

instance : PathUnit Char where
  slash := '/'
  dot := '.'

instance : PathUnit UInt8 where
  slash := 0x2F
  dot := 0x2E

namespace Path

variable {α : Type} [DecidableEq α] [PathUnit α]

def above : List α :=
  [PathUnit.dot, PathUnit.dot]

def isAbsolute (path : List α) : Bool :=
  path.head? = some PathUnit.slash

/-- The components that say something: ordinary names and `..`. -/
def components (path : List α) : List (List α) :=
  (splitWhere (· = PathUnit.slash) path).filter fun component =>
    component ≠ [] ∧ component ≠ [PathUnit.dot]

/-- One step of lexical resolution, from a directory given by its names. -/
def enter (directory : List (List α)) (component : List α) : List (List α) :=
  if component = above then directory.dropLast else directory ++ [component]

/-- The names from the root to what a path denotes, relative paths being taken
from a working directory. -/
def resolve (workingDirectory : List (List α)) (path : List α) :
    List (List α) :=
  (components path).foldl enter
    (if isAbsolute path then [] else workingDirectory)

/-- The last component of a path, if it is an ordinary name. -/
def fileName? (path : List α) : Option (List α) :=
  (components path).getLast?.filter (· ≠ above)

/-- The part of the file name after its last dot.  A name whose only dot comes
first has no extension. -/
def extension? (path : List α) : Option (List α) :=
  (fileName? path).bind fun name =>
    match (splitWhere (· = PathUnit.dot) name).reverse with
    | last :: before =>
        if before = [] ∨ before = [[]] then none else some last
    | [] => none

def child (directory name : List α) : List α :=
  if directory.getLast? = some PathUnit.slash then directory ++ name
  else directory ++ PathUnit.slash :: name

end Path
end Stencil
