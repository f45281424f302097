import Stencil.Disk.Fault
import Stencil.Text.Utf8

/-!
# File systems

What generating code asks of a file system: what a path denotes, the contents
of a file, the files below a directory, and a place to put the output.  Paths
are relative to a working directory, which also decides the packages of
templates with relative paths.

File systems limit the bytes of a name and of a path as it is spelled.  A path
that is empty, too long or not free of zero bytes is refused before anything
on the disk is looked at.
-/

namespace Stencil

inductive FileKind where
  | file
  | directory
  deriving DecidableEq, Repr

/-- The order of names in a directory, by their bytes. -/
def nameBefore (first second : Bytes) : Bool :=
  List.lex first second fun a b => decide (a.toNat < b.toNat)

/-- A file system, as an interface to the effects of `m`. -/
class FileSystem (m : Type → Type) where
  /-- The names from the root to the working directory. -/
  workingDirectory : m (List Bytes)
  /-- What a path denotes, if anything. -/
  kind? : Bytes → m (Option FileKind)
  read : Bytes → m (Except FileFault Bytes)
  /-- Puts contents into the file at a path, which need not exist. -/
  write : Bytes → Bytes → m (Except FileFault Unit)
  /-- The paths of all files below the directory at a path, the entries of
  each directory in the order of their names. -/
  filesBelow : Bytes → m (List Bytes)

namespace FileSystem

def nameLimit : Nat :=
  255

def pathLimit : Nat :=
  4095

/-- Why a path cannot be followed, whatever is on the disk. -/
def spellingFault? (path : Bytes) : Option FileFault :=
  if 0 ∈ path then some .nulInName
  else if path = [] then some .missing
  else if pathLimit < path.length then some .nameTooLong
  else none

end FileSystem

end Stencil
