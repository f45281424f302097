import Stencil.Disk.Fault
import Stencil.Import.Fragment
import Stencil.Template.SyntaxError
import Stencil.Text.Utf8

/-!
# Compile errors

A template cannot be compiled if it is malformed, if its path has no directory
to name the package after, if its headers are not imports, or if its file
cannot be read.
-/

namespace Stencil

inductive CompileError where
  | malformed (error : SyntaxError)
  | unidentifiablePackage (path : Bytes)
  | header (path : Bytes) (error : Import.Error)
  | unreadable (path : Bytes) (fault : FileFault)
  deriving DecidableEq, Repr

namespace CompileError

def description : CompileError → Text
  | .malformed error => error.description
  | .unidentifiablePackage path =>
      Utf8.decodeLossy path ++ ": unable to identify package name".toList
  | .header path error =>
      Utf8.decodeLossy path ++ ": invalid header: ".toList ++
        error.description
  | .unreadable path fault =>
      Utf8.decodeLossy path ++ ": ".toList ++ fault.message

/-- The cause behind the error, on one line. -/
def cause? : CompileError → Option Text
  | .malformed error => some error.description
  | .unidentifiablePackage _ => none
  | .header _ error => some error.description
  | .unreadable _ fault => some fault.message

end CompileError
end Stencil
