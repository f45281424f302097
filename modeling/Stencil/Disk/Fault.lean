import Stencil.Text.Basic

/-!
# File faults

The reasons for which a file cannot be read or written.
-/

namespace Stencil

inductive FileFault where
  | missing
  | isDirectory
  | notDirectory
  | nameTooLong
  | nulInName
  | invalidText
  | other (description : Text)
  deriving DecidableEq, Repr

def FileFault.message : FileFault → Text
  | .missing => "No such file or directory (os error 2)".toList
  | .isDirectory => "Is a directory (os error 21)".toList
  | .notDirectory => "Not a directory (os error 20)".toList
  | .nameTooLong => "File name too long (os error 36)".toList
  | .nulInName => "file name contained an unexpected NUL byte".toList
  | .invalidText => "stream did not contain valid UTF-8".toList
  | .other description => description

end Stencil
