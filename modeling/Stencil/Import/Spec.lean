import Stencil.Text.Basic

/-!
# Imports

An import names a package by its path and may give it a local name.  No local
name and the empty local name are different things.
-/

namespace Stencil

structure ImportSpec where
  localName : Option Text
  path : Text
  deriving DecidableEq, Repr

namespace ImportSpec

/-- A package imported under its own name. -/
def plain (path : Text) : ImportSpec :=
  ⟨none, path⟩

/-- The import as it stands in an import declaration. -/
def spelling (spec : ImportSpec) : Text :=
  match spec.localName with
  | some localName => localName ++ ' ' :: '"' :: spec.path ++ ['"']
  | none => '"' :: spec.path ++ ['"']

end ImportSpec
end Stencil
