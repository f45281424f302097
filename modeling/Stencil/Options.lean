import Stencil.Text.Basic

/-!
# Options

What a user can choose about templates and the generated code.  No option
decides whether a template compiles.
-/

namespace Stencil

structure Options where
  /-- The extension of template files, without its dot.  Only the search for
  templates looks at it. -/
  extension : Text := "egon".toList
  /-- Print tags may carry a marker that tells the kind of the value. -/
  typesafe : Bool := false
  /-- Values are converted as their kind says, and not all by default. -/
  stringOptimisations : Bool := false
  /-- Code, prints and raw prints are preceded by line directives. -/
  debug : Bool := false
  /-- White space in literal text is collapsed. -/
  minify : Bool := false
  /-- A view factory follows the template function. -/
  generateView : Bool := false
  /-- The import path of the package with the view type. -/
  viewImport : Text := "github.com/titpetric/egon".toList
  deriving DecidableEq, Repr

end Stencil
