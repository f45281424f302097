import Stencil.Compile.Error
import Stencil.Text.Lines

/-!
# Rendering of errors

An error is shown in a plain or in a coloured form, which differ in the escape
sequences around the parts and in nothing else.  A syntax error shows the line
on which its tag opens, in a gutter that is as wide as the line number, and
underlines that line's text.
-/

namespace Stencil

/-- The sequences that switch to a way of showing text and back. -/
structure Style where
  alarm : Text
  faint : Text
  accent : Text
  success : Text
  strong : Text
  reset : Text

namespace Style

def plain : Style :=
  ⟨[], [], [], [], [], []⟩

def colored : Style where
  alarm := "\x1b[1;31m".toList
  faint := "\x1b[2m".toList
  accent := "\x1b[1;38;5;73m".toList
  success := "\x1b[32m".toList
  strong := "\x1b[1m".toList
  reset := "\x1b[0m".toList

end Style

/-- A text inside the sequences that switch a way of showing on and off. -/
def Style.wrap (style : Style) (switch text : Text) : Text :=
  switch ++ text ++ style.reset

namespace SyntaxError

/-- The number of bytes that the white space before the text of a line takes. -/
def indent (line : Text) : Nat :=
  (Utf8.encode (line.takeWhile Text.isSpace)).length

/-- The source line of the error, numbered and underlined. -/
def snippet (style : Style) (number : Nat) (line : Text) : Text :=
  let digits := Text.ofNat number
  let width := max 2 digits.length
  let gutter (label : Text) := style.wrap style.faint (label ++ " |".toList)
  let blank := List.replicate width ' '
  let carets := List.replicate (max 1 (Text.trim line).length) '^'
  gutter blank ++ ['\n'] ++
    gutter (digits.leftpad width ' ') ++ ' ' :: line ++ ['\n'] ++
    gutter blank ++ ' ' :: List.replicate (indent line) ' ' ++
    style.wrap style.alarm carets ++ ['\n']

/-- The line of the source on which the error's tag opens, as a snippet, if
the source has that line. -/
def snippet? (style : Style) (source : Text) (error : SyntaxError) :
    Option Text :=
  match error.position.line with
  | 0 => none
  | number + 1 => source.lines[number]?.map (snippet style (number + 1))

def helpLines (style : Style) (help : Text) : Text :=
  match help.lines with
  | [] => []
  | first :: others =>
      ' ' :: style.wrap style.accent "help:".toList ++
        ' ' :: first ++ ['\n'] ++
        others.flatMap fun line => "       ".toList ++ line ++ ['\n']

def render (style : Style) (source : Text) (error : SyntaxError) : Text :=
  '\n' :: ' ' :: style.wrap style.faint "file:".toList ++
    ' ' :: error.position.path ++
    ':' :: Text.ofNat error.position.line ++ ['\n'] ++
    style.wrap style.alarm "error:".toList ++ ' ' :: error.message ++ ['\n'] ++
    (snippet? style source error).getD [] ++
    (match error.help with
      | some help => '\n' :: helpLines style help
      | none => []) ++ ['\n']

end SyntaxError

/-- An error of which there is nothing to show but its description. -/
def CompileError.notice (style : Style) (description : Text) : Text :=
  style.wrap style.alarm "error".toList ++ ": ".toList ++
    style.wrap style.strong description ++ ['\n']

def CompileError.render (style : Style) (source : Text) : CompileError → Text
  | .malformed error => error.render style source
  | error => notice style error.description

end Stencil
