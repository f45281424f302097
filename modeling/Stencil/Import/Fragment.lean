import Stencil.Import.Spec
import Stencil.Text.Letter
import Stencil.Text.Lines
import Stencil.Text.Numeral
import Stencil.Text.Space

/-!
# Import fragments

The header tags of a template hold import declarations of Go, single or in
groups, between white space, semicolons and comments.  A fragment is read from
the left, and every reader hands on the text that it leaves.

A reader that fails hands on where it stopped, and the line of the error is
read off from what stands before that place.  So no reader counts lines, and
the rest of the text, which never grows, is all that carries the recursion.
-/

namespace Stencil
namespace Import

/-- Why a fragment is not a sequence of import declarations. -/
inductive Fault where
  | expectedDeclaration (found : Text)
  | expectedPath (found : Text)
  | unterminatedGroup
  | unterminatedComment
  | unterminatedPath
  | invalidCharacter
  | emptyPath
  deriving DecidableEq, Repr

def Fault.message : Fault → Text
  | .expectedDeclaration found =>
      "expected import declaration, found `".toList ++ found ++ ['\x60']
  | .expectedPath found =>
      "expected import path, found `".toList ++ found ++ ['\x60']
  | .unterminatedGroup => "unterminated import group".toList
  | .unterminatedComment => "unterminated comment".toList
  | .unterminatedPath => "unterminated import path".toList
  | .invalidCharacter => "invalid character in import path".toList
  | .emptyPath => "empty import path".toList

/-- A fault and the text that was left where reading stopped. -/
structure Stop where
  fault : Fault
  rest : Text
  deriving DecidableEq, Repr

structure Error where
  line : Nat
  fault : Fault
  deriving DecidableEq, Repr

def Error.description (error : Error) : Text :=
  "line ".toList ++ Text.ofNat error.line ++ ": ".toList ++
    error.fault.message

/-- The first line of a text without the white space around it. -/
def snippet (text : Text) : Text :=
  Text.trim (text.lines.headD [])

/-! ## White space and comments -/

/-- The text after white space, semicolons and comments. -/
def skipTrivia : Text → Except Stop Text
  | [] => .ok []
  | '/' :: '/' :: text => skipTrivia (text.dropWhile (· ≠ '\n'))
  | '/' :: '*' :: text =>
      match _hcut : Text.cut? ['*', '/'] text with
      | some (_, after) => skipTrivia after
      | none => .error ⟨.unterminatedComment, '/' :: '*' :: text⟩
  | c :: text =>
      if Text.isSpace c ∨ c = ';' then skipTrivia text else .ok (c :: text)
termination_by text => text.length
decreasing_by
  · have hle := (List.dropWhile_sublist (l := text) (· ≠ '\n')).length_le
    simp only [List.length_cons]
    omega
  · have hlength := Text.length_of_cut? _hcut
    simp only [List.length_cons]
    omega
  · simp

theorem length_le_of_skipTrivia {text rest : Text}
    (hskip : skipTrivia text = .ok rest) :
    rest.length ≤ text.length := by
  fun_induction skipTrivia text with
  | case1 => simp_all
  | case2 text ih =>
      have hdrop := (List.dropWhile_sublist (l := text) (· ≠ '\n')).length_le
      have hrest := ih hskip
      simp only [List.length_cons]
      omega
  | case3 text comment after hcut ih =>
      have hlength := Text.length_of_cut? hcut
      have hrest := ih hskip
      simp only [List.length_cons]
      omega
  | case4 => cases hskip
  | case5 c text _ _ _ ih =>
      have hrest := ih hskip
      simp only [List.length_cons]
      omega
  | case6 =>
      cases hskip
      exact Nat.le_refl _

/-! ## Identifiers and paths -/

def isIdentifierStart (c : Char) : Bool :=
  Text.isLetter c || c == '_'

def isIdentifierPart (c : Char) : Bool :=
  Text.isLetter c || Text.isNumeral c || c == '_'

/-- The longest identifier at the head of a text, empty if there is none, and
the text after it. -/
def identifier : Text → Text × Text
  | [] => ([], [])
  | c :: text =>
      if isIdentifierStart c then
        (c :: text.takeWhile isIdentifierPart,
          text.dropWhile isIdentifierPart)
      else
        ([], c :: text)

theorem identifier_append (text : Text) :
    (identifier text).1 ++ (identifier text).2 = text := by
  unfold identifier
  split
  · rfl
  · split <;> simp

/-- The path up to its closing quote, and the text after the quote. -/
def quotedPath (quote : Char) : Text → Except Stop (Text × Text)
  | [] => .error ⟨.unterminatedPath, []⟩
  | c :: text =>
      if c = quote then .ok ([], text)
      else if c = '\\' ∨ (c = '\n' ∧ quote = '"') then
        .error ⟨.invalidCharacter, c :: text⟩
      else
        match quotedPath quote text with
        | .ok (path, rest) => .ok (c :: path, rest)
        | .error stop => .error stop

theorem length_of_quotedPath {quote : Char} {text path rest : Text}
    (hpath : quotedPath quote text = .ok (path, rest)) :
    text.length = path.length + 1 + rest.length := by
  induction text generalizing path with
  | nil => cases hpath
  | cons c text ih =>
      unfold quotedPath at hpath
      split at hpath
      · cases hpath
        simp [Nat.add_comm]
      · split at hpath
        · cases hpath
        · split at hpath
          · rename_i inner after hinner
            cases hpath
            have hlength := ih hinner
            simp only [List.length_cons]
            omega
          · cases hpath

/-- A path in double quotes or back quotes, and the text after it. -/
def importPath : Text → Except Stop (Text × Text)
  | [] => .error ⟨.expectedPath (snippet []), []⟩
  | c :: text =>
      if c = '"' ∨ c = '\x60' then
        match quotedPath c text with
        | .error stop => .error stop
        | .ok ([], rest) => .error ⟨.emptyPath, rest⟩
        | .ok (path, rest) => .ok (path, rest)
      else
        .error ⟨.expectedPath (snippet (c :: text)), c :: text⟩

theorem length_lt_of_importPath {text path rest : Text}
    (hpath : importPath text = .ok (path, rest)) :
    rest.length < text.length := by
  unfold importPath at hpath
  split at hpath
  · cases hpath
  · split at hpath
    · split at hpath
      · cases hpath
      · cases hpath
      · rename_i hquoted
        cases hpath
        have hlength := length_of_quotedPath hquoted
        simp only [List.length_cons]
        omega
    · cases hpath

/-! ## Declarations -/

/-- The local name at the head of an import, if there is one, and the text
after the name and the blanks that follow it. -/
def localName (text : Text) : Option Text × Text :=
  match text with
  | '.' :: rest => (some ['.'], rest.dropWhile fun c => c = ' ' ∨ c = '\t')
  | text =>
      match identifier text with
      | ([], _) => (none, text)
      | (name, rest) =>
          (some name, rest.dropWhile fun c => c = ' ' ∨ c = '\t')

theorem length_localName_le (text : Text) :
    (localName text).2.length ≤ text.length := by
  unfold localName
  split
  · rename_i rest
    have hdrop := (List.dropWhile_sublist (l := rest)
      fun c => decide (c = ' ' ∨ c = '\t')).length_le
    simp only [List.length_cons]
    omega
  · split
    · exact Nat.le_refl _
    · rename_i name rest _ hname
      have happend := congrArg List.length (identifier_append text)
      have hdrop := (List.dropWhile_sublist (l := rest)
        fun c => decide (c = ' ' ∨ c = '\t')).length_le
      rw [hname] at happend
      simp only [List.length_append] at happend
      simp only
      omega

def importSpec (text : Text) : Except Stop (ImportSpec × Text) :=
  match importPath (localName text).2 with
  | .ok (path, rest) => .ok (⟨(localName text).1, path⟩, rest)
  | .error stop => .error stop

theorem length_lt_of_importSpec {text rest : Text} {spec : ImportSpec}
    (hspec : importSpec text = .ok (spec, rest)) :
    rest.length < text.length := by
  unfold importSpec at hspec
  split at hspec
  · rename_i hpath
    cases hspec
    exact Nat.lt_of_lt_of_le (length_lt_of_importPath hpath)
      (length_localName_le text)
  · cases hspec

/-- The imports of a group up to its closing parenthesis, and the text after
it. -/
def importGroup (text : Text) : Except Stop (List ImportSpec × Text) :=
  match _hskip : skipTrivia text with
  | .error stop => .error stop
  | .ok [] => .error ⟨.unterminatedGroup, []⟩
  | .ok (c :: inner) =>
      if c = ')' then .ok ([], inner)
      else
        match _hspec : importSpec (c :: inner) with
        | .error stop => .error stop
        | .ok (spec, rest) =>
            match importGroup rest with
            | .ok (specs, after) => .ok (spec :: specs, after)
            | .error stop => .error stop
termination_by text.length
decreasing_by
  exact Nat.lt_of_lt_of_le (length_lt_of_importSpec _hspec)
    (length_le_of_skipTrivia _hskip)

theorem importGroup_eq (text : Text) :
    importGroup text =
      match skipTrivia text with
      | .error stop => .error stop
      | .ok [] => .error ⟨.unterminatedGroup, []⟩
      | .ok (c :: inner) =>
          if c = ')' then .ok ([], inner)
          else
            match importSpec (c :: inner) with
            | .error stop => .error stop
            | .ok (spec, rest) =>
                match importGroup rest with
                | .ok (specs, after) => .ok (spec :: specs, after)
                | .error stop => .error stop := by
  rw [importGroup]
  split <;> rename_i hskip <;> simp only [hskip]
  split
  · rfl
  · split <;> rename_i hspec <;> simp only [hspec]

theorem length_lt_of_importGroup {text rest : Text} {specs : List ImportSpec}
    (hgroup : importGroup text = .ok (specs, rest)) :
    rest.length < text.length := by
  fun_induction importGroup text generalizing specs rest with
  | case1 => cases hgroup
  | case2 => cases hgroup
  | case3 text inner hskip =>
      cases hgroup
      have hle := length_le_of_skipTrivia hskip
      simp only [List.length_cons] at hle
      omega
  | case4 => cases hgroup
  | case5 text c inner hskip hclose spec middle hspec tail after hrest ih =>
      cases hgroup
      have hle := length_le_of_skipTrivia hskip
      have hlt := length_lt_of_importSpec hspec
      have htail := ih hrest
      omega
  | case6 => cases hgroup

def declaration (text : Text) : Except Stop (List ImportSpec × Text) :=
  if (identifier text).1 = "import".toList then
    match skipTrivia (identifier text).2 with
    | .error stop => .error stop
    | .ok ('(' :: inner) => importGroup inner
    | .ok rest =>
        match importSpec rest with
        | .ok (spec, after) => .ok ([spec], after)
        | .error stop => .error stop
  else
    .error ⟨.expectedDeclaration (snippet text), text⟩

theorem length_lt_of_declaration {text rest : Text} {specs : List ImportSpec}
    (hdeclaration : declaration text = .ok (specs, rest)) :
    rest.length < text.length := by
  have happend := congrArg List.length (identifier_append text)
  simp only [List.length_append] at happend
  unfold declaration at hdeclaration
  split at hdeclaration
  · split at hdeclaration
    · cases hdeclaration
    · rename_i hskip
      have hle := length_le_of_skipTrivia hskip
      have hlt := length_lt_of_importGroup hdeclaration
      simp only [List.length_cons] at hle
      omega
    · rename_i hskip
      have hle := length_le_of_skipTrivia hskip
      split at hdeclaration
      · rename_i hspec
        cases hdeclaration
        have hlt := length_lt_of_importSpec hspec
        omega
      · cases hdeclaration
  · cases hdeclaration

def declarations (text : Text) : Except Stop (List ImportSpec) :=
  match _hskip : skipTrivia text with
  | .error stop => .error stop
  | .ok [] => .ok []
  | .ok (c :: inner) =>
      match _hdeclaration : declaration (c :: inner) with
      | .error stop => .error stop
      | .ok (specs, rest) =>
          match declarations rest with
          | .ok more => .ok (specs ++ more)
          | .error stop => .error stop
termination_by text.length
decreasing_by
  exact Nat.lt_of_lt_of_le (length_lt_of_declaration _hdeclaration)
    (length_le_of_skipTrivia _hskip)

theorem declarations_eq (text : Text) :
    declarations text =
      match skipTrivia text with
      | .error stop => .error stop
      | .ok [] => .ok []
      | .ok (c :: inner) =>
          match declaration (c :: inner) with
          | .error stop => .error stop
          | .ok (specs, rest) =>
              match declarations rest with
              | .ok more => .ok (specs ++ more)
              | .error stop => .error stop := by
  rw [declarations]
  split <;> rename_i hskip <;> simp only [hskip]
  split <;> rename_i hdeclaration <;> simp only [hdeclaration]

theorem declarations_nil : declarations [] = .ok [] := by
  rw [declarations_eq, skipTrivia]

/-- The line of a text on which a suffix of it starts. -/
def lineOf (text rest : Text) : Nat :=
  1 + Text.newlines (text.take (text.length - rest.length))

/-- The imports that a fragment declares, in order of occurrence. -/
def ofFragment (fragment : Text) : Except Error (List ImportSpec) :=
  match declarations fragment with
  | .ok specs => .ok specs
  | .error stop => .error ⟨lineOf fragment stop.rest, stop.fault⟩

theorem ofFragment_nil : ofFragment [] = .ok [] := by
  rw [ofFragment, declarations_nil]

end Import
end Stencil
