import Mathlib.Data.List.TakeWhile
import Mathlib.Tactic.IntervalCases
import Stencil.Import.Fragment
import Stencil.Proofs.FirstOccurrence

/-!
# The grammar of import fragments

Every rule of the grammar relates a text to what stands behind the part that
the rule describes.  The rest has to be part of the rule, since a line comment
goes on to the end of its line and an identifier is as long as possible.

Nothing in the grammar asks for trivia to be skipped as far as possible, but
the reader does so.  The two agree because skipping some trivia does not
change where skipping ends, and because nothing that the grammar allows behind
trivia starts like trivia.  For a local name this rests on the tables of
characters: no letter is white space.
-/

namespace Stencil
namespace Import

/-! ## Rules -/

/-- A run of white space, semicolons and comments.  A line comment reaches up
to the next newline or to the end, and a block comment is closed by the first
`*/` behind its opener. -/
inductive Trivia : Text → Text → Prop
  | none (rest : Text) : Trivia rest rest
  | space {c : Char} {text rest : Text}
      (hspace : Text.isSpace c = true ∨ c = ';')
      (htrivia : Trivia text rest) : Trivia (c :: text) rest
  | lineComment {comment text rest : Text} (hcomment : '\n' ∉ comment)
      (hend : ∀ c ∈ text.head?, c = '\n') (htrivia : Trivia text rest) :
      Trivia (['/', '/'] ++ (comment ++ text)) rest
  | blockComment {comment text rest : Text}
      (hcomment : ¬ ['*', '/'] <:+: comment) (htrivia : Trivia text rest) :
      Trivia (['/', '*'] ++ (comment ++ ['*', '/'] ++ text)) rest

def IsIdentifier : Text → Prop
  | [] => False
  | c :: name =>
      isIdentifierStart c = true ∧ ∀ d ∈ name, isIdentifierPart d = true

/-- An identifier in front of the text could not be longer. -/
def EndsIdentifier (text : Text) : Prop :=
  ∀ c ∈ text.head?, isIdentifierPart c = false

def IsBlank (c : Char) : Prop :=
  c = ' ' ∨ c = '\t'

inductive LocalName : Text → Option Text → Text → Prop
  | absent (rest : Text) : LocalName rest none rest
  | dot {blanks : Text} (hblanks : ∀ c ∈ blanks, IsBlank c) (rest : Text) :
      LocalName ('.' :: (blanks ++ rest)) (some ['.']) rest
  | identifier {name blanks rest : Text} (hname : IsIdentifier name)
      (hends : EndsIdentifier (blanks ++ rest))
      (hblanks : ∀ c ∈ blanks, IsBlank c) :
      LocalName (name ++ (blanks ++ rest)) (some name) rest

inductive QuotedPath : Text → Text → Text → Prop
  | double {path rest : Text} (hne : path ≠ [])
      (hpath : ∀ c ∈ path, c ∉ ['"', '\\', '\n']) :
      QuotedPath ('"' :: (path ++ '"' :: rest)) path rest
  | back {path rest : Text} (hne : path ≠ [])
      (hpath : ∀ c ∈ path, c ∉ ['\x60', '\\']) :
      QuotedPath ('\x60' :: (path ++ '\x60' :: rest)) path rest

def Spec (text : Text) (spec : ImportSpec) (rest : Text) : Prop :=
  ∃ middle, LocalName text spec.localName middle ∧
    QuotedPath middle spec.path rest

/-- The imports of a group, each with the trivia behind it, and the closing
parenthesis. -/
inductive GroupItems : Text → List ImportSpec → Text → Prop
  | close (rest : Text) : GroupItems (')' :: rest) [] rest
  | item {text middle inner rest : Text} {spec : ImportSpec}
      {specs : List ImportSpec}
      (hspec : Spec text spec middle) (htrivia : Trivia middle inner)
      (hitems : GroupItems inner specs rest) :
        GroupItems text (spec :: specs) rest

inductive Declaration : Text → List ImportSpec → Text → Prop
  | single {text inner rest : Text} {spec : ImportSpec}
      (hends : EndsIdentifier text)
      (htrivia : Trivia text inner) (hspec : Spec inner spec rest) :
      Declaration ("import".toList ++ text) [spec] rest
  | group {text inner items rest : Text} {specs : List ImportSpec}
      (hends : EndsIdentifier text) (hopen : Trivia text ('(' :: inner))
      (htrivia : Trivia inner items) (hitems : GroupItems items specs rest) :
      Declaration ("import".toList ++ text) specs rest

/-- Declarations up to the end of the text, each with the trivia behind it. -/
inductive Declarations : Text → List ImportSpec → Prop
  | finished : Declarations [] []
  | step {text middle rest : Text} {specs more : List ImportSpec}
      (hdeclaration : Declaration text specs middle)
      (htrivia : Trivia middle rest)
      (hmore : Declarations rest more) : Declarations text (specs ++ more)

/-- The fragment is made of trivia and of declarations of these imports. -/
def Declares (fragment : Text) (specs : List ImportSpec) : Prop :=
  ∃ rest, Trivia fragment rest ∧ Declarations rest specs

end Import

/-! ## Runs and classes of characters -/

namespace Text

section Runs

variable {p : Char → Bool} {run rest : Text}

theorem takeWhile_run (hrun : ∀ c ∈ run, p c = true)
    (hrest : ∀ c ∈ rest.head?, p c = false) :
    (run ++ rest).takeWhile p = run := by
  rw [List.takeWhile_append_of_pos hrun, List.append_right_eq_self]
  cases rest with
  | nil => rfl
  | cons c rest => exact List.takeWhile_cons_of_neg (by simp [hrest c rfl])

theorem dropWhile_run (hrun : ∀ c ∈ run, p c = true)
    (hrest : ∀ c ∈ rest.head?, p c = false) :
    (run ++ rest).dropWhile p = rest := by
  rw [List.dropWhile_append_of_pos hrun]
  cases rest with
  | nil => rfl
  | cons c rest => exact List.dropWhile_cons_of_neg (by simp [hrest c rfl])

theorem head_dropWhile (p : Char → Bool) (text : Text) :
    ∀ c ∈ (text.dropWhile p).head?, p c = false := by
  intro c hc
  have hhead := List.head?_dropWhile_not p text
  rw [Option.mem_def.mp hc] at hhead
  exact hhead

end Runs

theorem CodeRanges.exists_range_of_has {ranges : CodeRanges} {code : Nat}
    (hcode : ranges.has code = true) : ∃ range ∈ ranges, range.1 ≤ code ∧
    code ≤ range.2 := by
  induction ranges with
  | nil => cases hcode
  | cons range ranges ih =>
      rw [CodeRanges.has] at hcode
      split at hcode
      · cases hcode
      · rename_i hfirst
        split at hcode
        · rename_i hlast
          exact ⟨range, List.mem_cons_self, Nat.le_of_not_lt hfirst, hlast⟩
        · obtain ⟨other, hmem, hbounds⟩ := ih hcode
          exact ⟨other, List.mem_cons_of_mem range hmem, hbounds⟩

theorem isLetter_eq_false_of_isSpace {c : Char} (hspace : isSpace c = true) :
    isLetter c = false := by
  obtain ⟨range, hmem, hfirst, hlast⟩ := CodeRanges.exists_range_of_has hspace
  unfold isLetter
  generalize c.toNat = code at hfirst hlast
  -- White space is a handful of code points, and each is looked up in the
  -- letters.
  simp only [spaceRanges, List.mem_cons, List.not_mem_nil, or_false] at hmem
  rcases hmem with rfl | rfl | rfl | rfl | rfl | rfl | rfl | rfl |
    rfl | rfl <;>
    interval_cases code <;> decide +kernel

end Text

namespace Import

/-- No trivia starts with the character. -/
def IsSolid (c : Char) : Prop :=
  Text.isSpace c = false ∧ c ≠ ';' ∧ c ≠ '/'

theorem isSolid_of_isIdentifierStart {c : Char}
    (hstart : isIdentifierStart c = true) :
    IsSolid c ∧ c ≠ '(' ∧ c ≠ ')' := by
  have hspace : Text.isSpace c = false := by
    by_contra hc
    rw [Bool.not_eq_false] at hc
    have hunderscore : c = '_' := by
      simpa [isIdentifierStart, Text.isLetter_eq_false_of_isSpace hc]
        using hstart
    rw [hunderscore] at hc
    cases hc
  have hother : ∀ d, isIdentifierStart d = false → c ≠ d := by
    rintro d hd rfl
    rw [hstart] at hd
    cases hd
  exact ⟨⟨hspace, hother _ rfl, hother _ rfl⟩, hother _ rfl, hother _ rfl⟩

/-! ## Trivia -/

theorem skipTrivia_cons {c : Char} (hslash : c ≠ '/') (text : Text) :
    skipTrivia (c :: text) =
      if Text.isSpace c ∨ c = ';' then skipTrivia text
      else .ok (c :: text) := by
  rw [skipTrivia]
  · rintro after rfl
    exact absurd rfl hslash
  · rintro after rfl
    exact absurd rfl hslash

theorem skipTrivia_lineComment (text : Text) :
    skipTrivia ('/' :: '/' :: text) =
      skipTrivia (text.dropWhile (· ≠ '\n')) := by
  rw [skipTrivia]

theorem skipTrivia_blockComment {text comment after : Text}
    (hcut : Text.cut? ['*', '/'] text = some (comment, after)) :
    skipTrivia ('/' :: '*' :: text) = skipTrivia after := by
  rw [skipTrivia]
  split <;> rename_i hother <;> rw [hcut] at hother <;> cases hother
  rfl

theorem skipTrivia_of_isSolid {c : Char} (hsolid : IsSolid c) (text : Text) :
    skipTrivia (c :: text) = .ok (c :: text) := by
  obtain ⟨hspace, hsemicolon, hslash⟩ := hsolid
  rw [skipTrivia_cons hslash, if_neg]
  simp [hspace, hsemicolon]

theorem trivia_of_skipTrivia {text rest : Text}
    (hskip : skipTrivia text = .ok rest) :
    Trivia text rest := by
  fun_induction skipTrivia text with
  | case1 =>
      cases hskip
      exact .none []
  | case2 text ih =>
      have hline : '\n' ∉ text.takeWhile (· ≠ '\n') := by
        intro hmem
        simpa using List.mem_takeWhile_imp hmem
      have hend : ∀ c ∈ (text.dropWhile (· ≠ '\n')).head?, c = '\n' := by
        intro c hc
        simpa using Text.head_dropWhile (· ≠ '\n') text c hc
      have hcomment := Trivia.lineComment hline hend (ih hskip)
      rwa [List.takeWhile_append_dropWhile] at hcomment
  | case3 text comment after hcut ih =>
      have hcomment := Trivia.blockComment
        (Text.not_infix_of_cut? (by decide) hcut) (ih hskip)
      rwa [← Text.eq_append_of_cut? hcut] at hcomment
  | case4 => cases hskip
  | case5 c text _ _ hspace ih => exact .space hspace (ih hskip)
  | case6 =>
      cases hskip
      exact .none _

/-- Where skipping ends does not depend on the trivia that was skipped
before. -/
theorem Trivia.skipTrivia_eq {text rest : Text} (htrivia : Trivia text rest) :
    skipTrivia text = skipTrivia rest := by
  induction htrivia with
  | none rest => rfl
  | @space c text rest hspace htrivia ih =>
      have hslash : c ≠ '/' := by
        rintro rfl
        rcases hspace with hspace | hspace <;> cases hspace
      rw [skipTrivia_cons hslash, if_pos hspace, ih]
  | @lineComment comment text rest hcomment hend htrivia ih =>
      have hdrop : (comment ++ text).dropWhile (· ≠ '\n') = text := by
        apply Text.dropWhile_run
        · intro c hc
          simpa using ne_of_mem_of_not_mem hc hcomment
        · intro c hc
          simpa using hend c hc
      have hskip := skipTrivia_lineComment (comment ++ text)
      rw [hdrop, ih] at hskip
      exact hskip
  | @blockComment comment text rest hcomment htrivia ih =>
      have hcut := Text.cut?_append (by decide) (by decide) hcomment text
      rw [← ih]
      exact skipTrivia_blockComment hcut

theorem Trivia.skipTrivia_of_isSolid {text rest : Text} {c : Char}
    (htrivia : Trivia text (c :: rest)) (hsolid : IsSolid c) :
    skipTrivia text = .ok (c :: rest) := by
  rw [htrivia.skipTrivia_eq, Import.skipTrivia_of_isSolid hsolid]

/-! ## Identifiers and local names -/

theorem identifier_of_isIdentifier {name rest : Text}
    (hname : IsIdentifier name) (hends : EndsIdentifier rest) :
    identifier (name ++ rest) = (name, rest) := by
  cases name with
  | nil => exact hname.elim
  | cons c name =>
      rw [List.cons_append, identifier, if_pos hname.1,
        Text.takeWhile_run hname.2 hends, Text.dropWhile_run hname.2 hends]

theorem isIdentifier_of_identifier {text name rest : Text}
    (hidentifier : identifier text = (name, rest)) (hne : name ≠ []) :
    text = name ++ rest ∧ IsIdentifier name ∧ EndsIdentifier rest := by
  have htext := identifier_append text
  rw [hidentifier] at htext
  refine ⟨htext.symm, ?_⟩
  cases text with
  | nil =>
      cases hidentifier
      exact absurd rfl hne
  | cons c text =>
      by_cases hstart : isIdentifierStart c = true
      · rw [identifier, if_pos hstart] at hidentifier
        cases hidentifier
        refine ⟨⟨hstart, fun d hd => List.mem_takeWhile_imp hd⟩, ?_⟩
        exact Text.head_dropWhile isIdentifierPart text
      · rw [identifier, if_neg hstart] at hidentifier
        cases hidentifier
        exact absurd rfl hne

def IsQuote (c : Char) : Prop :=
  c = '"' ∨ c = '\x60'

theorem IsQuote.isSolid {c : Char} (hquote : IsQuote c) :
    IsSolid c ∧ c ≠ '(' ∧ c ≠ ')' := by
  rcases hquote with rfl | rfl <;>
    exact ⟨⟨rfl, by decide, by decide⟩, by decide, by decide⟩

theorem exists_blanks (text : Text) :
    ∃ blanks, (∀ c ∈ blanks, IsBlank c) ∧
      text = blanks ++ text.dropWhile fun c =>
        decide (c = ' ' ∨ c = '\t') := by
  refine ⟨_, ?_, List.takeWhile_append_dropWhile.symm⟩
  intro c hc
  simpa [IsBlank] using List.mem_takeWhile_imp hc

theorem dropWhile_blanks {blanks rest : Text} {c : Char}
    (hblanks : ∀ c ∈ blanks, IsBlank c) (hquote : IsQuote c) :
    (blanks ++ c :: rest).dropWhile (fun c => decide (c = ' ' ∨ c = '\t')) =
      c :: rest := by
  apply Text.dropWhile_run
  · intro d hd
    simpa [IsBlank] using hblanks d hd
  · intro d hd
    cases hd
    rcases hquote with rfl | rfl <;> rfl

theorem localName_spec (text : Text) :
    LocalName text (localName text).1 (localName text).2 := by
  unfold localName
  split
  · rename_i rest
    obtain ⟨blanks, hblanks, hrest⟩ := exists_blanks rest
    have hdot :=
      LocalName.dot hblanks (rest.dropWhile fun c =>
        decide (c = ' ' ∨ c = '\t'))
    rwa [← hrest] at hdot
  · split
    · exact .absent _
    · rename_i name rest hne hidentifier
      obtain ⟨htext, hname, hends⟩ :=
        isIdentifier_of_identifier hidentifier hne
      obtain ⟨blanks, hblanks, hrest⟩ := exists_blanks rest
      rw [hrest] at hends
      have hlocal := LocalName.identifier hname hends hblanks
      rwa [← hrest, ← htext] at hlocal

theorem localName_of_quote {c : Char} (hquote : IsQuote c) (text : Text) :
    localName (c :: text) = (none, c :: text) := by
  rcases hquote with rfl | rfl <;> rfl

/-- In front of a path the local name is the only one that the grammar
allows. -/
theorem LocalName.localName_eq {text rest : Text}
    {name : Option Text} {c : Char} (hlocal : LocalName text name (c :: rest))
    (hquote : IsQuote c) :
    localName text = (name, c :: rest) := by
  generalize hmiddle : c :: rest = middle at hlocal
  cases hlocal with
  | absent middle =>
      subst hmiddle
      exact localName_of_quote hquote rest
  | @dot blanks hblanks middle =>
      subst hmiddle
      rw [localName, dropWhile_blanks hblanks hquote]
  | @identifier name blanks middle hname hends hblanks =>
      subst hmiddle
      have hidentifier := identifier_of_isIdentifier hname hends
      cases name with
      | nil => exact hname.elim
      | cons d name =>
          have hdot : d ≠ '.' := by
            rintro rfl
            cases hname.1
          unfold localName
          split
          · rename_i hcons
            exact absurd (List.cons.inj hcons).1 hdot
          · rw [hidentifier]
            simp only
            rw [dropWhile_blanks hblanks hquote]

/-! ## Paths -/

/-- The character may stand between quotes of this kind. -/
def MayStandIn (quote c : Char) : Prop :=
  c ≠ quote ∧ ¬ (c = '\\' ∨ (c = '\n' ∧ quote = '"'))

theorem quotedPath_append {quote : Char} {path : Text}
    (hpath : ∀ c ∈ path, MayStandIn quote c) (rest : Text) :
    quotedPath quote (path ++ quote :: rest) = .ok (path, rest) := by
  induction path with
  | nil => simp [quotedPath]
  | cons c path ih =>
      obtain ⟨⟨hquote, hvalid⟩, htail⟩ := List.forall_mem_cons.mp hpath
      rw [List.cons_append, quotedPath, if_neg hquote,
        if_neg hvalid, ih htail]

theorem eq_append_of_quotedPath {quote : Char} {text path rest : Text}
    (hread : quotedPath quote text = .ok (path, rest)) :
    text = path ++ quote :: rest ∧ ∀ c ∈ path, MayStandIn quote c := by
  induction text generalizing path with
  | nil => cases hread
  | cons c text ih =>
      rw [quotedPath] at hread
      split at hread
      · rename_i hquote
        cases hread
        exact ⟨congrArg (· :: rest) hquote, by simp⟩
      · rename_i hquote
        split at hread
        · cases hread
        · rename_i hvalid
          split at hread
          · rename_i inner after hinner
            cases hread
            obtain ⟨htext, hpath⟩ := ih hinner
            exact ⟨congrArg (c :: ·) htext,
              List.forall_mem_cons.mpr ⟨⟨hquote, hvalid⟩, hpath⟩⟩
          · cases hread

theorem mayStandIn_double_iff {path : Text} :
    (∀ c ∈ path, MayStandIn '"' c) ↔ ∀ c ∈ path, c ∉ ['"', '\\', '\n'] := by
  simp [MayStandIn]

theorem mayStandIn_back_iff {path : Text} :
    (∀ c ∈ path, MayStandIn '\x60' c) ↔ ∀ c ∈ path, c ∉ ['\x60', '\\'] := by
  simp [MayStandIn]

theorem importPath_quote {c : Char} (hquote : IsQuote c) {path : Text}
    (hne : path ≠ []) (hpath : ∀ d ∈ path, MayStandIn c d) (rest : Text) :
    importPath (c :: (path ++ c :: rest)) = .ok (path, rest) := by
  cases path with
  | nil => exact absurd rfl hne
  | cons d path =>
      have hopen : c = '"' ∨ c = '\x60' := hquote
      rw [importPath, if_pos hopen, quotedPath_append hpath rest]

theorem importPath_eq_ok_iff {text path rest : Text} :
    importPath text = .ok (path, rest) ↔ QuotedPath text path rest := by
  constructor
  · intro hread
    unfold importPath at hread
    split at hread
    · cases hread
    · split at hread
      · rename_i c text hquote
        split at hread
        · cases hread
        · cases hread
        · rename_i path rest hne hquoted
          cases hread
          obtain ⟨rfl, hpath⟩ := eq_append_of_quotedPath hquoted
          rcases hquote with rfl | rfl
          · exact .double hne (mayStandIn_double_iff.mp hpath)
          · exact .back hne (mayStandIn_back_iff.mp hpath)
      · cases hread
  · rintro (⟨hne, hpath⟩ | ⟨hne, hpath⟩)
    · exact importPath_quote (.inl rfl) hne
        (mayStandIn_double_iff.mpr hpath) rest
    · exact importPath_quote (.inr rfl) hne
        (mayStandIn_back_iff.mpr hpath) rest

theorem QuotedPath.exists_quote {text path rest : Text}
    (hpath : QuotedPath text path rest) :
    ∃ c after, text = c :: after ∧ IsQuote c := by
  cases hpath with
  | double hne hpath => exact ⟨_, _, rfl, .inl rfl⟩
  | back hne hpath => exact ⟨_, _, rfl, .inr rfl⟩

theorem importSpec_eq_ok_iff {text rest : Text} {spec : ImportSpec} :
    importSpec text = .ok (spec, rest) ↔ Spec text spec rest := by
  constructor
  · intro hread
    unfold importSpec at hread
    split at hread
    · rename_i hpath
      cases hread
      exact ⟨_, localName_spec text, importPath_eq_ok_iff.mp hpath⟩
    · cases hread
  · rintro ⟨middle, hname, hpath⟩
    obtain ⟨c, after, rfl, hquote⟩ := hpath.exists_quote
    rw [importSpec, hname.localName_eq hquote]
    simp only
    rw [importPath_eq_ok_iff.mpr hpath]

/-! ## Groups and declarations -/

theorem LocalName.exists_head {text after : Text}
    {name : Option Text} {c : Char}
    (hlocal : LocalName text name (c :: after)) (hquote : IsQuote c) :
    ∃ d inner, text = d :: inner ∧ IsSolid d ∧ d ≠ '(' ∧ d ≠ ')' := by
  generalize hmiddle : c :: after = middle at hlocal
  cases hlocal with
  | absent middle => exact ⟨c, after, hmiddle.symm, hquote.isSolid⟩
  | dot hblanks middle =>
      exact ⟨_, _, rfl, ⟨rfl, by decide, by decide⟩, by decide, by decide⟩
  | @identifier name blanks middle hname hends hblanks =>
      cases name with
      | nil => exact hname.elim
      | cons d name => exact ⟨d, _, rfl, isSolid_of_isIdentifierStart hname.1⟩

theorem Spec.exists_head {text rest : Text} {spec : ImportSpec}
    (hspec : Spec text spec rest) :
    ∃ d inner, text = d :: inner ∧ IsSolid d ∧ d ≠ '(' ∧ d ≠ ')' := by
  obtain ⟨middle, hname, hpath⟩ := hspec
  obtain ⟨c, after, rfl, hquote⟩ := hpath.exists_quote
  exact hname.exists_head hquote

theorem importGroup_of_trivia {text inner : Text}
    (htrivia : Trivia text inner) :
    importGroup text = importGroup inner := by
  rw [importGroup_eq text, importGroup_eq inner, htrivia.skipTrivia_eq]

theorem GroupItems.importGroup_eq_ok {text rest : Text}
    {specs : List ImportSpec} (hitems : GroupItems text specs rest) :
    importGroup text = .ok (specs, rest) := by
  induction hitems with
  | close rest =>
      have hskip : skipTrivia (')' :: rest) = .ok (')' :: rest) :=
        skipTrivia_of_isSolid ⟨rfl, by decide, by decide⟩ rest
      rw [importGroup_eq, hskip]
      rfl
  | @item text middle inner rest spec specs hspec htrivia hitems ih =>
      obtain ⟨c, after, rfl, hsolid, -, hclose⟩ := hspec.exists_head
      rw [importGroup_eq, skipTrivia_of_isSolid hsolid]
      simp only [if_neg hclose, importSpec_eq_ok_iff.mpr hspec,
        importGroup_of_trivia htrivia, ih]

theorem exists_groupItems {text rest : Text} {specs : List ImportSpec}
    (hread : importGroup text = .ok (specs, rest)) :
    ∃ inner, Trivia text inner ∧ GroupItems inner specs rest := by
  fun_induction importGroup text generalizing specs rest with
  | case1 => cases hread
  | case2 => cases hread
  | case3 text inner hskip =>
      cases hread
      exact ⟨_, trivia_of_skipTrivia hskip, .close inner⟩
  | case4 => cases hread
  | case5 text c inner hskip hclose spec middle hspec tail after hrest ih =>
      cases hread
      obtain ⟨items, htrivia, hitems⟩ := ih hrest
      exact ⟨_, trivia_of_skipTrivia hskip,
        .item (importSpec_eq_ok_iff.mp hspec) htrivia hitems⟩
  | case6 => cases hread

theorem isIdentifier_import : IsIdentifier "import".toList :=
  ⟨rfl, List.all_eq_true.mp rfl⟩

theorem declaration_group {text inner : Text} (hends : EndsIdentifier text)
    (hopen : Trivia text ('(' :: inner)) :
    declaration ("import".toList ++ text) = importGroup inner := by
  have hkeyword := identifier_of_isIdentifier isIdentifier_import hends
  have hskip : skipTrivia text = .ok ('(' :: inner) :=
    hopen.skipTrivia_of_isSolid ⟨rfl, by decide, by decide⟩
  unfold declaration
  simp only [hkeyword, if_true, hskip]

theorem Declaration.declaration_eq_ok {text rest : Text}
    {specs : List ImportSpec} (hdeclaration : Declaration text specs rest) :
    declaration text = .ok (specs, rest) := by
  cases hdeclaration with
  | @single text inner rest spec hends htrivia hspec =>
      obtain ⟨c, after, rfl, hsolid, hopen, -⟩ := hspec.exists_head
      have hkeyword := identifier_of_isIdentifier isIdentifier_import hends
      unfold declaration
      simp only [hkeyword, if_true, htrivia.skipTrivia_of_isSolid hsolid]
      split
      · rename_i hskip
        cases hskip
      · rename_i hskip
        cases hskip
        exact absurd rfl hopen
      · rename_i hskip
        cases hskip
        rw [importSpec_eq_ok_iff.mpr hspec]
  | @group text inner items rest specs hends hopen htrivia hitems =>
      rw [declaration_group hends hopen, importGroup_of_trivia htrivia,
        hitems.importGroup_eq_ok]

theorem declaration_eq_ok_iff {text rest : Text} {specs : List ImportSpec} :
    declaration text = .ok (specs, rest) ↔ Declaration text specs rest := by
  constructor
  · intro hread
    unfold declaration at hread
    split at hread
    · rename_i hkeyword
      have hidentifier :
          identifier text = ("import".toList, (identifier text).2) := by
        rw [← hkeyword]
      obtain ⟨htext, -, hends⟩ :=
        isIdentifier_of_identifier hidentifier (by decide)
      rw [htext]
      split at hread
      · cases hread
      · rename_i inner hskip
        obtain ⟨items, htrivia, hitems⟩ := exists_groupItems hread
        exact .group hends (trivia_of_skipTrivia hskip) htrivia hitems
      · rename_i inner _ hskip
        split at hread
        · rename_i hspec
          cases hread
          exact .single hends (trivia_of_skipTrivia hskip)
            (importSpec_eq_ok_iff.mp hspec)
        · cases hread
    · cases hread
  · exact Declaration.declaration_eq_ok

theorem declarations_of_trivia {text rest : Text}
    (htrivia : Trivia text rest) :
    declarations text = declarations rest := by
  rw [declarations_eq text, declarations_eq rest, htrivia.skipTrivia_eq]

theorem skipTrivia_import (after : Text) :
    skipTrivia ('i' :: after) = .ok ('i' :: after) :=
  skipTrivia_of_isSolid ⟨rfl, by decide, by decide⟩ after

theorem Declaration.exists_head {text rest : Text} {specs : List ImportSpec}
    (hdeclaration : Declaration text specs rest) :
    ∃ after, text = 'i' :: after := by
  cases hdeclaration with
  | single hends htrivia hspec => exact ⟨_, rfl⟩
  | group hends hopen htrivia hitems => exact ⟨_, rfl⟩

theorem declarations_step {text middle : Text} {specs : List ImportSpec}
    (hdeclaration : Declaration text specs middle) :
    declarations text = (declarations middle).map (specs ++ ·) := by
  obtain ⟨after, rfl⟩ := hdeclaration.exists_head
  rw [declarations_eq, skipTrivia_import]
  simp only
  rw [hdeclaration.declaration_eq_ok]
  cases hmore : declarations middle <;> simp only [hmore] <;> rfl

theorem Declarations.declarations_eq_ok {text : Text}
    {specs : List ImportSpec} (hdeclarations : Declarations text specs) :
    declarations text = .ok specs := by
  induction hdeclarations with
  | finished => exact declarations_nil
  | step hdeclaration htrivia hmore ih =>
      rw [declarations_step hdeclaration, declarations_of_trivia htrivia, ih]
      rfl

theorem declarations_eq_ok_iff {text : Text} {specs : List ImportSpec} :
    declarations text = .ok specs ↔ Declares text specs := by
  constructor
  · intro hread
    fun_induction declarations text generalizing specs with
    | case1 => cases hread
    | case2 text hskip =>
        cases hread
        exact ⟨[], trivia_of_skipTrivia hskip, .finished⟩
    | case3 => cases hread
    | case4 text c inner hskip specs middle hdeclaration more hmore ih =>
        cases hread
        obtain ⟨rest, htrivia, hdeclarations⟩ := ih hmore
        exact ⟨_, trivia_of_skipTrivia hskip,
          .step (declaration_eq_ok_iff.mp hdeclaration) htrivia hdeclarations⟩
    | case5 => cases hread
  · rintro ⟨rest, htrivia, hdeclarations⟩
    rw [declarations_of_trivia htrivia, hdeclarations.declarations_eq_ok]

theorem ofFragment_eq_ok_iff {fragment : Text} {specs : List ImportSpec} :
    ofFragment fragment = .ok specs ↔ Declares fragment specs := by
  rw [← declarations_eq_ok_iff, ofFragment]
  cases declarations fragment <;> simp

/-- The reader accepts exactly the grammar.  A fragment is read as a list of
imports if and only if the grammar derives it with this list, and a fragment
that the grammar does not derive at all is an error. -/
theorem ofFragment_accepts_grammar (fragment : Text) :
    (∀ specs, ofFragment fragment = .ok specs ↔ Declares fragment specs) ∧
      ((∃ error, ofFragment fragment = .error error) ↔
        ¬ ∃ specs, Declares fragment specs) := by
  refine ⟨fun specs => ofFragment_eq_ok_iff, ?_⟩
  simp only [← ofFragment_eq_ok_iff]
  cases ofFragment fragment with
  | ok specs => simp
  | error error => simp

end Import
end Stencil
