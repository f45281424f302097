import Stencil.Proofs.GeneratedText
import Stencil.Proofs.ImportGrammar
import Stencil.Proofs.Scanning
import Stencil.Proofs.Utf8

/-!
# Header errors

All headers of a template are read as one fragment, with a newline between
neighbours.  A reader that fails leaves a suffix of the fragment, and so a
place in it, which is a place in one of the headers.

The line of an error in the template is found from two numbers only: the line
of the fragment, and the line on which each header starts.  That it is the
line of the place holds because a header and its copy in the fragment have the
same newlines, and because the newline between two headers belongs to neither:
it ends the last line of the header before it.
-/

namespace Stencil
namespace Import

/-! ## What stands where reading stops -/

/-- The quote opens a path that goes on up to the end of the text. -/
def IsOpenPath (quote : Char) (text : Text) : Prop :=
  IsQuote quote ∧ ∃ path, quote :: path <:+ text ∧ quote ∉ path

/-- What stands before and behind the place of a fault.  A comment or a group
that is not closed is noticed at the end only, but the place of the comment is
that of its opener. -/
def Fault.StandsAt (before rest : Text) : Fault → Prop
  | .expectedDeclaration found =>
      found = snippet rest ∧ (identifier rest).1 ≠ "import".toList
  | .expectedPath found =>
      found = snippet rest ∧ ∀ c ∈ rest.head?, ¬ IsQuote c
  | .unterminatedGroup => rest = []
  | .unterminatedComment =>
      ∃ inner, rest = '/' :: '*' :: inner ∧ ¬ ['*', '/'] <:+: inner
  | .unterminatedPath => rest = [] ∧ ∃ quote, IsOpenPath quote before
  | .invalidCharacter =>
      ∃ quote, IsOpenPath quote before ∧ ∃ c ∈ rest.head?,
        c = '\\' ∨ (c = '\n' ∧ quote = '"')
  | .emptyPath => ∃ quote, IsQuote quote ∧ [quote, quote] <:+ before

theorem IsOpenPath.append {quote : Char} {text : Text}
    (hopen : IsOpenPath quote text) (more : Text) :
    IsOpenPath quote (more ++ text) := by
  obtain ⟨hquote, path, hsuffix, hpath⟩ := hopen
  exact ⟨hquote, path, hsuffix.trans (List.suffix_append more text), hpath⟩

theorem Fault.StandsAt.append {fault : Fault} {before rest : Text}
    (hstands : fault.StandsAt before rest) (more : Text) :
    fault.StandsAt (more ++ before) rest := by
  cases fault with
  | expectedDeclaration found => exact hstands
  | expectedPath found => exact hstands
  | unterminatedGroup => exact hstands
  | unterminatedComment => exact hstands
  | unterminatedPath =>
      obtain ⟨hrest, quote, hopen⟩ := hstands
      exact ⟨hrest, quote, hopen.append more⟩
  | invalidCharacter =>
      obtain ⟨quote, hopen, hinvalid⟩ := hstands
      exact ⟨quote, hopen.append more, hinvalid⟩
  | emptyPath =>
      obtain ⟨quote, hquote, hsuffix⟩ := hstands
      exact ⟨quote, hquote, hsuffix.trans (List.suffix_append more before)⟩

/-- The stop is at a place of the text, and its fault is found there. -/
def Stop.Within (text : Text) (stop : Stop) : Prop :=
  ∃ before, text = before ++ stop.rest ∧ stop.fault.StandsAt before stop.rest

theorem Stop.Within.of_suffix {stop : Stop} {inner text : Text}
    (hwithin : stop.Within inner) (hsuffix : inner <:+ text) :
    stop.Within text := by
  obtain ⟨before, rfl, hstands⟩ := hwithin
  obtain ⟨more, rfl⟩ := hsuffix
  exact ⟨more ++ before, (List.append_assoc _ _ _).symm, hstands.append more⟩

/-! ## Readers leave suffixes -/

theorem Trivia.suffix {text rest : Text} (htrivia : Trivia text rest) :
    rest <:+ text := by
  induction htrivia with
  | none rest => exact List.suffix_rfl
  | space hspace htrivia ih => exact ih.trans (List.suffix_cons _ _)
  | lineComment hcomment hend htrivia ih =>
      exact (ih.trans (List.suffix_append _ _)).trans (List.suffix_append _ _)
  | blockComment hcomment htrivia ih =>
      exact (ih.trans (List.suffix_append _ _)).trans (List.suffix_append _ _)

theorem LocalName.suffix {text rest : Text} {name : Option Text}
    (hlocal : LocalName text name rest) : rest <:+ text := by
  cases hlocal with
  | absent => exact List.suffix_rfl
  | dot hblanks => exact (List.suffix_append _ _).trans (List.suffix_cons _ _)
  | identifier hname hends hblanks =>
      exact (List.suffix_append _ _).trans (List.suffix_append _ _)

theorem Spec.suffix {text rest : Text} {spec : ImportSpec}
    (hspec : Spec text spec rest) :
    rest <:+ text := by
  obtain ⟨middle, hlocal, hpath⟩ := hspec
  have hmiddle : rest <:+ middle := by
    cases hpath with
    | double hne hpath => exact ⟨'"' :: spec.path ++ ['"'], by simp⟩
    | back hne hpath => exact ⟨'\x60' :: spec.path ++ ['\x60'], by simp⟩
  exact hmiddle.trans hlocal.suffix

theorem GroupItems.suffix {text rest : Text} {specs : List ImportSpec}
    (hitems : GroupItems text specs rest) : rest <:+ text := by
  induction hitems with
  | close rest => exact List.suffix_cons _ _
  | item hspec htrivia hitems ih =>
      exact (ih.trans htrivia.suffix).trans hspec.suffix

theorem Declaration.suffix {text rest : Text} {specs : List ImportSpec}
    (hdeclaration : Declaration text specs rest) : rest <:+ text := by
  cases hdeclaration with
  | single hends htrivia hspec =>
      exact (hspec.suffix.trans htrivia.suffix).trans (List.suffix_append _ _)
  | @group text inner items rest specs hends hopen htrivia hitems =>
      have hinner :=
        (hitems.suffix.trans htrivia.suffix).trans
          (List.suffix_cons '(' inner)
      exact (hinner.trans hopen.suffix).trans (List.suffix_append _ _)

/-! ## Readers stop within their text -/

theorem within_of_skipTrivia {text : Text} {stop : Stop}
    (hskip : skipTrivia text = .error stop) :
    stop.Within text := by
  fun_induction skipTrivia text with
  | case1 => cases hskip
  | case2 text ih =>
      have hsuffix := (List.dropWhile_suffix (l := text) (· ≠ '\n')).trans
        (List.suffix_append ['/', '/'] text)
      exact (ih hskip).of_suffix hsuffix
  | case3 text comment after hcut ih =>
      have hsuffix : after <:+ '/' :: '*' :: text := by
        rw [Text.eq_append_of_cut? hcut]
        exact (List.suffix_append _ _).trans (List.suffix_append ['/', '*'] _)
      exact (ih hskip).of_suffix hsuffix
  | case4 text hcut =>
      cases hskip
      exact ⟨[], rfl, text, rfl, Text.cut?_eq_none_iff.mp hcut⟩
  | case5 c text _ _ hspace ih =>
      exact (ih hskip).of_suffix (List.suffix_cons c text)
  | case6 => cases hskip

/-- The quote may stand anywhere before the text, as long as the path is still
open. -/
theorem within_of_quotedPath {quote : Char} (before : Text) {text : Text}
    {stop : Stop} (hopen : IsOpenPath quote before)
    (hread : quotedPath quote text = .error stop) :
    stop.Within (before ++ text) := by
  induction text generalizing before with
  | nil =>
      cases hread
      exact ⟨before, rfl, rfl, quote, hopen⟩
  | cons c text ih =>
      rw [quotedPath] at hread
      split at hread
      · cases hread
      · rename_i hquote
        split at hread
        · rename_i hinvalid
          cases hread
          exact ⟨before, rfl, quote, hopen, c, rfl, hinvalid⟩
        · split at hread
          · cases hread
          · rename_i hinner
            cases hread
            have hnext : IsOpenPath quote (before ++ [c]) := by
              obtain ⟨hkind, path, ⟨start, rfl⟩, hpath⟩ := hopen
              refine ⟨hkind, path ++ [c], ⟨start, by simp⟩, ?_⟩
              simpa [hpath] using Ne.symm hquote
            have hwithin := ih _ hnext hinner
            rwa [List.append_assoc] at hwithin

theorem within_of_importPath {text : Text} {stop : Stop}
    (hread : importPath text = .error stop) :
    stop.Within text := by
  unfold importPath at hread
  split at hread
  · cases hread
    exact ⟨[], rfl, rfl, by simp⟩
  · rename_i c text
    split at hread
    · rename_i hquote
      split at hread
      · rename_i hquoted
        cases hread
        exact within_of_quotedPath [c]
          ⟨hquote, [], List.suffix_rfl, List.not_mem_nil⟩ hquoted
      · rename_i rest hquoted
        cases hread
        obtain ⟨rfl, -⟩ := eq_append_of_quotedPath hquoted
        exact ⟨[c, c], rfl, c, hquote, List.suffix_rfl⟩
      · cases hread
    · rename_i hquote
      cases hread
      refine ⟨[], rfl, rfl, ?_⟩
      rintro d ⟨⟩
      exact hquote

theorem within_of_importSpec {text : Text} {stop : Stop}
    (hread : importSpec text = .error stop) :
    stop.Within text := by
  unfold importSpec at hread
  split at hread
  · cases hread
  · rename_i hpath
    cases hread
    exact (within_of_importPath hpath).of_suffix (localName_spec text).suffix

theorem within_of_importGroup {text : Text} {stop : Stop}
    (hread : importGroup text = .error stop) : stop.Within text := by
  fun_induction importGroup text with
  | case1 text stop hskip =>
      cases hread
      exact within_of_skipTrivia hskip
  | case2 text hskip =>
      cases hread
      exact ⟨text, (List.append_nil text).symm, rfl⟩
  | case3 => cases hread
  | case4 text c inner hskip hclose stop hspec =>
      cases hread
      exact (within_of_importSpec hspec).of_suffix
        (trivia_of_skipTrivia hskip).suffix
  | case5 => cases hread
  | case6 text c inner hskip hclose spec rest hspec stop hrest ih =>
      cases hread
      have hsuffix := (importSpec_eq_ok_iff.mp hspec).suffix
      exact (ih hrest).of_suffix
        (hsuffix.trans (trivia_of_skipTrivia hskip).suffix)

theorem within_of_declaration {text : Text} {stop : Stop}
    (hread : declaration text = .error stop) : stop.Within text := by
  have hkeyword : (identifier text).2 <:+ text := ⟨_, identifier_append text⟩
  unfold declaration at hread
  split at hread
  · split at hread
    · rename_i hskip
      cases hread
      exact (within_of_skipTrivia hskip).of_suffix hkeyword
    · rename_i inner hskip
      have hinner :=
        (List.suffix_cons '(' inner).trans (trivia_of_skipTrivia hskip).suffix
      exact (within_of_importGroup hread).of_suffix (hinner.trans hkeyword)
    · rename_i rest _ hskip
      split at hread
      · cases hread
      · rename_i hspec
        cases hread
        have hrest := (trivia_of_skipTrivia hskip).suffix.trans hkeyword
        exact (within_of_importSpec hspec).of_suffix hrest
  · rename_i hother
    cases hread
    exact ⟨[], rfl, rfl, hother⟩

theorem within_of_declarations {text : Text} {stop : Stop}
    (hread : declarations text = .error stop) : stop.Within text := by
  fun_induction declarations text with
  | case1 text stop hskip =>
      cases hread
      exact within_of_skipTrivia hskip
  | case2 => cases hread
  | case3 text c inner hskip stop hdeclaration =>
      cases hread
      exact (within_of_declaration hdeclaration).of_suffix
        (trivia_of_skipTrivia hskip).suffix
  | case4 => cases hread
  | case5 text c inner hskip specs rest hdeclaration stop hrest ih =>
      cases hread
      have hsuffix := (declaration_eq_ok_iff.mp hdeclaration).suffix
      exact (ih hrest).of_suffix
        (hsuffix.trans (trivia_of_skipTrivia hskip).suffix)

theorem declarations_of_error {text : Text} {stop : Stop}
    (hread : declaration ("import".toList ++ text) = .error stop) :
    declarations ("import".toList ++ text) = .error stop := by
  have hsolid : skipTrivia ("import".toList ++ text) =
      .ok ('i' :: ("mport".toList ++ text)) :=
    skipTrivia_import _
  have hinner : declaration ('i' :: ("mport".toList ++ text)) = .error stop :=
    hread
  rw [declarations_eq, hsolid]
  simp only [hinner]

theorem lineOf_append (before rest : Text) :
    lineOf (before ++ rest) rest = 1 + before.newlines := by
  simp [lineOf]

theorem ofFragment_eq_error_iff {fragment : Text} {error : Error} :
    ofFragment fragment = .error error ↔
      ∃ stop, declarations fragment = .error stop ∧
        error = ⟨lineOf fragment stop.rest, stop.fault⟩ := by
  unfold ofFragment
  cases declarations fragment <;> simp [eq_comm]

end Import

/-! ## Places in headers -/

theorem Text.join_cons_cons (separator first second : Text)
    (texts : List Text) :
    join separator (first :: second :: texts) =
      first ++ (separator ++ join separator (second :: texts)) := by
  simp [join]

namespace Segment

/-- The content of a header tag. -/
def header? : Segment → Option Text
  | .tag .header content => some content
  | _ => none

/-- A place in the fragment of the headers and the same place in the source.
Both are given by the text before them.  The newline behind a header, or the
end of the fragment, is at the closer of its tag. -/
inductive SamePlace : List Segment → Text → Text → Prop
  | inside (inner outer : Text) (segments : List Segment) :
      SamePlace (.tag .header (inner ++ outer) :: segments) inner
        (['<', '%', '%'] ++ inner)
  | behind (content : Text) {segments : List Segment}
      {inFragment inSource : Text}
      (hsame : SamePlace segments inFragment inSource) :
      SamePlace (.tag .header content :: segments)
        (content ++ ['\n'] ++ inFragment)
        (['<', '%', '%'] ++ content ++ ['%', '%', '>'] ++ inSource)
  | elsewhere {segment : Segment} {segments : List Segment}
      {inFragment inSource : Text}
      (hother : segment.header? = none)
      (hsame : SamePlace segments inFragment inSource) :
      SamePlace (segment :: segments) inFragment
        (segment.spelling ++ inSource)

theorem eq_header_of_header? {segment : Segment} {content : Text}
    (hheader : segment.header? = some content) :
    segment = .tag .header content := by
  unfold header? at hheader
  split at hheader <;> cases hheader
  rfl

theorem SamePlace.header {inner outer content : Text}
    (hcontent : content = inner ++ outer) (segments : List Segment) :
    SamePlace (.tag .header content :: segments) inner
      (['<', '%', '%'] ++ inner) := by
  rw [hcontent]
  exact .inside inner outer segments

/-- A place in the fragment lies in the first header, or behind the newline
that follows it. -/
theorem exists_samePlace_header {content before rest : Text}
    {segments : List Segment}
    (hfragment :
      Text.join ['\n'] (content :: segments.filterMap header?) =
        before ++ rest)
    (hlater : ∀ {after}, segments.filterMap header? ≠ [] →
      Text.join ['\n'] (segments.filterMap header?) = after ++ rest →
      ∃ inSource, SamePlace segments after inSource) :
    ∃ inSource,
      SamePlace (.tag .header content :: segments) before inSource := by
  cases hheaders : segments.filterMap header? with
  | nil =>
      rw [hheaders] at hfragment
      have hcontent : content = before ++ rest := by
        simpa [Text.join] using hfragment
      exact ⟨_, .header hcontent segments⟩
  | cons next headers =>
      rw [hheaders, Text.join_cons_cons, ← hheaders] at hfragment
      rcases List.append_eq_append_iff.mp hfragment with
        ⟨more, rfl, hmore⟩ | ⟨outer, hcontent, -⟩
      · cases more with
        | nil =>
            -- At the newline itself, the place is still at the end of the
            -- first header.
            rw [List.append_nil]
            exact ⟨_, .header (List.append_nil content).symm segments⟩
        | cons c after =>
            obtain ⟨rfl, hrest⟩ := List.cons.inj hmore
            obtain ⟨inSource, hsame⟩ :=
              hlater (hheaders ▸ List.cons_ne_nil _ _) hrest
            rw [List.append_cons]
            exact ⟨_, .behind content hsame⟩
      · exact ⟨_, .header hcontent segments⟩

/-- Every place in the fragment is a place in the source, if there is a
header. -/
theorem exists_samePlace {segments : List Segment} {before rest : Text}
    (hheaders : segments.filterMap header? ≠ [])
    (hfragment : Text.join ['\n'] (segments.filterMap header?) =
      before ++ rest) :
    ∃ inSource, SamePlace segments before inSource := by
  induction segments generalizing before with
  | nil => exact absurd rfl hheaders
  | cons segment segments ih =>
      cases hheader : segment.header? with
      | none =>
          rw [List.filterMap_cons_none hheader] at hheaders hfragment
          obtain ⟨inSource, hsame⟩ := ih hheaders hfragment
          exact ⟨_, .elsewhere hheader hsame⟩
      | some content =>
          rw [List.filterMap_cons_some hheader] at hfragment
          obtain rfl := eq_header_of_header? hheader
          exact exists_samePlace_header hfragment ih

theorem SamePlace.exists_tag {segments : List Segment}
    {inFragment inSource : Text}
    (hsame : SamePlace segments inFragment inSource) :
    ∃ index inner outer,
      segments[index]? = some (.tag .header (inner ++ outer)) ∧
      inSource = spell (segments.take index) ++ ['<', '%', '%'] ++ inner := by
  induction hsame with
  | inside inner outer segments => exact ⟨0, inner, outer, rfl, rfl⟩
  | behind content hsame ih =>
      obtain ⟨index, inner, outer, htag, rfl⟩ := ih
      exact ⟨index + 1, inner, outer, htag, by
        simp [spelling, Tag.mark, Tag.sigil, Tag.closer]⟩
  | elsewhere hother hsame ih =>
      obtain ⟨index, inner, outer, htag, rfl⟩ := ih
      exact ⟨index + 1, inner, outer, htag, by simp⟩

theorem Means.header?_eq {typesafe : Bool} {segment : Segment} {item : Item}
    (hmeans : segment.Means typesafe item) (position : Position) :
    Block.header? ⟨item, position⟩ = segment.header?.map fun content =>
      (content, position) := by
  cases hmeans <;> rfl

end Segment

/-! ## Lines of places -/

section Placed

variable {path : Text} {typesafe : Bool} {line : Nat}
variable {segments : List Segment} {blocks : List Block}

theorem Placed.map_header?
    (hplaced : Placed path typesafe line segments blocks) :
    (blocks.filterMap Block.header?).map (·.1) =
      segments.filterMap Segment.header? := by
  induction hplaced with
  | nil line => rfl
  | @cons line segment item segments blocks hmeans hplaced ih =>
      rw [List.filterMap_cons, List.filterMap_cons, hmeans.header?_eq]
      cases segment.header? with
      | none => exact ih
      | some content => exact congrArg (content :: ·) ih

theorem Template.templateLine_header (hpath : path ≠ []) (hline : 0 < line)
    {inner content : Text} (hinner : inner <+: content) (first : Nat)
    (headers : List (Text × Position)) :
    templateLine (first + inner.newlines) first
      ((content, ⟨path, line⟩) :: headers) =
      line + inner.newlines := by
  have hle : inner.newlines ≤ content.newlines := hinner.sublist.count_le '\n'
  have hknown : Position.IsKnown ⟨path, line⟩ := ⟨hpath, hline⟩
  rw [templateLine, if_pos (Nat.add_le_add_left hle first), if_pos hknown,
    Nat.add_sub_cancel_left]

theorem Template.templateLine_behind (content : Text) (position : Position)
    (headers : List (Text × Position)) (first later : Nat) :
    templateLine (first + content.newlines + 1 + later) first
      ((content, position) :: headers) =
      templateLine (first + content.newlines + 1 + later)
        (first + content.newlines + 1) headers := by
  have hbehind : ¬ first + content.newlines + 1 + later ≤ first +
      content.newlines := by omega
  rw [templateLine, if_neg hbehind]

/-- The template line of a place is found from its line in the fragment,
whatever the line is on which the fragment starts. -/
theorem Placed.templateLine_eq
    (hplaced : Placed path typesafe line segments blocks) (hpath : path ≠ [])
    (hline : 0 < line) {inFragment inSource : Text}
    (hsame : Segment.SamePlace segments inFragment inSource) (first : Nat) :
    Template.templateLine (first + inFragment.newlines) first
      (blocks.filterMap Block.header?) =
      line + inSource.newlines := by
  induction hsame generalizing line blocks first with
  | inside inner outer segments =>
      cases hplaced with
      | cons hmeans hplaced =>
          cases hmeans
          have hopener : Text.newlines (['<', '%', '%'] ++ inner) =
              inner.newlines := by
            simp [Text.newlines]
          rw [hopener]
          exact Template.templateLine_header hpath hline
            (List.prefix_append inner outer) first _
  | @behind content segments inFragment inSource hsame ih =>
      cases hplaced with
      | cons hmeans hplaced =>
          cases hmeans
          have hfragment :
              first + Text.newlines (content ++ ['\n'] ++ inFragment) =
              first + content.newlines + 1 + inFragment.newlines := by
            rw [Text.newlines_append, Text.newlines_append, ← Nat.add_assoc,
              ← Nat.add_assoc]
            rfl
          have hsource : line + Text.newlines
                (['<', '%', '%'] ++ content ++ ['%', '%', '>'] ++ inSource) =
              line + (Segment.spelling (.tag .header content)).newlines +
                inSource.newlines := by
            rw [Text.newlines_append, ← Nat.add_assoc]
            rfl
          rw [hfragment, hsource]
          have hlater :=
            ih hplaced (Nat.lt_of_lt_of_le hline (Nat.le_add_right _ _))
          exact (Template.templateLine_behind _ _ _ _ _).trans (hlater _)
  | elsewhere hother hsame ih =>
      cases hplaced with
      | cons hmeans hplaced =>
          rw [List.filterMap_cons, hmeans.header?_eq, hother]
          have hlater :=
            ih hplaced (Nat.lt_of_lt_of_le hline (Nat.le_add_right _ _)) first
          rw [Text.newlines_append, ← Nat.add_assoc]
          exact hlater

end Placed

/-! ## From the error to the source -/

theorem Template.imports_eq_header_iff {options : Options}
    {template : Template} {named : Bytes} {error : Import.Error} :
    template.imports options = .error (.header named error) ↔
      named = template.path ∧ ∃ found,
        Import.ofFragment template.headerFragment = .error found ∧
        error = { found with
          line := templateLine found.line 1 template.headers } := by
  unfold imports
  cases Import.ofFragment template.headerFragment with
  | ok specs => simp
  | error found => simp [eq_comm]

theorem Template.generate_eq_header_iff {workingDirectory : List Bytes}
    {options : Options} {template : Template} {named : Bytes}
    {error : Import.Error} :
    template.generate workingDirectory options =
      .error (.header named error) ↔
      (∃ package, template.package? workingDirectory = some package) ∧
        template.imports options = .error (.header named error) := by
  unfold generate file
  cases template.package? workingDirectory with
  | none => simp [Except.map]
  | some package =>
      cases template.imports options with
      | error other => simp [Except.map]
      | ok imports => simp [Except.map]

/-- A header is only read if the source is well-formed and names its
package. -/
theorem compile_eq_header_iff {workingDirectory : List Bytes}
    {options : Options} {path : Bytes} {source : Text} {named : Bytes}
    {error : Import.Error} :
    compile workingDirectory options path source =
      .error (.header named error) ↔
      ∃ template, parse options path source = .ok template ∧
        (∃ package, template.package? workingDirectory = some package) ∧
        template.imports options = .error (.header named error) := by
  unfold compile parse
  cases Template.ofSource options.typesafe path source with
  | error other => simp
  | ok template => simp [Template.generate_eq_header_iff]

/-- Header errors point at the right line.  The line of the error is that of
the place in the source at which reading the headers stopped, as one fragment.
What stands at this place is what the fault says, and the line is one of the
lines of a header tag. -/
theorem compile_places_header_error {workingDirectory : List Bytes}
    {options : Options} {path : Bytes} {source : Text} {named : Bytes}
    {error : Import.Error}
    (hcompile :
      compile workingDirectory options path source =
        .error (.header named error)) :
    ∃ (stop : Import.Stop) (before : Text),
      named = path ∧ error.fault = stop.fault ∧
      Text.join ['\n'] ((Segment.parts source).filterMap Segment.header?) =
        before ++ stop.rest ∧
      Import.declarations (before ++ stop.rest) = .error stop ∧
      stop.fault.StandsAt before stop.rest ∧
      (∃ inSource, Segment.SamePlace (Segment.parts source) before inSource) ∧
      ∀ inSource, Segment.SamePlace (Segment.parts source) before inSource →
        inSource <+: source ∧ error.line = 1 + inSource.newlines ∧
        ∃ index content,
          (Segment.parts source)[index]? = some (.tag .header content) ∧
          1 + (Segment.spell ((Segment.parts source).take index)).newlines ≤
            error.line ∧
          error.line ≤ 1 + Text.newlines
            (Segment.spell ((Segment.parts source).take index) ++
              ['<', '%', '%'] ++ content) := by
  obtain ⟨template, hparse, ⟨package, hpackage⟩, himports⟩ :=
    compile_eq_header_iff.mp hcompile
  obtain ⟨segments, hrun, hplaced⟩ := parse_eq_ok_placed hparse
  obtain ⟨rfl, -⟩ :=
    Template.ofSource_eq_ok_iff.mp (parse_eq_ok_iff.mp hparse)
  have hpath :=
    Utf8.decodeLossy_ne_nil (Template.path_ne_nil_of_package? hpackage)
  obtain ⟨rfl, found, hfound, rfl⟩ :=
    Template.imports_eq_header_iff.mp himports
  obtain ⟨stop, hstop, rfl⟩ := Import.ofFragment_eq_error_iff.mp hfound
  have hfragment : Text.join ['\n'] (segments.filterMap Segment.header?) =
      template.headerFragment := by
    rw [← hplaced.map_header?]
    rfl
  obtain ⟨before, hbefore, hstands⟩ := Import.within_of_declarations hstop
  -- Without a header the fragment is empty, and reading it cannot fail.
  have hheaders : segments.filterMap Segment.header? ≠ [] := by
    intro hnil
    rw [← hfragment, hnil] at hstop
    cases hstop.symm.trans Import.declarations_nil
  rw [hbefore] at hstop hfragment
  rw [hrun.parts_eq]
  refine ⟨stop, before, rfl, rfl, hfragment, hstop, hstands,
    Segment.exists_samePlace hheaders hfragment, ?_⟩
  intro inSource hsame
  have hline :
      Template.templateLine (Import.lineOf template.headerFragment stop.rest)
        1 template.headers = 1 + inSource.newlines := by
    rw [hbefore, Import.lineOf_append]
    exact hplaced.templateLine_eq hpath Nat.zero_lt_one hsame 1
  obtain ⟨index, inner, outer, htag, rfl⟩ := hsame.exists_tag
  refine ⟨?_, hline, index, inner ++ outer, htag, ?_, ?_⟩
  · rw [hrun.eq_spell, Segment.spell_eq_around htag]
    exact ⟨outer ++ ['%', '%', '>'] ++
      Segment.spell (segments.drop (index + 1)),
      by simp [Segment.spelling, Tag.mark, Tag.sigil, Tag.closer]⟩
  · simp only [hline, Text.newlines_append]
    omega
  · simp only [hline, Text.newlines_append]
    omega

/-- A group is opened in the first header, and a comment that is never closed
starts on the second line of the next one. -/
theorem compile_places_header_error_of_comment :
    ∃ error : Import.Error, compile [] {} [47, 118, 47, 97]
        (Segment.spell [.tag .header ("import".toList ++ ['(']),
          .text ['\n', '\n'], .tag .header ['\n', '/', '*', '\n']]) =
            .error (.header [47, 118, 47, 97] error) ∧
      error.fault = .unterminatedComment ∧ error.line = 4 := by
  have hrun := @Segment.run_spell_of_wellFormed
    [.tag .header ("import".toList ++ ['(']), .text ['\n', '\n'],
      .tag .header ['\n', '/', '*', '\n']] (by decide) (by decide)
  have hplaced : Placed ['/', 'v', '/', 'a'] false 1 _ _ :=
    .cons (.header ("import".toList ++ ['('])) (.cons (.text ['\n', '\n'])
      (.cons (.header ['\n', '/', '*', '\n']) (.nil _)))
  have hends : Import.EndsIdentifier ['(', '\n', '\n', '/', '*', '\n'] := by
    rintro c ⟨⟩
    rfl
  have hblank : Import.Trivia ['\n', '\n', '/', '*', '\n'] ['/', '*', '\n'] :=
    .space (.inl rfl) (.space (.inl rfl) (.none _))
  have hskip : Import.skipTrivia ['/', '*', '\n'] =
      .error ⟨.unterminatedComment, ['/', '*', '\n']⟩ := by
    rw [Import.skipTrivia]
    rfl
  have hgroup := Import.declaration_group hends (.none _)
  rw [Import.importGroup_eq, hblank.skipTrivia_eq, hskip] at hgroup
  have hstop := Import.declarations_of_error hgroup
  refine Exists.imp (fun error hcompile => ⟨hcompile, ?_⟩)
    ⟨_, compile_eq_header_iff.mpr ⟨_, parse_of_run hrun hplaced, ⟨['v'], rfl⟩,
      Template.imports_eq_header_iff.mpr
        ⟨rfl, _, Import.ofFragment_eq_error_iff.mpr ⟨_, hstop, rfl⟩, rfl⟩⟩⟩
  obtain ⟨stop, before, -, hfault, hfragment, hread, -, -, hplace⟩ :=
    compile_places_header_error hcompile
  rw [hrun.parts_eq] at hfragment hplace
  rw [← hfragment] at hread
  cases hstop.symm.trans hread
  have hbefore : "import".toList ++ ['(', '\n', '\n'] ++ ['/', '*', '\n'] =
      before ++ ['/', '*', '\n'] := hfragment
  rw [← List.append_cancel_right hbefore] at hplace
  obtain ⟨-, hline, -⟩ :=
    hplace _ (.behind _ (.elsewhere rfl (.inside ['\n'] ['/', '*', '\n'] [])))
  exact ⟨hfault, hline⟩

end Stencil
