import Mathlib.Data.List.Forall2
import Stencil.Proofs.HeaderErrors

/-!
# Headers one after another

The headers of a template are read as one fragment, with a newline between
neighbours.  If every header can be read on its own, this makes no difference:
the fragment declares the imports of its headers in order.

What makes it so is the newline at the seam.  It ends a line comment and an
identifier, and it is trivia itself.  So every rule of the grammar that
applies to a text applies to the text with a newline and anything else behind
it, and leaves the newline and the rest as they are.  Reading goes on there as
if the second fragment stood alone, and only the lines of its errors have
moved.
-/

namespace Stencil
namespace Import

/-! ## Rules in front of a newline -/

section Seam

variable {text rest : Text} (after : Text)

theorem Trivia.append_newline (htrivia : Trivia text rest) :
    Trivia (text ++ '\n' :: after) (rest ++ '\n' :: after) := by
  induction htrivia with
  | none rest => exact .none _
  | space hspace htrivia ih => exact .space hspace ih
  | @lineComment comment text rest hcomment hend htrivia ih =>
      have hends : ∀ c ∈ (text ++ '\n' :: after).head?, c = '\n' := by
        intro c hc
        cases text with
        | nil =>
            cases hc
            rfl
        | cons d text => exact hend c hc
      simpa only [List.append_assoc] using
        Trivia.lineComment hcomment hends ih
  | @blockComment comment text rest hcomment htrivia ih =>
      simpa only [List.append_assoc] using Trivia.blockComment hcomment ih

theorem EndsIdentifier.append_newline (hends : EndsIdentifier text) :
    EndsIdentifier (text ++ '\n' :: after) := by
  intro c hc
  cases text with
  | nil =>
      cases hc
      rfl
  | cons d text => exact hends c hc

theorem LocalName.append_newline {name : Option Text}
    (hlocal : LocalName text name rest) :
    LocalName (text ++ '\n' :: after) name (rest ++ '\n' :: after) := by
  cases hlocal with
  | absent rest => exact .absent _
  | @dot blanks hblanks rest =>
      simpa only [List.cons_append, List.append_assoc] using
        LocalName.dot hblanks (rest ++ '\n' :: after)
  | @identifier name blanks rest hname hends hblanks =>
      have hlater : EndsIdentifier (blanks ++ (rest ++ '\n' :: after)) := by
        rw [← List.append_assoc]
        exact hends.append_newline after
      simpa only [List.append_assoc] using
        LocalName.identifier hname hlater hblanks

theorem QuotedPath.append {path : Text} (hpath : QuotedPath text path rest)
    (more : Text) :
    QuotedPath (text ++ more) path (rest ++ more) := by
  cases hpath with
  | double hne hvalid =>
      rw [List.cons_append, List.append_assoc, List.cons_append]
      exact .double hne hvalid
  | back hne hvalid =>
      rw [List.cons_append, List.append_assoc, List.cons_append]
      exact .back hne hvalid

theorem Spec.append_newline {spec : ImportSpec}
    (hspec : Spec text spec rest) :
    Spec (text ++ '\n' :: after) spec (rest ++ '\n' :: after) := by
  obtain ⟨middle, hlocal, hpath⟩ := hspec
  exact ⟨_, hlocal.append_newline after, hpath.append _⟩

theorem GroupItems.append_newline {specs : List ImportSpec}
    (hitems : GroupItems text specs rest) :
    GroupItems (text ++ '\n' :: after) specs (rest ++ '\n' :: after) := by
  induction hitems with
  | close rest => exact .close _
  | item hspec htrivia hitems ih =>
      exact .item (hspec.append_newline after)
        (htrivia.append_newline after) ih

theorem Declaration.append_newline {specs : List ImportSpec}
    (hdeclaration : Declaration text specs rest) :
    Declaration (text ++ '\n' :: after) specs (rest ++ '\n' :: after) := by
  cases hdeclaration with
  | single hends htrivia hspec =>
      rw [List.append_assoc]
      exact .single (hends.append_newline after)
        (htrivia.append_newline after) (hspec.append_newline after)
  | group hends hopen htrivia hitems =>
      rw [List.append_assoc]
      exact .group (hends.append_newline after) (hopen.append_newline after)
        (htrivia.append_newline after) (hitems.append_newline after)

end Seam

/-! ## Reading goes on behind a newline -/

theorem declarations_newline (after : Text) :
    declarations ('\n' :: after) = declarations after :=
  declarations_of_trivia (.space (.inl rfl) (.none after))

/-- Behind declarations and a newline, reading is where a fresh start would
be. -/
theorem Declarations.declarations_append {text : Text}
    {specs : List ImportSpec} (hdeclarations : Declarations text specs)
    (after : Text) :
    declarations (text ++ '\n' :: after) =
      (declarations after).map (specs ++ ·) := by
  induction hdeclarations with
  | finished =>
      rw [List.nil_append, declarations_newline]
      cases declarations after <;> rfl
  | @step text middle rest specs more hdeclaration htrivia hmore ih =>
      rw [declarations_step (hdeclaration.append_newline after),
        declarations_of_trivia (htrivia.append_newline after), ih]
      cases declarations after with
      | error stop => rfl
      | ok others =>
          exact congrArg Except.ok (List.append_assoc specs more others).symm

theorem declarations_append {fragment : Text} {specs : List ImportSpec}
    (hread : ofFragment fragment = .ok specs) (after : Text) :
    declarations (fragment ++ '\n' :: after) =
      (declarations after).map (specs ++ ·) := by
  obtain ⟨rest, htrivia, hdeclarations⟩ := ofFragment_eq_ok_iff.mp hread
  rw [declarations_of_trivia (htrivia.append_newline after),
    hdeclarations.declarations_append after]

theorem ofFragment_append_ok {fragment after : Text}
    {specs more : List ImportSpec} (hread : ofFragment fragment = .ok specs)
    (hafter : ofFragment after = .ok more) :
    ofFragment (fragment ++ '\n' :: after) = .ok (specs ++ more) := by
  have hmore := declarations_eq_ok_iff.mpr (ofFragment_eq_ok_iff.mp hafter)
  rw [ofFragment, declarations_append hread, hmore]
  rfl

theorem ofFragment_append_error {fragment after : Text}
    {specs : List ImportSpec} {error : Error}
    (hread : ofFragment fragment = .ok specs)
    (hafter : ofFragment after = .error error) :
    ofFragment (fragment ++ '\n' :: after) =
      .error ⟨error.line + fragment.newlines + 1, error.fault⟩ := by
  obtain ⟨stop, hstop, rfl⟩ := ofFragment_eq_error_iff.mp hafter
  obtain ⟨before, hbefore, -⟩ := within_of_declarations hstop
  apply ofFragment_eq_error_iff.mpr
  refine ⟨stop, ?_, ?_⟩
  · rw [declarations_append hread, hstop]
    rfl
  · -- The place is the same suffix, and the first fragment and the newline
    -- are before it.
    have hplace :
        fragment ++ '\n' :: after =
          fragment ++ ['\n'] ++ before ++ stop.rest := by
      rw [hbefore]
      simp
    have hnewline : Text.newlines ['\n'] = 1 := rfl
    rw [hplace, hbefore, lineOf_append, lineOf_append, Text.newlines_append,
      Text.newlines_append, hnewline, Error.mk.injEq]
    refine ⟨?_, rfl⟩
    show 1 + before.newlines + fragment.newlines + 1 =
        1 + (fragment.newlines + 1 + before.newlines)
    omega

theorem ofFragment_join {fragments : List Text}
    {lists : List (List ImportSpec)}
    (hread : List.Forall₂
      (fun fragment specs => ofFragment fragment = .ok specs)
      fragments lists) :
    ofFragment (Text.join ['\n'] fragments) = .ok lists.flatten := by
  induction hread with
  | nil => exact ofFragment_nil
  | @cons fragment specs fragments lists hfragment hread ih =>
      cases fragments with
      | nil =>
          cases hread
          simpa [Text.join] using hfragment
      | cons next fragments =>
          rw [Text.join_cons_cons, List.flatten_cons]
          exact ofFragment_append_ok hfragment ih

end Import

/-- Independent headers compose.  Behind a fragment that can be read and a
newline, a second fragment is read as on its own: its imports follow those of
the first, and its error moves down by the lines of the first.  So headers
that can be read one by one declare together what they declare alone, in
document order. -/
theorem Template.headers_compose :
    (∀ (first second : Text) (specs : List ImportSpec),
      Import.ofFragment first = .ok specs →
      (∀ more, Import.ofFragment second = .ok more →
        Import.ofFragment (first ++ '\n' :: second) = .ok (specs ++ more)) ∧
      ∀ error, Import.ofFragment second = .error error →
        Import.ofFragment (first ++ '\n' :: second) =
          .error ⟨error.line + first.newlines + 1, error.fault⟩) ∧
    ∀ (template : Template) (lists : List (List ImportSpec)),
      List.Forall₂
        (fun header specs => Import.ofFragment header.1 = .ok specs)
        template.headers lists →
      Import.ofFragment template.headerFragment = .ok lists.flatten ∧
        ∀ options, template.imports options =
          .ok (ImportSet.empty.insertAll
            (template.baseImports options ++ lists.flatten)) := by
  constructor
  · intro first second specs hfirst
    exact ⟨fun more => Import.ofFragment_append_ok hfirst,
      fun error => Import.ofFragment_append_error hfirst⟩
  · intro template lists hheaders
    have hread : Import.ofFragment template.headerFragment =
        .ok lists.flatten :=
      Import.ofFragment_join (List.forall₂_map_left_iff.mpr hheaders)
    refine ⟨hread, fun options => ?_⟩
    exact Template.imports_eq_ok_iff.mpr ⟨lists.flatten, hread, rfl⟩

/-- The first fragment ends in a line comment without a newline.  A comment
that is never closed starts on the second line of the other one, and so on the
fourth line of both. -/
theorem Template.headers_compose_behind_line_comment :
    Import.ofFragment
        (('\n' :: ("import".toList ++ ['"', 'a', '"', '/', '/'])) ++
          '\n' :: ['\n', '/', '*']) =
      .error ⟨4, .unterminatedComment⟩ ∧
    ∀ position, Import.ofFragment (Template.headerFragment ⟨[], [
        ⟨.header ('\n' :: ("import".toList ++ ['"', 'a', '"', '/', '/'])),
          position⟩,
        ⟨.header [], position⟩]⟩) = .ok [⟨none, ['a']⟩] := by
  have hpath :
      Import.Spec ['"', 'a', '"', '/', '/'] ⟨none, ['a']⟩ ['/', '/'] :=
    ⟨_, .absent _, @Import.QuotedPath.double ['a'] _ (by decide)
      (List.forall_mem_singleton.mpr (by decide))⟩
  have hends : Import.EndsIdentifier ['"', 'a', '"', '/', '/'] := by
    rintro c ⟨⟩
    rfl
  have hcomment : Import.Trivia ['/', '/'] [] :=
    @Import.Trivia.lineComment [] [] [] (by decide)
      (by rintro c ⟨⟩) (.none [])
  have hfirst :
      Import.ofFragment
        ('\n' :: ("import".toList ++ ['"', 'a', '"', '/', '/'])) =
      .ok [⟨none, ['a']⟩] :=
    Import.ofFragment_eq_ok_iff.mpr ⟨_, .space (.inl rfl) (.none _),
      .step (.single hends (.none _) hpath) hcomment .finished⟩
  have hskip : Import.skipTrivia ['/', '*'] =
      .error ⟨.unterminatedComment, ['/', '*']⟩ := by
    rw [Import.skipTrivia]
    rfl
  have hsecond : Import.ofFragment ['\n', '/', '*'] =
      .error ⟨2, .unterminatedComment⟩ := by
    have hstop := Import.declarations_newline ['/', '*']
    rw [Import.declarations_eq ['/', '*'], hskip] at hstop
    exact Import.ofFragment_eq_error_iff.mpr ⟨_, hstop, rfl⟩
  obtain ⟨hfragments, htemplate⟩ := Template.headers_compose
  refine ⟨(hfragments _ _ _ hfirst).2 _ hsecond, fun position => ?_⟩
  have hheaders : List.Forall₂
      (fun (header : Text × Position) specs =>
        Import.ofFragment header.1 = .ok specs)
      [('\n' :: ("import".toList ++ ['"', 'a', '"', '/', '/']), position),
        ([], position)]
      [[⟨none, ['a']⟩], []] :=
    .cons hfirst (.cons Import.ofFragment_nil .nil)
  exact (htemplate ⟨[], [⟨.header _, position⟩, ⟨.header [], position⟩]⟩
    _ hheaders).1

end Stencil
