import Mathlib.Data.List.Basic
import Stencil.Compile.Rendering
import Stencil.Proofs.ErrorSnippets
import Stencil.Proofs.ImportGrammar

/-!
# Coloured errors

A coloured error has switches in it, sequences that a terminal obeys and does
not show.  Deleting them has to give back the plain error, although the
deletion looks for a switch at every place and knows nothing about how the
error was put together.

A switch opens with the escape character and holds no other one.  So a text
without that character is kept whatever follows it, and a switch is deleted
whatever follows it.  This makes "shows as" a relation between texts that
concatenation keeps, and a rendered error is taken apart along the
concatenations that built it.
-/

namespace Stencil
namespace Text

/-! ## Switches -/

/-- The character that opens a switch. -/
def escape : Char :=
  '\x1b'

def isSwitchParameter (c : Char) : Bool :=
  c.isDigit || c == ';'

/-- The escape character, a bracket, digits and semicolons, and an `m`. -/
def IsSwitch (text : Text) : Prop :=
  ∃ parameters, text = escape :: '[' :: parameters ++ ['m'] ∧
    ∀ c ∈ parameters, isSwitchParameter c = true

/-- The text behind the switch that a text starts with. -/
def behindSwitch? : Text → Option Text
  | '\x1b' :: '[' :: text =>
      match text.dropWhile isSwitchParameter with
      | 'm' :: rest => some rest
      | _ => none
  | _ => none

theorem exists_switch_of_behindSwitch? {text rest : Text}
    (hbehind : behindSwitch? text = some rest) :
    ∃ switch, IsSwitch switch ∧ text = switch ++ rest := by
  unfold behindSwitch? at hbehind
  split at hbehind
  next text =>
    split at hbehind
    next behind hdrop =>
      obtain rfl := Option.some.inj hbehind
      have htext :=
        List.takeWhile_append_dropWhile (p := isSwitchParameter) (l := text)
      rw [hdrop] at htext
      refine ⟨_, ⟨text.takeWhile isSwitchParameter, rfl, ?_⟩, ?_⟩
      · intro c hc
        exact List.mem_takeWhile_imp hc
      · nth_rewrite 1 [← htext]
        simp [escape]
    next => cases hbehind
  next => cases hbehind

theorem behindSwitch?_switch_append {switch : Text}
    (hswitch : IsSwitch switch) (rest : Text) :
    behindSwitch? (switch ++ rest) = some rest := by
  obtain ⟨parameters, rfl, hparameters⟩ := hswitch
  have hdrop : (parameters ++ 'm' :: rest).dropWhile isSwitchParameter =
      'm' :: rest := by
    apply dropWhile_run hparameters
    intro c hc
    obtain rfl := Option.some.inj hc
    rfl
  simp [behindSwitch?, escape, hdrop]

theorem behindSwitch?_cons_of_ne {c : Char} (hc : c ≠ escape) (text : Text) :
    behindSwitch? (c :: text) = none := by
  unfold behindSwitch?
  split
  next heq => exact absurd (List.cons.inj heq).1 hc
  next => rfl

/-- The text with every switch deleted. -/
def withoutSwitches : Text → Text
  | [] => []
  | c :: text =>
      match _hbehind : behindSwitch? (c :: text) with
      | some rest => withoutSwitches rest
      -- An escape character that opens no switch is kept as well.
      | none => c :: withoutSwitches text
termination_by text => text.length
decreasing_by
  · obtain ⟨switch, ⟨parameters, rfl, -⟩, htext⟩ :=
      exists_switch_of_behindSwitch? _hbehind
    simp only [htext, List.length_append, List.length_cons]
    omega
  · simp

theorem withoutSwitches_nil : withoutSwitches [] = [] := by
  unfold withoutSwitches
  rfl

theorem withoutSwitches_of_behindSwitch? {text rest : Text}
    (hbehind : behindSwitch? text = some rest) :
    withoutSwitches text = withoutSwitches rest := by
  cases text with
  | nil => cases hbehind
  | cons c text =>
      rw [withoutSwitches]
      split
      next other hother =>
        rw [hbehind] at hother
        rw [Option.some.inj hother]
      next hnone =>
        rw [hbehind] at hnone
        cases hnone

theorem withoutSwitches_cons_of_ne {c : Char} (hc : c ≠ escape)
    (text : Text) :
    withoutSwitches (c :: text) = c :: withoutSwitches text := by
  rw [withoutSwitches]
  split
  next rest hrest =>
    rw [behindSwitch?_cons_of_ne hc] at hrest
    cases hrest
  next => rfl

/-! ## What a text shows as -/

/-- Whatever follows the text, deleting the switches makes the other text of
it. -/
def ShowsAs (text shown : Text) : Prop :=
  ∀ rest, withoutSwitches (text ++ rest) = shown ++ withoutSwitches rest

theorem ShowsAs.withoutSwitches_eq {text shown : Text}
    (hshows : ShowsAs text shown) :
    withoutSwitches text = shown := by
  have hwhole := hshows []
  rwa [withoutSwitches_nil, List.append_nil, List.append_nil] at hwhole

theorem showsAs_switch {switch : Text} (hswitch : IsSwitch switch) :
    ShowsAs switch [] := by
  intro rest
  exact withoutSwitches_of_behindSwitch?
    (behindSwitch?_switch_append hswitch rest)

theorem showsAs_nil : ShowsAs [] [] := by
  intro rest
  rfl

theorem showsAs_self {text : Text} (htext : escape ∉ text) :
    ShowsAs text text := by
  intro rest
  induction text with
  | nil => rfl
  | cons c text ih =>
      rw [List.mem_cons, not_or] at htext
      rw [List.cons_append, List.cons_append,
        withoutSwitches_cons_of_ne (Ne.symm htext.1), ih htext.2]

theorem ShowsAs.append {text shown next others : Text}
    (hshows : ShowsAs text shown) (hnext : ShowsAs next others) :
    ShowsAs (text ++ next) (shown ++ others) := by
  intro rest
  rw [List.append_assoc, hshows, hnext, List.append_assoc]

theorem ShowsAs.cons {c : Char} (hc : c ≠ escape) {text shown : Text}
    (hshows : ShowsAs text shown) : ShowsAs (c :: text) (c :: shown) := by
  intro rest
  rw [List.cons_append, withoutSwitches_cons_of_ne hc, hshows,
    List.cons_append]

theorem ShowsAs.spaced {text shown : Text} (hshows : ShowsAs text shown) :
    ShowsAs (' ' :: text) (' ' :: shown) := by
  apply hshows.cons
  decide

theorem showsAs_newline : ShowsAs ['\n'] ['\n'] := by
  apply showsAs_self
  decide

end Text

/-! ## Styles -/

open Text (escape ShowsAs showsAs_newline showsAs_nil showsAs_self)

/-- Nothing of what the style puts around a text is shown. -/
structure Style.Invisible (style : Style) : Prop where
  alarm : ShowsAs style.alarm []
  faint : ShowsAs style.faint []
  accent : ShowsAs style.accent []
  strong : ShowsAs style.strong []
  reset : ShowsAs style.reset []

theorem Style.invisible_colored : Style.colored.Invisible := by
  have hswitch (parameters : Text)
      (hparameters : parameters.all Text.isSwitchParameter = true) :
      ShowsAs (escape :: '[' :: parameters ++ ['m']) [] :=
    Text.showsAs_switch ⟨parameters, rfl, List.all_eq_true.mp hparameters⟩
  constructor
  · exact hswitch ['1', ';', '3', '1'] rfl
  · exact hswitch ['2'] rfl
  · exact hswitch ['1', ';', '3', '8', ';', '5', ';', '7', '3'] rfl
  · exact hswitch ['1'] rfl
  · exact hswitch ['0'] rfl

theorem Style.Invisible.wrap {style : Style} (hstyle : style.Invisible)
    {switch text : Text} (hswitch : ShowsAs switch [])
    (htext : escape ∉ text) :
    ShowsAs (style.wrap switch text) (Style.plain.wrap [] text) := by
  unfold Style.wrap
  exact (hswitch.append (showsAs_self htext)).append hstyle.reset

/-! ## Syntax errors -/

namespace SyntaxError

theorem escape_notMem_ofNat (number : Nat) : escape ∉ Text.ofNat number := by
  apply notMem_ofNat
  rfl

theorem showsAs_snippet {style : Style} (hstyle : style.Invisible)
    (number : Nat) {line : Text} (hline : escape ∉ line) :
    ShowsAs (snippet style number line) (snippet .plain number line) := by
  have hgutter {label : Text} (hlabel : escape ∉ label) :
      ShowsAs (style.wrap style.faint (label ++ " |".toList))
        (Style.plain.wrap [] (label ++ " |".toList)) := by
    apply hstyle.wrap hstyle.faint
    rw [List.mem_append, not_or]
    exact ⟨hlabel, by decide⟩
  have hrow {c : Char} (hc : escape ≠ c) (width : Nat) :
      escape ∉ List.replicate width c := by
    intro hmem
    exact hc (List.eq_of_mem_replicate hmem)
  have hblank (width : Nat) : escape ∉ List.replicate width ' ' :=
    hrow (by decide) width
  have hnumber (width : Nat) :
      escape ∉ (Text.ofNat number).leftpad width ' ' := by
    rw [List.leftpad, List.mem_append, not_or]
    exact ⟨hblank _, escape_notMem_ofNat number⟩
  -- The three rows are taken off from the last piece to the first.
  unfold snippet
  apply ShowsAs.append _ showsAs_newline
  apply ShowsAs.append _ (hstyle.wrap hstyle.alarm (hrow (by decide) _))
  apply ShowsAs.append _ (showsAs_self (hblank _)).spaced
  apply ShowsAs.append _ (hgutter (hblank _))
  apply ShowsAs.append _ showsAs_newline
  apply ShowsAs.append _ (showsAs_self hline).spaced
  apply ShowsAs.append _ (hgutter (hnumber _))
  exact (hgutter (hblank _)).append showsAs_newline

theorem showsAs_snippet? {style : Style} (hstyle : style.Invisible)
    {source : Text} (hsource : escape ∉ source) (error : SyntaxError) :
    ShowsAs ((snippet? style source error).getD [])
      ((snippet? .plain source error).getD []) := by
  unfold snippet?
  split
  next => exact showsAs_nil
  next number _ =>
    cases hline : source.lines[number]? with
    | none => exact showsAs_nil
    | some line =>
        rw [Option.map_some, Option.map_some, Option.getD_some,
          Option.getD_some]
        apply showsAs_snippet hstyle
        intro hmem
        exact hsource
          (Text.subset_of_mem_lines (List.mem_of_getElem? hline) hmem)

theorem showsAs_helpLines {style : Style} (hstyle : style.Invisible)
    {help : Text} (hhelp : escape ∉ help) :
    ShowsAs (helpLines style help) (helpLines .plain help) := by
  have hlines : ∀ line ∈ help.lines, escape ∉ line := by
    intro line hline hmem
    exact hhelp (Text.subset_of_mem_lines hline hmem)
  unfold helpLines
  split
  next => exact showsAs_nil
  next first others hcases =>
    rw [hcases, List.forall_mem_cons] at hlines
    have hothers : escape ∉ others.flatMap fun line =>
        "       ".toList ++ line ++ ['\n'] := by
      intro hmem
      obtain ⟨line, hline, hmem⟩ := List.mem_flatMap.mp hmem
      simp only [List.mem_append] at hmem
      rcases hmem with (hindent | hmem) | hnewline
      · exact absurd hindent (by decide)
      · exact hlines.2 line hline hmem
      · exact absurd hnewline (by decide)
    apply ShowsAs.append _ (showsAs_self hothers)
    apply ShowsAs.append _ showsAs_newline
    apply ShowsAs.append _ (showsAs_self hlines.1).spaced
    exact (hstyle.wrap hstyle.accent (by decide)).spaced

theorem showsAs_render {style : Style} (hstyle : style.Invisible)
    {source : Text} {error : SyntaxError} (hsource : escape ∉ source)
    (hpath : escape ∉ error.position.path) (hmessage : escape ∉ error.message)
    (hhelp : ∀ help ∈ error.help, escape ∉ help) :
    ShowsAs (error.render style source) (error.render .plain source) := by
  unfold render
  apply ShowsAs.append _ showsAs_newline
  refine ShowsAs.append ?_ ?_
  · apply ShowsAs.append _ (showsAs_snippet? hstyle hsource error)
    apply ShowsAs.append _ showsAs_newline
    apply ShowsAs.append _ (showsAs_self hmessage).spaced
    apply ShowsAs.append _ (hstyle.wrap hstyle.alarm (by decide))
    apply ShowsAs.append _ showsAs_newline
    apply ShowsAs.append _
      ((showsAs_self (escape_notMem_ofNat _)).cons (by decide))
    apply ShowsAs.append _ (showsAs_self hpath).spaced
    exact (hstyle.wrap hstyle.faint (by decide)).spaced.cons (by decide)
  · split
    next help hsome =>
      exact (showsAs_helpLines hstyle (hhelp help hsome)).cons (by decide)
    next => exact showsAs_nil

end SyntaxError

/-! ## Compile errors -/

namespace CompileError

/-- The texts that an error carries, paths as they are shown. -/
def texts : CompileError → List Text
  | .malformed error =>
      error.position.path :: error.message :: error.help.toList
  | .unidentifiablePackage path => [Utf8.decodeLossy path]
  | .header path error => [Utf8.decodeLossy path, error.fault.message]
  | .unreadable path fault => [Utf8.decodeLossy path, fault.message]

theorem showsAs_notice {style : Style} (hstyle : style.Invisible)
    {description : Text} (hdescription : escape ∉ description) :
    ShowsAs (notice style description) (notice .plain description) := by
  unfold notice
  apply ShowsAs.append _ showsAs_newline
  apply ShowsAs.append _ (hstyle.wrap hstyle.strong hdescription)
  exact (hstyle.wrap hstyle.alarm (by decide)).append
    (showsAs_self (by decide))

theorem escape_notMem_description {error : CompileError}
    (herror : ∀ text ∈ error.texts, escape ∉ text) :
    escape ∉ error.description := by
  have hnumber (number : Nat) := SyntaxError.escape_notMem_ofNat number
  unfold texts at herror
  cases error with
  | malformed error =>
      rw [List.forall_mem_cons, List.forall_mem_cons] at herror
      obtain ⟨hpath, hmessage, -⟩ := herror
      apply List.not_mem_append _ hmessage
      apply List.not_mem_append _ (by decide)
      exact List.not_mem_append hpath
        (List.not_mem_cons_of_ne_of_not_mem (by decide) (hnumber _))
  | unidentifiablePackage path =>
      rw [List.forall_mem_singleton] at herror
      exact List.not_mem_append herror (by decide)
  | header path error =>
      rw [List.forall_mem_cons, List.forall_mem_singleton] at herror
      obtain ⟨hpath, hmessage⟩ := herror
      apply List.not_mem_append (List.not_mem_append hpath (by decide))
      apply List.not_mem_append _ hmessage
      exact List.not_mem_append (List.not_mem_append (by decide) (hnumber _))
        (by decide)
  | unreadable path fault =>
      rw [List.forall_mem_cons, List.forall_mem_singleton] at herror
      obtain ⟨hpath, hmessage⟩ := herror
      exact List.not_mem_append
        (List.not_mem_append hpath (by decide)) hmessage

theorem showsAs_render {style : Style} (hstyle : style.Invisible)
    {source : Text} {error : CompileError} (hsource : escape ∉ source)
    (herror : ∀ text ∈ error.texts, escape ∉ text) :
    ShowsAs (error.render style source) (error.render .plain source) := by
  have hnotice := showsAs_notice hstyle (escape_notMem_description herror)
  cases error with
  | malformed error =>
      simp only [texts, List.forall_mem_cons, Option.mem_toList] at herror
      obtain ⟨hpath, hmessage, hhelp⟩ := herror
      exact SyntaxError.showsAs_render hstyle hsource hpath hmessage hhelp
  | unidentifiablePackage path => exact hnotice
  | header path error => exact hnotice
  | unreadable path fault => exact hnotice

/-- Deleting every switch from a coloured error leaves the plain error, as
long as neither the source nor a text of the error has an escape character of
its own.  A notice may hold any description. -/
theorem colored_shows_plain {source : Text} {error : CompileError}
    (hsource : '\x1b' ∉ source)
    (herror : ∀ text ∈ error.texts, '\x1b' ∉ text) :
    Text.withoutSwitches (error.render .colored source) =
      error.render .plain source ∧
      ∀ description, '\x1b' ∉ description →
        Text.withoutSwitches (notice .colored description) =
          notice .plain description := by
  constructor
  · exact (showsAs_render Style.invisible_colored hsource
      herror).withoutSwitches_eq
  · intro description hdescription
    exact (showsAs_notice Style.invisible_colored
      hdescription).withoutSwitches_eq

theorem colored_shows_plain_of_broken_switches :
    let source : Text := "a\n [0m<%".toList
    let error : CompileError :=
      .malformed ⟨.truncated, "[1;31m".toList, ⟨"m".toList, 2⟩,
        some "0m\n;[m".toList⟩
    '\x1b' ∉ source ∧ (∀ text ∈ error.texts, '\x1b' ∉ text) ∧
      Text.withoutSwitches (error.render .colored source) =
        "\n file: m:2\nerror: [1;31m\n".toList ++
          "   |\n 2 |  [0m<%\n   |  ^^^^^\n".toList ++
          "\n help: 0m\n       ;[m\n\n".toList := by
  intro source error
  have hsource : '\x1b' ∉ source := by decide
  have herror : ∀ text ∈ error.texts, '\x1b' ∉ text := by decide
  refine ⟨hsource, herror, ?_⟩
  rw [(colored_shows_plain hsource herror).1]
  rfl

end CompileError
end Stencil
