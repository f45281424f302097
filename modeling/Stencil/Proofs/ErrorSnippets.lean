import Mathlib.Data.List.Basic
import Stencil.Compile.Rendering
import Stencil.Proofs.Lines
import Stencil.Proofs.Scanning
import Stencil.Proofs.Utf8

/-!
# Snippets of errors

A syntax error knows the number of a line and nothing else about the source.
The number is the count of newlines before the failing tag, while the line is
looked up among lines that have lost their line ends.  That both mean the same
line is the law of this module: a shown error always shows the line on which
its tag opens.

The marks under the line are counted in two ways.  Their width is a number of
characters, but the blank in front of them is a number of bytes.  So the marks
stand under the text of the line exactly if the white space before it is
ASCII.
-/

namespace Stencil
namespace SyntaxError

/-! ## Rows -/

/-- The rows of a snippet with a gutter of a given width: a blank row, the
numbered line, and the marks under the line. -/
def rows (width number : Nat) (line marks : Text) : List Text :=
  [List.replicate width ' ' ++ [' ', '|'],
    (Text.ofNat number).leftpad width ' ' ++ [' ', '|', ' '] ++ line,
    List.replicate width ' ' ++ [' ', '|', ' '] ++ marks]

/-- What a rendered error says before it shows the source. -/
def heading (error : SyntaxError) : Text :=
  '\n' :: ' ' :: "file:".toList ++ ' ' :: error.position.path ++
    ':' :: Text.ofNat error.position.line ++ ['\n'] ++
    "error:".toList ++ ' ' :: error.message ++ ['\n']

/-- The rendered error shows a line with marks under it, right behind its
heading.  The number of the line fits into the gutter, and the gutter ends in
the same column of every row. -/
structure ShowsLine (error : SyntaxError) (source : Text) (width : Nat)
    (line marks : Text) : Prop where
  fits : (Text.ofNat error.position.line).length ≤ width
  rendered : ∃ help, error.render .plain source =
    error.heading ++
      ((rows width error.position.line line marks).flatMap (· ++ ['\n']) ++
        help)
  unbroken : ∀ row ∈ rows width error.position.line line marks, '\n' ∉ row
  aligned : ∀ row ∈ rows width error.position.line line marks,
      row.idxOf '|' = width + 1

theorem snippet_plain (number : Nat) (line : Text) :
    snippet .plain number line =
      (rows (max 2 (Text.ofNat number).length) number line
        (List.replicate (indent line) ' ' ++
          List.replicate (max 1 (Text.trim line).length) '^')).flatMap
            (· ++ ['\n']) := by
  simp [snippet, rows, Style.wrap, Style.plain]

theorem exists_render_eq (error : SyntaxError) (source : Text) :
    ∃ help, error.render .plain source =
      error.heading ++ ((snippet? .plain source error).getD [] ++ help) := by
  unfold render heading
  cases error.help with
  | none => exact ⟨['\n'], by simp [Style.wrap, Style.plain]⟩
  | some help =>
      exact ⟨'\n' :: helpLines .plain help ++ ['\n'],
        by simp [Style.wrap, Style.plain]⟩

theorem notMem_ofNat {number : Nat} {c : Char} (hc : c.isDigit = false) :
    c ∉ Text.ofNat number := by
  intro hmem
  rw [Nat.isDigit_of_mem_toDigits (by decide) (by decide) hmem] at hc
  cases hc

theorem idxOf_bar {gutter : Text} (hgutter : '|' ∉ gutter) (rest : Text) :
    (gutter ++ ' ' :: '|' :: rest).idxOf '|' = gutter.length + 1 := by
  rw [List.idxOf_append_of_notMem hgutter]
  rfl

theorem rows_unbroken {width number : Nat} {line marks : Text}
    (hline : '\n' ∉ line) (hmarks : '\n' ∉ marks) :
    ∀ row ∈ rows width number line marks, '\n' ∉ row := by
  simp [rows, hline, hmarks, List.leftpad, notMem_ofNat]

theorem rows_aligned {width number : Nat}
    (hfits : (Text.ofNat number).length ≤ width) (line marks : Text) :
    ∀ row ∈ rows width number line marks, row.idxOf '|' = width + 1 := by
  have hblank : '|' ∉ List.replicate width ' ' := by simp
  have hnumber : '|' ∉ (Text.ofNat number).leftpad width ' ' := by
    simp [List.leftpad, notMem_ofNat]
  have hwidth : ((Text.ofNat number).leftpad width ' ').length = width := by
    rw [List.length_leftpad, Nat.max_eq_left hfits]
  simp only [rows, List.forall_mem_cons, List.append_assoc, List.cons_append,
    List.nil_append]
  refine ⟨?_, ?_, ?_, by simp⟩
  · rw [idxOf_bar hblank, List.length_replicate]
  · rw [idxOf_bar hnumber, hwidth]
  · rw [idxOf_bar hblank, List.length_replicate]

theorem showsLine_of_lines {error : SyntaxError} {source line : Text}
    {number : Nat} (hnumber : error.position.line = number + 1)
    (hline : source.lines[number]? = some line) :
    ∃ width, error.ShowsLine source width line
      (List.replicate (indent line) ' ' ++
        List.replicate (max 1 (Text.trim line).length) '^') := by
  obtain ⟨help, hrender⟩ := exists_render_eq error source
  have hunbroken :=
    Text.newline_notMem_of_mem_lines (List.mem_of_getElem? hline)
  have hfits : (Text.ofNat error.position.line).length ≤
      max 2 (Text.ofNat error.position.line).length := Nat.le_max_right ..
  have hsnippet : snippet? .plain source error =
      some (snippet .plain error.position.line line) := by
    simp only [snippet?, hnumber, hline, Option.map_some]
  refine ⟨max 2 (Text.ofNat error.position.line).length, hfits, ⟨help, ?_⟩,
    rows_unbroken hunbroken (by simp), rows_aligned hfits _ _⟩
  rw [hrender, hsnippet, Option.getD_some, snippet_plain]

/-! ## The shown line is the line of the tag -/

theorem exists_isLine_of_mark (before : Text) {after : Text}
    (hmark : Tag.mark <+: after) :
    ∃ above left right below, before = above ++ left ∧
      after = ['<', '%'] ++ right ++ below ∧
      Text.IsLine above (left ++ ['<', '%'] ++ right) below := by
  obtain ⟨inner, rfl⟩ := hmark
  obtain ⟨above, left, rfl, hstarts, hleft⟩ := Text.exists_lineStart before
  obtain ⟨right, below, rfl, hright, hends⟩ := Text.exists_lineEnd inner
  refine ⟨above, left, right, below, rfl, (List.append_assoc ..).symm,
    hstarts, ?_, ?_⟩
  · simp [hleft, hright]
  · cases hends with
    | finished => exact .finished
    | returnNewline rest => exact .returnNewline rest
    | newline hreturn rest =>
        refine .newline ?_ rest
        -- The line ends as its last part does, or else with the mark.
        cases right with
        | nil => simp
        | cons c right => simpa using hreturn

/-- A rendered error shows the line of the failing tag.  What stands before
the tag scans without an error, and the tag is a bad one.  The snippet shows
the whole line around the mark of the tag, under the number that the error
gives. -/
theorem render_shows_failing_tag {options : Options} {path : Bytes}
    {source : Text} {error : CompileError}
    (hparse : parse options path source = .error error) :
    ∃ (cause : SyntaxError) (above left right below : Text),
      error = .malformed cause ∧
      source = above ++ (left ++ ['<', '%'] ++ right) ++ below ∧
      (∃ (blocks : List Block) (fault : Position → SyntaxError),
        (Cursor.start (Utf8.decodeLossy path) options.typesafe
            (above ++ left)).results =
          some (blocks.map .ok) ∧
        Segment.Bad (['<', '%'] ++ right ++ below) fault ∧
        cause = fault ⟨Utf8.decodeLossy path, 1 + above.newlines⟩) ∧
      Text.IsLine above (left ++ ['<', '%'] ++ right) below ∧
      cause.position.line = 1 + above.newlines ∧
      ∃ width marks,
        cause.ShowsLine source width (left ++ ['<', '%'] ++ right) marks := by
  obtain ⟨segments, blocks, rest, hrun, hplaced, rfl | ⟨fault, hbad⟩⟩ :=
    exists_run (Utf8.decodeLossy path) options.typesafe 1 source
  · rw [parse_of_run hrun hplaced] at hparse
    cases hparse
  · obtain ⟨above, left, right, below, hbefore, rfl, hline⟩ :=
      exists_isLine_of_mark (Segment.spell segments) hbad.mark_starts
    have hscan :=
      Cursor.results_start_eq_iff.mpr ⟨segments, hrun.without_left, hplaced⟩
    have hsource :
        source = above ++ (left ++ ['<', '%'] ++ right) ++ below := by
      rw [hrun.eq_spell_append, hbefore]
      simp
    have hnewlines : (Segment.spell segments).newlines = above.newlines := by
      have hleft : '\n' ∉ left := fun hmem => hline.unbroken (by simp [hmem])
      rw [hbefore, Text.newlines_append]
      exact congrArg (above.newlines + ·)
        (List.count_eq_zero_of_not_mem hleft)
    rw [parse_of_run_bad hrun hplaced hbad, hnewlines] at hparse
    rw [hbefore] at hscan
    cases hparse
    have hposition :=
      hbad.position_eq ⟨Utf8.decodeLossy path, 1 + above.newlines⟩
    have hnumber := congrArg Position.line hposition
    refine ⟨_, above, left, right, below, rfl, hsource,
      ⟨blocks, fault, hscan, hbad, rfl⟩, hline, hnumber, ?_⟩
    have hshown := hline.getElem?_lines (by simp)
    rw [← hsource] at hshown
    obtain ⟨width, hshows⟩ :=
      showsLine_of_lines (hnumber.trans (Nat.add_comm ..)) hshown
    exact ⟨width, _, hshows⟩

theorem render_shows_failing_tag_before_return :
    parse {} [116] ['a', '\r', '\n', ' ', '<', '%', '\r', '\n'] =
      .error (.malformed (.truncatedTag ⟨['t'], 2⟩)) ∧
    ∃ width marks,
      (truncatedTag ⟨['t'], 2⟩).ShowsLine
        ['a', '\r', '\n', ' ', '<', '%', '\r', '\n'] width
        [' ', '<', '%'] marks := by
  have hunclosed :
      Segment.Bad ['<', '%', '\r', '\n'] SyntaxError.truncatedTag :=
    .unclosed ⟨.code, ['\r', '\n'], rfl, by simp [Tag.Admits], by decide⟩
  have hparse : parse {} [116] ['a', '\r', '\n', ' ', '<', '%', '\r', '\n'] =
      .error (.malformed (.truncatedTag ⟨['t'], 2⟩)) :=
    parse_of_run_bad
      ((@Segment.run_spell_of_wellFormed [.text ['a', '\r', '\n', ' ']]
        (by decide) (by decide)).append_mark hunclosed.mark_starts)
      (.cons (.text _) (.nil _)) hunclosed
  obtain ⟨cause, above, left, right, below, hcause, hsource, -, hisLine,
    hnumber, width, marks, hshows⟩ := render_shows_failing_tag hparse
  cases hcause
  have habove : above.newlines = 1 := by
    have hlines : 2 = 1 + above.newlines := hnumber
    omega
  have hline := hisLine.getElem?_lines (by simp)
  rw [← hsource, habove] at hline
  have hshown : [' ', '<', '%'] = left ++ ['<', '%'] ++ right :=
    Option.some.inj hline
  rw [← hshown] at hshows
  exact ⟨hparse, width, marks, hshows⟩

/-! ## Marks -/

/-- The text of a line and the white space before and behind it. -/
structure Framed (lead visible trail : Text) : Prop where
  lead_space : ∀ c ∈ lead, Text.isSpace c = true
  trail_space : ∀ c ∈ trail, Text.isSpace c = true
  first_visible : ∃ c ∈ visible.head?, Text.isSpace c = false
  last_visible : ∃ c ∈ visible.getLast?, Text.isSpace c = false

theorem trim_ne_nil {line : Text} {c : Char} (hc : c ∈ line)
    (hspace : Text.isSpace c = false) : Text.trim line ≠ [] := by
  intro hnil
  rw [Text.trim_eq_nil_iff.mp hnil c hc] at hspace
  cases hspace

theorem exists_framed {line : Text}
    (hvisible : ∃ c ∈ line, Text.isSpace c = false) :
    ∃ trail, line = line.takeWhile Text.isSpace ++ Text.trim line ++ trail ∧
      Framed (line.takeWhile Text.isSpace) (Text.trim line) trail := by
  obtain ⟨c, hc, hspace⟩ := hvisible
  have hne := trim_ne_nil hc hspace
  have htrim :
      Text.trim line ++ (Text.trimStart line).rtakeWhile Text.isSpace =
      Text.trimStart line := List.rdropWhile_append_rtakeWhile ..
  refine ⟨(Text.trimStart line).rtakeWhile Text.isSpace, ?_,
    fun _ => List.mem_takeWhile_imp, fun _ => List.mem_rtakeWhile_imp, ?_, ?_⟩
  · rw [List.append_assoc, htrim]
    exact List.takeWhile_append_dropWhile.symm
  · obtain ⟨first, others, hfirst⟩ := List.exists_cons_of_ne_nil hne
    have hnot :=
      List.head_dropWhile_not Text.isSpace
        (List.ne_nil_of_mem (Text.mem_trimStart hc hspace))
    rw [hfirst, List.cons_append] at htrim
    have hstart : line.dropWhile Text.isSpace = _ := htrim.symm
    refine ⟨first, by rw [hfirst]; rfl, ?_⟩
    simpa only [hstart, List.head_cons] using hnot
  · have hnot :=
      List.rdropWhile_last_not Text.isSpace (Text.trimStart line) hne
    exact ⟨_, List.getLast?_eq_some_getLast hne, Bool.eq_false_iff.mpr hnot⟩

theorem flatMap_rows (width number : Nat) (line marks help : Text) :
    (rows width number line marks).flatMap (· ++ ['\n']) ++ help =
      (List.replicate width ' ' ++ [' ', '|']) ++ '\n' ::
        ((Text.ofNat number).leftpad width ' ' ++ [' ', '|', ' '] ++ line ++
          '\n' :: (List.replicate width ' ' ++ [' ', '|', ' '] ++ marks ++
            '\n' :: help)) := by
  simp [rows]

theorem ShowsLine.marks_unique {error : SyntaxError}
    {source line marks others : Text} {width other : Nat}
    (hshows : error.ShowsLine source width line marks)
    (hother : error.ShowsLine source other line others) : marks = others := by
  obtain ⟨help, hrender⟩ := hshows.rendered
  obtain ⟨more, hagain⟩ := hother.rendered
  have hunbroken := hshows.unbroken
  have hotherUnbroken := hother.unbroken
  simp only [rows, List.forall_mem_cons] at hunbroken hotherUnbroken
  rw [hrender, flatMap_rows, flatMap_rows] at hagain
  -- A row ends at its first newline, so the rows are found one after another.
  obtain ⟨htop, hbelow⟩ :=
    Text.append_newline_inj hunbroken.1 hotherUnbroken.1
      (List.append_cancel_left hagain)
  have hwidth : width = other := by
    simpa using congrArg List.length htop
  subst hwidth
  obtain ⟨-, hbottom⟩ :=
    Text.append_newline_inj hunbroken.2.1 hotherUnbroken.2.1 hbelow
  obtain ⟨hrow, -⟩ :=
    Text.append_newline_inj hunbroken.2.2.1 hotherUnbroken.2.2.1 hbottom
  exact List.append_cancel_left hrow

/-- Where the marks under a line stand.  Their width is that of the line's
text in characters, and the blank before them is as wide as the white space
before that text has bytes.  So they stand under the text exactly if this
white space is ASCII. -/
theorem render_underlines_iff {error : SyntaxError} {source line : Text}
    {number : Nat} (hnumber : error.position.line = number + 1)
    (hline : source.lines[number]? = some line)
    (hvisible : ∃ c ∈ line, Text.isSpace c = false) :
    ∃ lead visible trail, line = lead ++ visible ++ trail ∧
      Framed lead visible trail ∧
      (∃ width, error.ShowsLine source width line
        (List.replicate (Utf8.encode lead).length ' ' ++
          List.replicate visible.length '^')) ∧
      ((∃ width, error.ShowsLine source width line
          (List.replicate lead.length ' ' ++
            List.replicate visible.length '^')) ↔
        ∀ c ∈ lead, c.toNat < 128) := by
  obtain ⟨trail, hparts, hframed⟩ := exists_framed hvisible
  obtain ⟨width, hshows⟩ := showsLine_of_lines hnumber hline
  have hwidth : max 1 (Text.trim line).length = (Text.trim line).length := by
    obtain ⟨c, hc, -⟩ := hframed.first_visible
    exact Nat.max_eq_right (List.length_pos_of_mem (List.mem_of_mem_head? hc))
  rw [hwidth] at hshows
  refine ⟨_, _, trail, hparts, hframed, ⟨width, hshows⟩, ?_⟩
  rw [← Utf8.length_encode_eq_iff]
  constructor
  · rintro ⟨other, hother⟩
    have hmarks := List.append_cancel_right (hshows.marks_unique hother)
    simpa [indent] using hmarks
  · intro hlength
    rw [← hlength]
    exact ⟨width, hshows⟩

theorem render_underlines_iff_behind_tab :
    ∃ lead visible trail, ['\t', 'é', '<', '%'] = lead ++ visible ++ trail ∧
      Framed lead visible trail ∧
      ∃ width, (truncatedTag ⟨['t'], 1⟩).ShowsLine ['\t', 'é', '<', '%'] width
        ['\t', 'é', '<', '%']
        (List.replicate lead.length ' ' ++
          List.replicate visible.length '^') := by
  have hline : Text.lines ['\t', 'é', '<', '%'] = [['\t', 'é', '<', '%']] :=
    rfl
  have hspaces : ∀ c ∈ ['\t', 'é', '<', '%'], Text.isSpace c = true →
      c.toNat < 128 := by
    intro c hc hspace
    simp only [List.mem_cons, List.not_mem_nil, or_false] at hc
    rcases hc with rfl | rfl | rfl | rfl <;> revert hspace <;> decide
  obtain ⟨lead, visible, trail, hparts, hframed, -, hiff⟩ :=
    @render_underlines_iff (truncatedTag ⟨['t'], 1⟩) ['\t', 'é', '<', '%']
      ['\t', 'é', '<', '%'] 0 rfl (by rw [hline]; rfl) ⟨'<', by simp, rfl⟩
  refine ⟨lead, visible, trail, hparts, hframed, hiff.mpr ?_⟩
  intro c hc
  apply hspaces c
  · rw [hparts]
    simp [hc]
  · exact hframed.lead_space c hc

/-- A no-break space is one character of two bytes, and the marks behind it
stand one column too far to the right. -/
theorem render_misplaces_marks_behind_wide_space :
    Text.lines ['\xa0', '<', '%'] = [['\xa0', '<', '%']] ∧
    Framed ['\xa0'] ['<', '%'] [] ∧
    (∃ width,
      (truncatedTag ⟨['t'], 1⟩).ShowsLine ['\xa0', '<', '%'] width
        ['\xa0', '<', '%'] [' ', ' ', '^', '^']) ∧
    ¬ ∃ width, (truncatedTag ⟨['t'], 1⟩).ShowsLine ['\xa0', '<', '%'] width
      ['\xa0', '<', '%'] [' ', '^', '^'] := by
  have hline : Text.lines ['\xa0', '<', '%'] = [['\xa0', '<', '%']] := rfl
  have hshows : ∃ width,
      (truncatedTag ⟨['t'], 1⟩).ShowsLine ['\xa0', '<', '%'] width
        ['\xa0', '<', '%'] [' ', ' ', '^', '^'] :=
    @showsLine_of_lines _ _ _ 0 rfl (by rw [hline]; rfl)
  have hframed : Framed ['\xa0'] ['<', '%'] [] :=
    ⟨List.all_eq_true.mp rfl, List.all_eq_true.mp rfl, ⟨'<', rfl, rfl⟩,
      ⟨'%', rfl, rfl⟩⟩
  refine ⟨hline, hframed, hshows, ?_⟩
  rintro ⟨other, hother⟩
  obtain ⟨width, hshows⟩ := hshows
  exact absurd (hshows.marks_unique hother) (by decide)

end SyntaxError
end Stencil
