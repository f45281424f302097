import Mathlib.Data.List.DropRight
import Mathlib.Data.List.Induction
import Stencil.Text.Lines

/-!
# Lines in context

Where a list is followed by another one, the pieces of the two stay as they
are, except at the seam: the last piece of the first list and the first piece
of the second one become a single piece.  Everything about the place of a line
in a larger text is read off from this equation.

The lines of a text that stands between two others are found from the line
that the text starts on.  Only the first of them has something before it on
its line, and only the last has something after it.

Around every place of a text there is a whole line without its line end, and
the number of newlines before that line is its index among the lines of the
text.
-/

namespace Stencil

section Pieces

variable {α : Type} (isSeparator : α → Bool)

theorem splitWhere_eq_cons (list : List α) :
    splitWhere isSeparator list =
      list.takeWhile (fun a => !isSeparator a) ::
        (splitWhere isSeparator list).tail := by
  induction list with
  | nil => rfl
  | cons a list ih =>
      by_cases ha : isSeparator a
      · simp [splitWhere, ha]
      · rw [splitWhere, if_neg ha, ih]
        simp [ha]

theorem tail_splitWhere_cons (a : α) (list : List α) :
    (splitWhere isSeparator (a :: list)).tail =
      if isSeparator a then splitWhere isSeparator list
      else (splitWhere isSeparator list).tail := by
  by_cases ha : isSeparator a
  · simp [splitWhere, ha]
  · rw [splitWhere, if_neg ha, if_neg ha, splitWhere_eq_cons]
    rfl

/-- The pieces of two lists meet in one piece.  The induction is on the last
element of the first list, which moves over to the second one. -/
theorem splitWhere_append (list next : List α) :
    splitWhere isSeparator (list ++ next) =
      (splitWhere isSeparator list).dropLast ++
        (list.rtakeWhile (fun a => !isSeparator a) ++
          next.takeWhile (fun a => !isSeparator a)) ::
        (splitWhere isSeparator next).tail := by
  induction list using List.reverseRecOn generalizing next with
  | nil => simpa [splitWhere] using splitWhere_eq_cons isSeparator next
  | append_singleton list a ih =>
      have hlonger := ih (a :: next)
      have hlist := ih [a]
      rw [tail_splitWhere_cons, List.takeWhile_cons] at hlonger hlist
      rw [List.append_assoc, List.singleton_append, hlonger, hlist,
        List.rtakeWhile_concat]
      by_cases ha : isSeparator a
      · have hnext := splitWhere_eq_cons isSeparator next
        simp only [ha, Bool.not_true, Bool.false_eq_true, if_false, if_true,
          List.append_nil, List.nil_append, splitWhere]
        rw [List.dropLast_append_of_ne_nil (by simp), ← hnext]
        simp
      · simp [ha, splitWhere]

theorem length_dropLast_splitWhere (list : List α) :
    (splitWhere isSeparator list).dropLast.length =
      list.countP isSeparator := by
  rw [List.length_dropLast, length_splitWhere, Nat.add_sub_cancel]

theorem getElem?_splitWhere_append_right (list next : List α) (index : Nat) :
    (splitWhere isSeparator (list ++ next))[list.countP isSeparator +
      index]? =
      (splitWhere isSeparator next)[index]?.map fun piece =>
        (if index = 0 then list.rtakeWhile (fun a => !isSeparator a)
          else []) ++ piece := by
  rw [splitWhere_append,
    List.getElem?_append_right (by simp [length_splitWhere]),
    length_dropLast_splitWhere, Nat.add_sub_cancel_left,
    splitWhere_eq_cons isSeparator next]
  cases index with
  | zero => simp
  | succ index => simp

theorem getElem?_splitWhere_append_left (list next : List α) {index : Nat}
    (hindex : index ≤ list.countP isSeparator) :
    (splitWhere isSeparator (list ++ next))[index]? =
      (splitWhere isSeparator list)[index]?.map fun piece =>
        piece ++ if index = list.countP isSeparator then
          next.takeWhile (fun a => !isSeparator a) else [] := by
  rcases Nat.lt_or_eq_of_le hindex with hlt | rfl
  · have hdropped :
        index < (splitWhere isSeparator list).dropLast.length := by
      rwa [length_dropLast_splitWhere]
    rw [splitWhere_append, List.getElem?_append_left hdropped,
      List.getElem?_dropLast, if_pos]
    · simp [Nat.ne_of_lt hlt]
    · rwa [← List.length_dropLast]
  · have hseam := getElem?_splitWhere_append_right isSeparator list next 0
    have hlast := getElem?_splitWhere_append_right isSeparator list [] 0
    rw [splitWhere_eq_cons isSeparator next] at hseam
    rw [List.append_nil] at hlast
    simp only [Nat.add_zero, if_true] at hseam hlast ⊢
    rw [hseam, hlast]
    simp [splitWhere]

variable {isSeparator}

theorem splitWhere_append_separator {a : α} (ha : isSeparator a = true)
    (list next : List α) :
    splitWhere isSeparator (list ++ a :: next) =
      splitWhere isSeparator list ++ splitWhere isSeparator next := by
  induction list with
  | nil => simp [splitWhere, ha]
  | cons b list ih =>
      by_cases hb : isSeparator b = true
      · simp [splitWhere, hb, ih]
      · rw [List.cons_append, splitWhere, if_neg hb, ih,
          splitWhere, if_neg hb, splitWhere_eq_cons isSeparator list]
        rfl

/-- What has no separators goes on in the last piece. -/
theorem splitWhere_append_piece {list next piece : List α}
    {before : List (List α)}
    (hlist : splitWhere isSeparator list = before ++ [piece])
    (hnext : ∀ a ∈ next, isSeparator a = false) :
    splitWhere isSeparator (list ++ next) = before ++ [piece ++ next] := by
  have htake : next.takeWhile (fun a => !isSeparator a) = next := by
    simpa using hnext
  have htail : (splitWhere isSeparator next).tail = [] := by
    have hlength := length_splitWhere isSeparator next
    rw [List.countP_eq_zero.mpr (by simpa using hnext)] at hlength
    exact List.eq_nil_of_length_eq_zero (by simp [hlength])
  have hlast := splitWhere_append isSeparator list []
  rw [List.append_nil, hlist] at hlast
  rw [splitWhere_append, htake, htail, hlist]
  simp only [List.dropLast_concat, List.takeWhile_nil,
    List.append_nil, splitWhere, List.tail_cons] at hlast ⊢
  have hpiece := List.append_cancel_left hlast
  rw [List.singleton_inj.mp hpiece]

theorem splitWhere_eq_singleton {list : List α}
    (hlist : ∀ a ∈ list, isSeparator a = false) :
    splitWhere isSeparator list = [list] :=
  @splitWhere_append_piece _ isSeparator [] list [] [] rfl hlist

theorem splitWhere_of_notMem [DecidableEq α] {separator : α} {list : List α}
    (hlist : separator ∉ list) :
    splitWhere (· = separator) list = [list] := by
  apply splitWhere_eq_singleton
  intro a ha
  simpa using ne_of_mem_of_not_mem ha hlist

theorem isSeparator_of_mem_splitWhere {list piece : List α}
    (hpiece : piece ∈ splitWhere isSeparator list) : ∀ a ∈ piece,
    isSeparator a = false := by
  induction list generalizing piece with
  | nil =>
      rw [splitWhere, List.mem_singleton] at hpiece
      simp [hpiece]
  | cons b list ih =>
      by_cases hb : isSeparator b = true
      · rw [splitWhere, if_pos hb, List.mem_cons] at hpiece
        rcases hpiece with rfl | hlater
        · simp
        · exact ih hlater
      · rw [splitWhere, if_neg hb] at hpiece
        rw [splitWhere_eq_cons] at ih hpiece
        rcases List.mem_cons.mp hpiece with rfl | hlater
        · have hfirst := ih List.mem_cons_self
          simpa [hb] using hfirst
        · exact ih (List.mem_cons_of_mem _ hlater)

theorem mem_of_mem_splitWhere {list piece : List α}
    (hpiece : piece ∈ splitWhere isSeparator list) : piece ⊆ list := by
  induction list generalizing piece with
  | nil =>
      rw [splitWhere, List.mem_singleton] at hpiece
      simp [hpiece]
  | cons b list ih =>
      by_cases hb : isSeparator b = true
      · rw [splitWhere, if_pos hb, List.mem_cons] at hpiece
        rcases hpiece with rfl | hlater
        · simp
        · exact List.subset_cons_of_subset b (ih hlater)
      · rw [splitWhere, if_neg hb] at hpiece
        rw [splitWhere_eq_cons] at ih hpiece
        rcases List.mem_cons.mp hpiece with rfl | hlater
        · exact List.cons_subset_cons b (ih List.mem_cons_self)
        · exact List.subset_cons_of_subset b
            (ih (List.mem_cons_of_mem _ hlater))

theorem exists_splitWhere_eq_concat (list : List α) :
    ∃ before piece, splitWhere isSeparator list = before ++ [piece] := by
  have hcons := splitWhere_eq_cons isSeparator list
  rcases List.eq_nil_or_concat (splitWhere isSeparator list) with
    hnil | ⟨before, piece, h⟩
  · rw [hnil] at hcons
    cases hcons
  · exact ⟨before, piece, by simpa using h⟩

end Pieces

namespace Text

/-- A line of a text, counted from one.  A text with `n` newlines has `n + 1`
lines. -/
def line? (text : Text) : Nat → Option Text
  | 0 => none
  | number + 1 => (splitWhere (· == '\n') text)[number]?

/-- What stands before the first newline. -/
def firstLine (text : Text) : Text :=
  text.takeWhile (· != '\n')

/-- What stands after the last newline. -/
def lastLine (text : Text) : Text :=
  text.rtakeWhile (· != '\n')

theorem firstLine_newline (text : Text) : firstLine ('\n' :: text) = [] := rfl

theorem firstLine_append_newline {line : Text} (hline : '\n' ∉ line)
    (rest : Text) :
    firstLine (line ++ '\n' :: rest) = line := by
  have hall : ∀ c ∈ line, (c != '\n') = true := by
    intro c hc
    simpa using fun heq : c = '\n' => hline (heq ▸ hc)
  rw [firstLine, List.takeWhile_append_of_pos hall]
  simp

/-- A text can be cut in only one way at its first newline. -/
theorem append_newline_inj {line other rest more : Text} (hline : '\n' ∉ line)
    (hother : '\n' ∉ other)
    (heq : line ++ '\n' :: rest = other ++ '\n' :: more) :
    line = other ∧ rest = more := by
  have hfirst := congrArg firstLine heq
  rw [firstLine_append_newline hline,
    firstLine_append_newline hother] at hfirst
  subst hfirst
  exact ⟨rfl, List.cons.inj (List.append_cancel_left heq) |>.2⟩

theorem lastLine_eq_nil {text : Text} (hlast : text.getLast? = some '\n') :
    text.lastLine = [] := by
  rw [lastLine, List.rtakeWhile_eq_nil_iff]
  intro hne
  rw [List.getLast?_eq_some_getLast hne, Option.some.injEq] at hlast
  simp [hlast]

theorem line?_between {content : Text} {offset : Nat} {line : Text}
    (hline : (splitWhere (· == '\n') content)[offset]? = some line)
    (before after : Text) :
    line? (before ++ content ++ after) (1 + before.newlines + offset) =
      some ((if offset = 0 then before.lastLine else []) ++
        (line ++ if offset = content.newlines then after.firstLine
          else [])) := by
  have hoffset : offset ≤ content.newlines := by
    have hlength := length_splitWhere (· == '\n') content
    have hlt := (List.getElem?_eq_some_iff.mp hline).1
    rw [hlength] at hlt
    exact Nat.le_of_lt_succ hlt
  have hnumber :
      1 + before.newlines + offset = before.newlines + offset + 1 := by omega
  have hright :=
    getElem?_splitWhere_append_right (· == '\n') before
      (content ++ after) offset
  have hleft :=
    getElem?_splitWhere_append_left (· == '\n') content after hoffset
  rw [hleft, hline] at hright
  rw [hnumber, List.append_assoc]
  exact hright

/-! ## Whole lines -/

/-- The text is empty or ends with a newline. -/
def WholeLines (text : Text) : Prop :=
  text = [] ∨ text.getLast? = some '\n'

theorem getLast?_append_wholeLines {text lines : Text}
    (htext : text.getLast? = some '\n') (hlines : lines.WholeLines) :
    (text ++ lines).getLast? = some '\n' := by
  rcases hlines with rfl | hlast
  · simpa using htext
  · simp [List.getLast?_append, hlast]

theorem WholeLines.append {text lines : Text} (htext : text.WholeLines)
    (hlines : lines.WholeLines) : WholeLines (text ++ lines) := by
  rcases htext with rfl | hlast
  · exact hlines
  · exact .inr (getLast?_append_wholeLines hlast hlines)

theorem newlines_le_length_lines (text : Text) :
    text.newlines ≤ text.lines.length := by
  have hlength := length_splitWhere (· == '\n') text
  unfold lines
  split
  · rename_i hnil
    rw [List.reverse_eq_nil_iff.mp hnil] at hlength
    cases hlength
  · rename_i last ended hpieces
    have hended : ended.length + 1 = text.newlines + 1 := by
      rw [← List.length_cons (a := last), ← hpieces,
        List.length_reverse, hlength]
      rfl
    rw [List.length_append, List.length_reverse, List.length_map]
    omega

/-! ## Lines without their ends -/

/-- What follows a line: nothing, or a newline and more.  A carriage return
right before the newline belongs to the line end. -/
inductive LineEnd (line : Text) : Text → Prop
  | finished : LineEnd line []
  | newline (hreturn : line.getLast? ≠ some '\r') (rest : Text) :
      LineEnd line ('\n' :: rest)
  | returnNewline (rest : Text) : LineEnd line ('\r' :: '\n' :: rest)

/-- Between the two other texts, the line is a whole one. -/
structure IsLine (above line below : Text) : Prop where
  starts : above.WholeLines
  unbroken : '\n' ∉ line
  ends : LineEnd line below

theorem exists_lineStart (text : Text) :
    ∃ above left, text = above ++ left ∧ above.WholeLines ∧ '\n' ∉ left := by
  refine ⟨text.rdropWhile (· != '\n'), text.rtakeWhile (· != '\n'),
    (List.rdropWhile_append_rtakeWhile ..).symm, ?_, ?_⟩
  · by_cases hnil : text.rdropWhile (· != '\n') = []
    · exact .inl hnil
    · have hlast := List.rdropWhile_last_not _ _ hnil
      right
      rw [List.getLast?_eq_some_getLast hnil]
      simpa using hlast
  · intro hmem
    simpa using List.mem_rtakeWhile_imp hmem

theorem exists_lineEnd (text : Text) :
    ∃ line below, text = line ++ below ∧ '\n' ∉ line ∧
      LineEnd line below := by
  have hsplit :=
    List.takeWhile_append_dropWhile (p := (· != '\n')) (l := text)
  have hunbroken : '\n' ∉ text.takeWhile (· != '\n') := by
    intro hmem
    simpa using List.mem_takeWhile_imp hmem
  cases hdropped : text.dropWhile (· != '\n') with
  | nil =>
      rw [hdropped, List.append_nil] at hsplit
      rw [hsplit] at hunbroken
      exact ⟨text, [], by simp, hunbroken, .finished⟩
  | cons c rest =>
      have hc : c = '\n' := by
        have hne : text.dropWhile (· != '\n') ≠ [] := by simp [hdropped]
        have hhead := List.head_dropWhile_not _ hne
        simpa [hdropped] using hhead
      rw [hdropped, hc] at hsplit
      by_cases hreturn : (text.takeWhile (· != '\n')).getLast? = some '\r'
      · obtain ⟨line, hline⟩ := List.getLast?_eq_some_iff.mp hreturn
        rw [hline] at hsplit hunbroken
        refine ⟨line, '\r' :: '\n' :: rest, by simpa using hsplit.symm, ?_,
          .returnNewline rest⟩
        simpa using hunbroken
      · exact ⟨_, _, hsplit.symm, hunbroken, .newline hreturn rest⟩

theorem lines_of_pieces {text last : Text} {ended : List Text}
    (hpieces : splitWhere (· == '\n') text = ended ++ [last]) :
    text.lines = ended.map dropReturn ++ if last = [] then
      [] else [last] := by
  simp [lines, hpieces]

theorem exists_piece_of_mem_lines {text line : Text}
    (hline : line ∈ text.lines) :
    ∃ piece ∈ splitWhere (· == '\n') text, line ⊆ piece := by
  obtain ⟨ended, last, hpieces⟩ :=
    @exists_splitWhere_eq_concat _ (· == '\n') text
  rw [lines_of_pieces hpieces, List.mem_append] at hline
  rw [hpieces]
  rcases hline with hended | hlast
  · obtain ⟨piece, hmem, rfl⟩ := List.mem_map.mp hended
    refine ⟨piece, List.mem_append_left _ hmem, ?_⟩
    unfold dropReturn
    split
    · exact List.dropLast_subset piece
    · exact List.Subset.refl piece
  · split at hlast
    · cases hlast
    · exact ⟨line, List.mem_append_right _ hlast, List.Subset.refl line⟩

theorem newline_notMem_of_mem_lines {text line : Text}
    (hline : line ∈ text.lines) :
    '\n' ∉ line := by
  obtain ⟨piece, hpiece, hsubset⟩ := exists_piece_of_mem_lines hline
  intro hnewline
  simpa using isSeparator_of_mem_splitWhere hpiece _ (hsubset hnewline)

theorem subset_of_mem_lines {text line : Text} (hline : line ∈ text.lines) :
    line ⊆ text := by
  obtain ⟨piece, hpiece, hsubset⟩ := exists_piece_of_mem_lines hline
  exact List.Subset.trans hsubset (mem_of_mem_splitWhere hpiece)

theorem splitWhere_wholeLines_append {above : Text}
    (hstarts : above.WholeLines) (text : Text) :
    splitWhere (· == '\n') (above ++ text) =
      (splitWhere (· == '\n') above).dropLast ++
        splitWhere (· == '\n') text := by
  have hlast : above.rtakeWhile (fun c => !(c == '\n')) = [] := by
    rcases hstarts with rfl | hlast
    · rfl
    · exact lastLine_eq_nil hlast
  rw [splitWhere_append, hlast, List.nil_append, ← splitWhere_eq_cons]

theorem splitWhere_of_unbroken {line : Text} (hline : '\n' ∉ line) :
    splitWhere (· == '\n') line = [line] :=
  splitWhere_of_notMem hline

theorem getElem?_lines_of_newline {above piece : Text}
    (hstarts : above.WholeLines) (hpiece : '\n' ∉ piece) (rest : Text) :
    (above ++ (piece ++ '\n' :: rest)).lines[above.newlines]? =
      some (dropReturn piece) := by
  have hcount : above.newlines = _ :=
    (length_dropLast_splitWhere (· == '\n') above).symm
  obtain ⟨ended, last, hrest⟩ :=
    @exists_splitWhere_eq_concat _ (· == '\n') rest
  have hpieces : splitWhere (· == '\n') (above ++ (piece ++ '\n' :: rest)) =
      ((splitWhere (· == '\n') above).dropLast ++ piece :: ended) ++
        [last] := by
    rw [splitWhere_wholeLines_append hstarts, splitWhere_append_separator rfl,
      splitWhere_of_unbroken hpiece, hrest]
    simp
  rw [lines_of_pieces hpieces, hcount, List.map_append, List.append_assoc,
    List.getElem?_append_right (by simp)]
  simp

theorem getElem?_lines_last {above line : Text} (hstarts : above.WholeLines)
    (hline : '\n' ∉ line) (hne : line ≠ []) :
    (above ++ line).lines[above.newlines]? = some line := by
  have hcount : above.newlines = _ :=
    (length_dropLast_splitWhere (· == '\n') above).symm
  have hpieces : splitWhere (· == '\n') (above ++ line) =
      (splitWhere (· == '\n') above).dropLast ++ [line] := by
    rw [splitWhere_wholeLines_append hstarts, splitWhere_of_unbroken hline]
  rw [lines_of_pieces hpieces, if_neg hne, hcount,
    List.getElem?_append_right (by simp)]
  simp

/-- The lines of a text are numbered by the newlines before them. -/
theorem IsLine.getElem?_lines {above line below : Text}
    (hline : IsLine above line below) (hne : line ≠ []) :
    (above ++ line ++ below).lines[above.newlines]? = some line := by
  obtain ⟨hstarts, hunbroken, hends⟩ := hline
  cases hends with
  | finished => simpa using getElem?_lines_last hstarts hunbroken hne
  | newline hreturn rest =>
      rw [List.append_assoc, getElem?_lines_of_newline hstarts hunbroken,
        dropReturn, if_neg hreturn]
  | returnNewline rest =>
      have hpiece : '\n' ∉ line ++ ['\r'] := by simpa using hunbroken
      have hdropped := getElem?_lines_of_newline hstarts hpiece rest
      simpa [dropReturn] using hdropped

end Text
end Stencil
