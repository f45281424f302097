import Stencil.Proofs.SegmentMeaning

/-!
# Steps of a cursor

A cursor that has read a part of its source stands behind the bytes of that
part, and its line is one more than the number of newlines in it.  `behind` is
that cursor, written in terms of the two parts of the source.

Every operation takes such a cursor to another one, and none of the slices it
takes is missing: the offsets it computes from the lengths of delimiters and
from searches in the bytes are those between parts of the text.  So what a
cursor reads is what the first segment of the unread text says.
-/

namespace Stencil

namespace Tag

theorem openingBytes_eq : openingBytes = Utf8.encode mark := rfl

theorem closingBytes_eq (kind : Tag) :
    kind.closingBytes = Utf8.encode kind.closer := by
  cases kind <;> rfl

theorem closer_ascii (kind : Tag) : ∀ c ∈ kind.closer, c.toNat < 128 := by
  cases kind <;> simp [closer]

theorem mark_ascii : ∀ c ∈ mark, c.toNat < 128 := by
  simp [mark]

/-- The bytes behind the mark tell the kind as the characters do. -/
theorem ofBytes_encode {body : Text} {byte : UInt8}
    (hbyte : (Utf8.encode body).head? = some byte) :
    ofBytes byte (Utf8.encode body)[1]? =
      ((ofSigil body).1, (Utf8.encode (ofSigil body).1.sigil).length) := by
  have hfirst : ∀ c : Char, c.toNat < 128 →
      (byte = c.toUInt8 ↔ body.head? = some c) := by
    intro c hc
    rw [← Utf8.head?_encode_eq_iff hc, hbyte, Option.some.injEq]
  cases body with
  | nil => cases hbyte
  | cons c body =>
      simp only [List.head?_cons, Option.some.injEq] at hfirst
      simp only [ofBytes, hfirst '%' (by decide), hfirst '!' (by decide),
        hfirst '=' (by decide), hfirst '#' (by decide)]
      split_ifs with hheader hparameter hprint hdouble hcomment
      · subst hheader
        rfl
      · subst hparameter
        rfl
      · subst hprint
        have hnext : body.head? = some '=' := by
          rw [← Utf8.head?_encode_eq_iff (by decide), ← hdouble]
          exact List.head?_eq_getElem?
        cases body with
        | nil => cases hnext
        | cons d body =>
            cases hnext
            rfl
      · subst hprint
        have hnext : print.Admits body := by
          intro hhead
          rw [← Utf8.head?_encode_eq_iff (by decide),
            List.head?_eq_getElem?] at hhead
          exact hdouble hhead
        have hsigil : ofSigil ('=' :: body) = (print, body) :=
          ofSigil_sigil_append hnext
        rw [hsigil]
        rfl
      · subst hcomment
        rfl
      · have hadmits : code.Admits (c :: body) := by
          rintro d hd
          cases hd
          simp [hheader, hparameter, hprint, hcomment]
        have hsigil : ofSigil (c :: body) = (code, c :: body) :=
          ofSigil_sigil_append hadmits
        rw [hsigil]
        rfl

theorem newlines_sigil (kind : Tag) : kind.sigil.newlines = 0 := by
  cases kind <;> rfl

theorem newlines_closer (kind : Tag) : kind.closer.newlines = 0 := by
  cases kind <;> rfl

end Tag

namespace Cursor

/-- The cursor that has read a part of its source. -/
def behind (path : Text) (typesafe stopped : Bool) (passed rest : Text) :
    Cursor where
  path := path
  typesafe := typesafe
  bytes := Utf8.encode (passed ++ rest)
  offset := (Utf8.encode passed).length
  line := 1 + passed.newlines
  stopped := stopped

theorem start_eq_behind (path : Text) (typesafe : Bool) (source : Text) :
    start path typesafe source = behind path typesafe false [] source :=
  rfl

section Moves

variable {path : Text} {typesafe stopped : Bool} {passed : Text}

theorem rest?_behind (rest : Text) :
    (behind path typesafe stopped passed rest).rest? =
      some (Utf8.encode rest) := by
  have hslice :=
    Bytes.slice?_append (Utf8.encode passed) (Utf8.encode rest) []
  rw [List.append_nil, ← List.length_append, ← Utf8.encode_append] at hslice
  exact hslice

theorem peek?_behind (rest : Text) (distance : Nat) :
    (behind path typesafe stopped passed rest).peek? distance =
      (Utf8.encode rest)[distance]? := by
  simp only [peek?, behind, Utf8.encode_append]
  rw [List.getElem?_append_right (Nat.le_add_right _ _),
    Nat.add_sub_cancel_left]

theorem skip_behind {opener : Text} (hlines : opener.newlines = 0)
    (rest : Text) :
    (behind path typesafe stopped passed (opener ++ rest)).skip
        (Utf8.encode opener).length =
      behind path typesafe stopped (passed ++ opener) rest := by
  simp [skip, behind, hlines]

theorem takeTo_behind (content rest : Text) :
    (behind path typesafe stopped passed (content ++ rest)).takeTo
        (Utf8.encode (passed ++ content)).length =
      some (content,
        behind path typesafe stopped (passed ++ content) rest) := by
  have hbytes : (Utf8.encode (passed ++ (content ++ rest))).slice?
      (Utf8.encode passed).length (Utf8.encode (passed ++ content)).length =
        some (Utf8.encode content) := by
    rw [← List.append_assoc, Utf8.encode_append, Utf8.encode_append,
      List.length_append]
    exact Bytes.slice?_append _ _ _
  have htext := Utf8.slice?_encode passed content rest
  rw [List.append_assoc] at htext
  have hlines : (Utf8.encode content).count '\n'.toUInt8 = content.newlines :=
    Utf8.count_newline_encode content
  simp only [takeTo, behind, hbytes, htext, hlines, Option.bind_eq_bind,
    Option.bind_some, Option.pure_def]
  simp [Nat.add_assoc]

theorem takeUntil_behind_of_cut {delimiter rest content left : Text}
    (hne : delimiter ≠ []) (hascii : ∀ c ∈ delimiter, c.toNat < 128)
    (hlines : delimiter.newlines = 0)
    (hcut : Text.cut? delimiter rest = some (content, left)) :
    (behind path typesafe stopped passed rest).takeUntil
      (Utf8.encode delimiter) =
      some (some content,
        behind path typesafe stopped
          (passed ++ content ++ delimiter) left) := by
  have hstop : (behind path typesafe stopped passed rest).offset +
      (Utf8.encode content).length =
        (Utf8.encode (passed ++ content)).length := by
    rw [Utf8.encode_append, List.length_append]
    rfl
  have htake :=
    @takeTo_behind path typesafe stopped passed content (delimiter ++ left)
  rw [← List.append_assoc, ← Text.eq_append_of_cut? hcut] at htake
  simp only [takeUntil, rest?_behind, Utf8.find?_encode hne hascii, hcut,
    Option.map_some, hstop, htake, Option.bind_eq_bind, Option.bind_some,
    skip_behind hlines]
  rfl

theorem takeUntil_behind_of_not_cut {delimiter rest : Text}
    (hne : delimiter ≠ []) (hascii : ∀ c ∈ delimiter, c.toNat < 128)
    (hcut : Text.cut? delimiter rest = none) :
    (behind path typesafe stopped passed rest).takeUntil
      (Utf8.encode delimiter) =
      some (none, behind path typesafe stopped (passed ++ rest) []) := by
  have htake := @takeTo_behind path typesafe stopped passed rest []
  rw [List.append_nil] at htake
  have hstop : (behind path typesafe stopped passed rest).bytes.length =
      (Utf8.encode (passed ++ rest)).length := rfl
  simp only [takeUntil, rest?_behind, Utf8.find?_encode hne hascii, hcut,
    Option.map_none, hstop, htake, Option.bind_eq_bind, Option.bind_some]
  rfl

/-! ## Tags -/

theorem skip_mark (body : Text) :
    (behind path typesafe stopped passed (Tag.mark ++ body)).skip
        openingBytes.length =
      behind path typesafe stopped (passed ++ Tag.mark) body :=
  skip_behind rfl body

theorem readTag_behind {body : Text} (hne : body ≠ []) :
    (behind path typesafe stopped passed (Tag.mark ++ body)).readTag =
      (behind path typesafe stopped
        (passed ++ Tag.mark ++ (Tag.ofSigil body).1.sigil)
        (Tag.ofSigil body).2).closeTag ⟨path, 1 + passed.newlines⟩
          (Tag.ofSigil body).1 := by
  have hbytes : Utf8.encode body ≠ [] :=
    fun hnil => hne (Utf8.encode_injective hnil)
  obtain ⟨byte, bytes, hencode⟩ := List.exists_cons_of_ne_nil hbytes
  have hsigil := @Tag.ofBytes_encode body byte (by rw [hencode]; rfl)
  have hbody := @skip_behind path typesafe stopped (passed ++ Tag.mark) _
    (Tag.newlines_sigil (Tag.ofSigil body).1) (Tag.ofSigil body).2
  rw [Tag.sigil_append_ofSigil] at hbody
  have hpeek : (Utf8.encode body)[0]? = some byte := by
    rw [hencode]
    rfl
  simp only [readTag, skip_mark, peek?_behind, hpeek, hsigil, hbody]
  rfl

theorem readTag_of_cut {body content rest : Text}
    {result : Except SyntaxError Block}
    (hcut : Text.cut? (Tag.ofSigil body).1.closer (Tag.ofSigil body).2 =
      some (content, rest))
    (hblock : (Tag.ofSigil body).1.toBlock typesafe
      ⟨path, 1 + passed.newlines⟩ content = some result) :
    (behind path typesafe stopped passed (Tag.mark ++ body)).readTag =
      some (result, behind path typesafe stopped
        (passed ++ Segment.spelling (.tag (Tag.ofSigil body).1 content))
        rest) := by
  have hne : body ≠ [] := by
    rintro rfl
    cases hcut
  have hclose := @takeUntil_behind_of_cut path typesafe stopped
    (passed ++ Tag.mark ++ (Tag.ofSigil body).1.sigil) _ _ _ _
    (Tag.closer_ne_nil _) (Tag.closer_ascii _) (Tag.newlines_closer _) hcut
  have hkept : (behind path typesafe stopped
      (passed ++ Tag.mark ++ (Tag.ofSigil body).1.sigil)
      (Tag.ofSigil body).2).typesafe = typesafe := rfl
  rw [readTag_behind hne, closeTag, Tag.closingBytes_eq, hclose]
  simp only [Option.bind_eq_bind, Option.bind_some, hkept, hblock]
  simp [Segment.spelling]

theorem readTag_of_not_cut {body : Text}
    (hcut : Text.cut? (Tag.ofSigil body).1.closer (Tag.ofSigil body).2 =
      none) :
    (behind path typesafe stopped passed (Tag.mark ++ body)).readTag =
      some (.error (.truncatedTag ⟨path, 1 + passed.newlines⟩),
        behind path typesafe stopped (passed ++ (Tag.mark ++ body)) []) := by
  by_cases hne : body = []
  · subst hne
    simp only [readTag, skip_mark, peek?_behind]
    rfl
  · have hclose := @takeUntil_behind_of_not_cut path typesafe stopped
      (passed ++ Tag.mark ++ (Tag.ofSigil body).1.sigil) _ _
      (Tag.closer_ne_nil _) (Tag.closer_ascii _) hcut
    rw [readTag_behind hne, closeTag, Tag.closingBytes_eq, hclose,
      List.append_assoc, Tag.sigil_append_ofSigil, List.append_assoc]
    rfl

/-! ## Texts -/

theorem readText_behind (rest : Text) :
    (behind path typesafe stopped passed rest).readText =
      some (.ok ⟨.text (Segment.textRun rest).1, ⟨path, 1 + passed.newlines⟩⟩,
        behind path typesafe stopped (passed ++ (Segment.textRun rest).1)
          (Segment.textRun rest).2) := by
  have htake :=
    @takeTo_behind path typesafe stopped passed (Segment.textRun rest).1
      (Segment.textRun rest).2
  rw [Segment.textRun_append] at htake
  have hstop : ((Bytes.find? openingBytes (Utf8.encode rest)).map
      ((behind path typesafe stopped passed rest).offset + ·)).getD
        (behind path typesafe stopped passed rest).bytes.length =
      (Utf8.encode (passed ++ (Segment.textRun rest).1)).length := by
    rw [Tag.openingBytes_eq, Utf8.find?_encode (by decide) Tag.mark_ascii,
      Segment.textRun_eq_of_cut?]
    cases Text.cut? Tag.mark rest with
    | none => rfl
    | some parts => simp [behind]
  simp only [readText, rest?_behind, hstop, htake, Option.bind_eq_bind,
    Option.bind_some]
  rfl

/-! ## Reading -/

theorem read_behind_nil :
    (behind path typesafe stopped passed []).read =
      some (none, behind path typesafe stopped passed []) := by
  have hexhausted : (behind path typesafe stopped passed []).bytes.length ≤
      (behind path typesafe stopped passed []).offset := by
    simp [behind]
  rw [read, if_pos hexhausted]

theorem read_behind {rest : Text} (hne : rest ≠ []) :
    (behind path typesafe stopped passed rest).read =
      (if Tag.mark <+: rest then
        (behind path typesafe stopped passed rest).readTag
      else (behind path typesafe stopped passed rest).readText).map
          fun step => (some step.1, step.2) := by
  have hunread : ¬ (behind path typesafe stopped passed rest).bytes.length ≤
      (behind path typesafe stopped passed rest).offset := by
    have hlength := Utf8.length_le_length_encode rest
    have hpos := List.length_pos_iff.mpr hne
    simp only [behind, Utf8.encode_append, List.length_append]
    omega
  rw [read, if_neg hunread, rest?_behind, Option.bind_some]
  simp only [List.isPrefixOf_iff_prefix, Tag.openingBytes_eq,
    Utf8.encode_prefix_iff Tag.mark_ascii]

/-- A segment that means something is read as what it means. -/
theorem read_of_means {rest left : Text} {segment : Segment} {item : Item}
    (hfirst : Segment.first rest = .segment segment left)
    (hmeans : segment.Means typesafe item) :
    (behind path typesafe stopped passed rest).read =
      some (some (.ok ⟨item, ⟨path, 1 + passed.newlines⟩⟩),
        behind path typesafe stopped (passed ++ segment.spelling) left) := by
  have hne : rest ≠ [] := by
    rintro rfl
    cases hfirst
  rw [read_behind hne]
  by_cases hmark : Tag.mark <+: rest
  · rw [if_pos hmark]
    obtain ⟨body, rfl⟩ := hmark
    rw [Segment.first_mark_append] at hfirst
    split at hfirst
    · rename_i content after hcut
      cases hfirst
      rw [readTag_of_cut hcut (hmeans.toBlock_eq _)]
      rfl
    · cases hfirst
  · rw [if_neg hmark, readText_behind]
    rw [Segment.first_of_not_mark hne hmark] at hfirst
    cases hfirst
    cases hmeans
    rfl

theorem read_of_unclosed {rest : Text} (hunclosed : Segment.Unclosed rest) :
    (behind path typesafe stopped passed rest).read =
      some (some (.error (.truncatedTag ⟨path, 1 + passed.newlines⟩)),
        behind path typesafe stopped (passed ++ rest) []) := by
  have hmark := (Segment.Bad.unclosed hunclosed).mark_starts
  rw [← Segment.first_eq_truncated_iff] at hunclosed
  rw [read_behind (Segment.ne_nil_of_truncated hunclosed), if_pos hmark]
  obtain ⟨body, rfl⟩ := hmark
  rw [Segment.first_mark_append] at hunclosed
  split at hunclosed
  · cases hunclosed
  · rename_i hcut
    rw [readTag_of_not_cut hcut]
    rfl

theorem read_of_undeclared {content : Text} (left : Text)
    (hcloser : ¬ ['%', '>'] <:+: content)
    (hwords : content.words.length ≠ 2) :
    (behind path typesafe stopped passed
        (['<', '%', '!'] ++ content ++ ['%', '>'] ++ left)).read =
      some (some (.error
          (.malformedParameter content ⟨path, 1 + passed.newlines⟩)),
        behind path typesafe stopped
          (passed ++ (['<', '%', '!'] ++ content ++ ['%', '>'])) left) := by
  have hcut : Text.cut? ['%', '>'] (content ++ ['%', '>'] ++ left) =
      some (content, left) :=
    Text.cut?_append (by decide) (by decide) hcloser left
  have htag := @readTag_of_cut path typesafe stopped passed
    ('!' :: (content ++ ['%', '>'] ++ left)) _ _ _ hcut
    (Segment.toBlock_undeclared hwords typesafe ⟨path, 1 + passed.newlines⟩)
  have hsource : ['<', '%', '!'] ++ content ++ ['%', '>'] ++ left =
      Tag.mark ++ '!' :: (content ++ ['%', '>'] ++ left) := by
    simp [Tag.mark]
  rw [hsource, read_behind (by simp [Tag.mark]),
    if_pos (List.prefix_append _ _), htag]
  rfl

end Moves
end Cursor
end Stencil
