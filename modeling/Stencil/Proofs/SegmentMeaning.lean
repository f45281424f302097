import Mathlib.Data.List.DropRight
import Stencil.Proofs.Segmentation
import Stencil.Proofs.Slices

/-!
# What a segment means

A segment stands for one item of a template, and the relation `Means` says for
which one, without saying how it is found.  Only two kinds of tags need a look
at their content: a parameter tag has to hold two words, and a print tag may
end in a marker.

A marker is looked for in the last two bytes of the content.  They are ASCII
characters if they make a marker, so the expression before the letter is a
slice.

Of a source that is not empty, either the first segment means something, or
the source starts with a bad tag.  This alternative is all that the scan needs
to know about the text it reads.
-/

namespace Stencil

theorem Text.mem_trimStart {text : Text} {c : Char} (hc : c ∈ text)
    (hvisible : Text.isSpace c = false) : c ∈ Text.trimStart text := by
  rw [← List.takeWhile_append_dropWhile (p := Text.isSpace) (l := text),
    List.mem_append] at hc
  rcases hc with hlead | hrest
  · rw [List.mem_takeWhile_imp hlead] at hvisible
    cases hvisible
  · exact hrest

theorem Text.trim_eq_nil_iff {text : Text} :
    Text.trim text = [] ↔ ∀ c ∈ text, Text.isSpace c = true := by
  have htrim : Text.trim text = [] ↔
      ∀ c ∈ Text.trimStart text, Text.isSpace c = true :=
    List.rdropWhile_eq_nil_iff
  rw [htrim]
  constructor
  · intro hrest c hc
    by_contra hvisible
    exact hvisible (hrest c (Text.mem_trimStart hc (by simpa using hvisible)))
  · intro hall c hc
    exact hall c ((List.dropWhile_suffix _).subset hc)

/-! ## Markers -/

/-- The letter is a marker of the expression before it: an ASCII letter behind
ASCII white space, where the expression is not all white space. -/
structure MarkedBy (expression : Text) (letter : Char) : Prop where
  letter : letter.isAlpha = true
  space : ∃ space ∈ expression.getLast?,
      space ∈ [' ', '\t', '\n', '\x0c', '\r']
  visible : ∃ c ∈ expression, Text.isSpace c = false

/-- The kind of print tag that a marker stands for. -/
inductive PrintKind.NamedBy : Char → PrintKind → Prop
  | decimal : NamedBy 'd' .decimal
  | string : NamedBy 's' .string
  | custom {letter : Char} (hdecimal : letter ≠ 'd')
      (hstring : letter ≠ 's') :
      NamedBy letter (.custom letter)

theorem PrintKind.namedBy_iff {letter : Char} {kind : PrintKind} :
    PrintKind.NamedBy letter kind ↔ kind = PrintKind.ofMarker letter := by
  unfold PrintKind.ofMarker
  constructor
  · intro hnamed
    cases hnamed with
    | decimal => rfl
    | string => rfl
    | custom hdecimal hstring => rw [if_neg hdecimal, if_neg hstring]
  · rintro rfl
    split_ifs with hdecimal hstring
    · exact hdecimal ▸ .decimal
    · exact hstring ▸ .string
    · exact .custom hdecimal hstring

theorem isMarkerLetter_iff {byte : UInt8} :
    isMarkerLetter byte = true ↔
      (97 ≤ byte.toNat ∧ byte.toNat ≤ 122) ∨
        (65 ≤ byte.toNat ∧ byte.toNat ≤ 90) := by
  simp only [isMarkerLetter, decide_eq_true_eq, UInt8.le_iff_toNat_le]
  exact Iff.rfl

theorem isAlpha_iff {c : Char} :
    c.isAlpha = true ↔
      (97 ≤ c.toNat ∧ c.toNat ≤ 122) ∨ (65 ≤ c.toNat ∧ c.toNat ≤ 90) := by
  have hcases : c.isAlpha = true ↔ c.isUpper = true ∨ c.isLower = true :=
    Bool.or_eq_true_iff
  have hupper : c.isUpper = true ↔ 65 ≤ c.toNat ∧ c.toNat ≤ 90 :=
    decide_eq_true_iff
  have hlower : c.isLower = true ↔ 97 ≤ c.toNat ∧ c.toNat ≤ 122 :=
    Bool.and_eq_true_iff.trans
      (and_congr decide_eq_true_iff decide_eq_true_iff)
  rw [hcases, hupper, hlower]
  exact or_comm

theorem toNat_lt_of_space {c : Char}
    (hc : c ∈ [' ', '\t', '\n', '\x0c', '\r']) :
    c.toNat < 128 := by
  simp only [List.mem_cons, List.not_mem_nil, or_false] at hc
  rcases hc with rfl | rfl | rfl | rfl | rfl <;> decide

theorem isMarkerSpace_toUInt8_iff {c : Char} (hc : c.toNat < 128) :
    isMarkerSpace c.toUInt8 = true ↔ c ∈ [' ', '\t', '\n', '\x0c', '\r'] := by
  rw [isMarkerSpace, decide_eq_true_eq, List.mem_map]
  constructor
  · rintro ⟨d, hd, hbyte⟩
    have hnumber := congrArg UInt8.toNat hbyte
    rw [Utf8.toNat_toUInt8_of_ascii (toNat_lt_of_space hd),
      Utf8.toNat_toUInt8_of_ascii hc] at hnumber
    exact Char.toNat_inj.mp hnumber ▸ hd
  · intro hmem
    exact ⟨c, hmem, rfl⟩

theorem markedBy_iff {before : Text} {space letter : Char}
    (hspace : space.toNat < 128) (hletter : letter.toNat < 128) :
    MarkedBy (before ++ [space]) letter ↔
      isMarkerLetter letter.toUInt8 = true ∧
        isMarkerSpace space.toUInt8 = true ∧
        Text.trim (before ++ [space]) ≠ [] := by
  rw [isMarkerLetter_iff, Utf8.toNat_toUInt8_of_ascii hletter, ← isAlpha_iff,
    isMarkerSpace_toUInt8_iff hspace, ne_eq, Text.trim_eq_nil_iff]
  push Not
  constructor
  · rintro ⟨halpha, ⟨last, hlast, hmem⟩, c, hc, hvisible⟩
    rw [List.getLast?_concat, Option.mem_some_iff] at hlast
    exact ⟨halpha, hlast ▸ hmem, c, hc, by simp [hvisible]⟩
  · rintro ⟨halpha, hmem, c, hc, hvisible⟩
    exact ⟨halpha, ⟨space, List.getLast?_concat, hmem⟩, c, hc,
      by simpa using hvisible⟩

theorem MarkedBy.exists_ascii {expression : Text} {letter : Char}
    (hmarked : MarkedBy expression letter) :
    ∃ before space, expression = before ++ [space] ∧ space.toNat < 128 ∧
      letter.toNat < 128 := by
  obtain ⟨halpha, ⟨space, hlast, hmem⟩, -⟩ := hmarked
  obtain ⟨before, rfl⟩ := List.getLast?_eq_some_iff.mp hlast
  rw [isAlpha_iff] at halpha
  exact ⟨before, space, rfl, toNat_lt_of_space hmem, by omega⟩

/-- What is found in a content that ends in two ASCII characters. -/
theorem splitMarker_of_ascii {before : Text} {space letter : Char}
    (hspace : space.toNat < 128) (hletter : letter.toNat < 128) :
    splitMarker (before ++ [space] ++ [letter]) =
      if isMarkerLetter letter.toUInt8 ∧ isMarkerSpace space.toUInt8 then
        some (if Text.trim (before ++ [space]) = [] then
          (before ++ [space] ++ [letter], .default)
        else (before ++ [space], PrintKind.ofMarker letter))
      else some (before ++ [space] ++ [letter], .default) := by
  have hencode : Utf8.encode (before ++ [space] ++ [letter]) =
      Utf8.encode before ++ [space.toUInt8] ++ [letter.toUInt8] := by
    rw [Utf8.encode_append, Utf8.encode_append, Utf8.encode_cons space,
      Utf8.encode_cons letter, Utf8.encodeCharacter_of_ascii hspace,
      Utf8.encodeCharacter_of_ascii hletter]
    rfl
  have hslice := Utf8.slice?_encode [] (before ++ [space]) [letter]
  have hlength : (Utf8.encode (before ++ [space])).length =
      (Utf8.encode (before ++ [space] ++ [letter])).length - 1 := by
    rw [hencode, Utf8.encode_append, Utf8.encode_cons space,
      Utf8.encodeCharacter_of_ascii hspace]
    simp [Utf8.encode]
  rw [List.nil_append, hlength] at hslice
  have hreverse : (Utf8.encode (before ++ [space] ++ [letter])).reverse =
      letter.toUInt8 :: space.toUInt8 :: (Utf8.encode before).reverse := by
    rw [hencode]
    simp
  have hcode : Char.ofNat letter.toUInt8.toNat = letter := by
    rw [Utf8.toNat_toUInt8_of_ascii hletter, Char.ofNat_toNat]
  unfold splitMarker
  simp only [hreverse]
  rw [show Utf8.slice? _ 0 _ = _ from hslice, Option.map_some, hcode]

theorem splitMarker_append {expression : Text} {letter : Char}
    {kind : PrintKind} (hmarked : MarkedBy expression letter)
    (hnamed : PrintKind.NamedBy letter kind) :
    splitMarker (expression ++ [letter]) = some (expression, kind) := by
  obtain ⟨before, space, rfl, hspace, hletter⟩ := hmarked.exists_ascii
  obtain ⟨hbyte, hblank, hvisible⟩ := (markedBy_iff hspace hletter).mp hmarked
  rw [splitMarker_of_ascii hspace hletter, if_pos ⟨hbyte, hblank⟩,
    if_neg hvisible, PrintKind.namedBy_iff.mp hnamed]

theorem exists_ascii_of_marker {content : Text} {letter space : UInt8}
    {more : Bytes}
    (hreverse : (Utf8.encode content).reverse = letter :: space :: more)
    (hletter : isMarkerLetter letter = true)
    (hspace : isMarkerSpace space = true) :
    ∃ (before : Text) (blank mark : Char),
      content = before ++ [blank] ++ [mark] ∧
      blank.toNat < 128 ∧ mark.toNat < 128 := by
  have hencode :
      Utf8.encode content = more.reverse ++ [space] ++ [letter] := by
    rw [← List.reverse_reverse (Utf8.encode content), hreverse]
    simp
  have hletterByte : letter.toNat < 128 := by
    rw [isMarkerLetter_iff] at hletter
    omega
  have hspaceByte : space.toNat < 128 := by
    rw [isMarkerSpace, decide_eq_true_eq, List.mem_map] at hspace
    obtain ⟨blank, hblank, rfl⟩ := hspace
    have hascii := toNat_lt_of_space hblank
    rwa [Utf8.toNat_toUInt8_of_ascii hascii]
  obtain ⟨inner, mark, rfl, hmark, -, hinner⟩ :=
    Utf8.exists_concat_of_encode hencode hletterByte
  obtain ⟨before, blank, rfl, hblank, -, -⟩ :=
    Utf8.exists_concat_of_encode hinner hspaceByte
  exact ⟨before, blank, mark, rfl, hblank, hmark⟩

theorem splitMarker_of_not_marked {content : Text}
    (hplain : ∀ expression letter, content = expression ++ [letter] →
      ¬ MarkedBy expression letter) :
    splitMarker content = some (content, .default) := by
  by_cases hends : ∃ before space letter,
      content = before ++ [space] ++ [letter] ∧
      space.toNat < 128 ∧ letter.toNat < 128
  · obtain ⟨before, space, letter, rfl, hspace, hletter⟩ := hends
    have hnot := hplain _ _ rfl
    rw [markedBy_iff hspace hletter] at hnot
    rw [splitMarker_of_ascii hspace hletter]
    split_ifs with hbytes hblank
    · rfl
    · exact absurd ⟨hbytes.1, hbytes.2, hblank⟩ hnot
    · rfl
  · -- A marker would be made of two ASCII bytes, and there are no two at the
    -- end.
    unfold splitMarker
    simp only
    split
    · rename_i letter space more hreverse
      rw [if_neg]
      rintro ⟨hletter, hspace⟩
      exact hends (exists_ascii_of_marker hreverse hletter hspace)
    · rfl

namespace Segment

/-- The item that a segment stands for.  Markers of print tags count only if
`typesafe` is set. -/
inductive Means (typesafe : Bool) : Segment → Item → Prop
  | text (content : Text) : Means typesafe (.text content) (.text content)
  | code (content : Text) :
      Means typesafe (.tag .code content) (.code content)
  | header (content : Text) :
      Means typesafe (.tag .header content) (.header content)
  | parameter {content name type : Text}
      (hwords : content.words = [name, type]) :
      Means typesafe (.tag .parameter content) (.parameter name type)
  | print {content : Text}
      (hplain : typesafe = true → ∀ expression letter,
        content = expression ++ [letter] → ¬ MarkedBy expression letter) :
      Means typesafe (.tag .print content) (.print content .default)
  | markedPrint {expression : Text} {letter : Char} {kind : PrintKind}
      (htypesafe : typesafe = true) (hmarked : MarkedBy expression letter)
      (hnamed : PrintKind.NamedBy letter kind) :
      Means typesafe (.tag .print (expression ++ [letter]))
        (.print expression kind)
  | rawPrint (content : Text) :
      Means typesafe (.tag .rawPrint content) (.rawPrint content)
  | comment (content : Text) :
      Means typesafe (.tag .comment content) (.comment content)

theorem Means.toBlock_eq {typesafe : Bool} {kind : Tag} {content : Text}
    {item : Item} (hmeans : Means typesafe (.tag kind content) item)
    (position : Position) :
    kind.toBlock typesafe position content = some (.ok ⟨item, position⟩) := by
  cases hmeans with
  | code content => rfl
  | header content => rfl
  | parameter hwords => simp [Tag.toBlock, hwords]
  | print hplain =>
      cases typesafe with
      | false => rfl
      | true => simp [Tag.toBlock, splitMarker_of_not_marked (hplain rfl)]
  | markedPrint htypesafe hmarked hnamed =>
      simp [Tag.toBlock, htypesafe, splitMarker_append hmarked hnamed]
  | rawPrint content => rfl
  | comment content => rfl

theorem Means.unique {typesafe : Bool} {segment : Segment} {item other : Item}
    (hmeans : segment.Means typesafe item)
    (hother : segment.Means typesafe other) :
    item = other := by
  cases segment with
  | text content =>
      cases hmeans
      cases hother
      rfl
  | tag kind content =>
      have hblock := hmeans.toBlock_eq ⟨[], 0⟩
      rw [hother.toBlock_eq ⟨[], 0⟩] at hblock
      cases hblock
      rfl

theorem exists_means_print (typesafe : Bool) (content : Text) :
    ∃ item, Means typesafe (.tag .print content) item := by
  by_cases hplain : typesafe = true → ∀ expression letter,
      content = expression ++ [letter] → ¬ MarkedBy expression letter
  · exact ⟨_, .print hplain⟩
  · push Not at hplain
    obtain ⟨htypesafe, expression, letter, rfl, hmarked⟩ := hplain
    exact ⟨_, .markedPrint htypesafe hmarked (PrintKind.namedBy_iff.mpr rfl)⟩

theorem exists_means {segment : Segment} (typesafe : Bool)
    (hwords : ∀ content, segment = .tag .parameter content →
      content.words.length = 2) :
    ∃ item, segment.Means typesafe item := by
  cases segment with
  | text content => exact ⟨_, .text content⟩
  | tag kind content =>
      cases kind with
      | code => exact ⟨_, .code content⟩
      | header => exact ⟨_, .header content⟩
      | parameter =>
          obtain ⟨name, type, hpair⟩ :=
            List.length_eq_two.mp (hwords content rfl)
          exact ⟨_, .parameter hpair⟩
      | print => exact exists_means_print typesafe content
      | rawPrint => exact ⟨_, .rawPrint content⟩
      | comment => exact ⟨_, .comment content⟩

/-! ## Well-formed segments -/

def WellFormed : Segment → Prop
  | .text content => content ≠ [] ∧ ¬ ['<', '%'] <:+: content
  | .tag .code content =>
      content ≠ [] ∧ (∀ c ∈ content.head?, c ∉ ['%', '!', '=', '#']) ∧
        ¬ ['%', '>'] <:+: content
  | .tag .header content => ¬ ['%', '%', '>'] <:+: content
  | .tag .parameter content =>
      ¬ ['%', '>'] <:+: content ∧ content.words.length = 2
  | .tag .print content =>
      content.head? ≠ some '=' ∧ ¬ ['%', '>'] <:+: content
  | .tag .rawPrint content => ¬ ['%', '>'] <:+: content
  | .tag .comment content => ¬ ['%', '>'] <:+: content

instance : (segment : Segment) → Decidable segment.WellFormed
  | .text _ => inferInstanceAs (Decidable (_ ∧ _))
  | .tag .code content =>
      -- Only the first character is looked at; trying all characters would
      -- take too long.
      have :=
        Option.decidableForallMem (p := (· ∉ ['%', '!', '=', '#']))
          content.head?
      @instDecidableAnd _ _ _ (@instDecidableAnd _ _ this _)
  | .tag .header _ => inferInstanceAs (Decidable (¬ _))
  | .tag .parameter _ => inferInstanceAs (Decidable (_ ∧ _))
  | .tag .print _ => inferInstanceAs (Decidable (_ ∧ _))
  | .tag .rawPrint _ => inferInstanceAs (Decidable (¬ _))
  | .tag .comment _ => inferInstanceAs (Decidable (¬ _))

theorem admits_closer_code_iff {content : Text} :
    Tag.code.Admits (content ++ Tag.code.closer) ↔
      content ≠ [] ∧ ∀ c ∈ content.head?, c ∉ ['%', '!', '=', '#'] := by
  cases content with
  | nil => simp [Tag.Admits, Tag.closer]
  | cons c content => simp [Tag.Admits]

theorem admits_closer_print_iff {content : Text} :
    Tag.print.Admits (content ++ Tag.print.closer) ↔
      content.head? ≠ some '=' := by
  cases content with
  | nil => simp [Tag.Admits, Tag.closer]
  | cons c content => simp [Tag.Admits]

theorem wellFormed_iff {segment : Segment} :
    segment.WellFormed ↔ segment.Canonical ∧
      ∀ content, segment = .tag .parameter content →
      content.words.length = 2 := by
  cases segment with
  | text content => simp [WellFormed, Canonical, Tag.mark]
  | tag kind content =>
      cases kind with
      | code =>
          simp only [WellFormed, Canonical, admits_closer_code_iff]
          simp [Tag.closer, and_assoc]
      | print =>
          simp only [WellFormed, Canonical, admits_closer_print_iff]
          simp [Tag.closer]
      | header => simp [WellFormed, Canonical, Tag.Admits, Tag.closer]
      | parameter => simp [WellFormed, Canonical, Tag.Admits, Tag.closer]
      | rawPrint => simp [WellFormed, Canonical, Tag.Admits, Tag.closer]
      | comment => simp [WellFormed, Canonical, Tag.Admits, Tag.closer]

theorem WellFormed.canonical {segment : Segment}
    (hwell : segment.WellFormed) :
    segment.Canonical :=
  (wellFormed_iff.mp hwell).1

theorem run_spell_of_wellFormed {segments : List Segment}
    (hwell : ∀ segment ∈ segments, segment.WellFormed)
    (hseparated : segments.IsChain Separated) :
    Run (spell segments) segments [] :=
  run_spell (fun segment hsegment => (hwell segment hsegment).canonical)
    hseparated

theorem Means.wellFormed {typesafe : Bool} {segment : Segment} {item : Item}
    (hmeans : segment.Means typesafe item) (hcanonical : segment.Canonical) :
    segment.WellFormed := by
  refine wellFormed_iff.mpr ⟨hcanonical, ?_⟩
  rintro content rfl
  cases hmeans with
  | parameter hwords => rw [hwords]; rfl

/-! ## Bad tags -/

/-- The source starts with a tag that is never closed, or with a parameter tag
that does not hold two words.  The error is given but for its position. -/
inductive Bad : Text → (Position → SyntaxError) → Prop
  | unclosed {source : Text} (hunclosed : Unclosed source) :
      Bad source fun position =>
        { fault := .truncated
          message := "unexpected end of input inside tag".toList
          position := position
          help := some
            "every <% tag must be closed with %> (header tags with %%>)".toList
        }
  | undeclared {content : Text} (rest : Text)
      (hcloser : ¬ ['%', '>'] <:+: content)
      (hwords : content.words.length ≠ 2) :
      Bad (['<', '%', '!'] ++ content ++ ['%', '>'] ++ rest) fun position =>
        { fault := .malformedParameter
          message := "parameter declaration `".toList ++ Text.trim content ++
            "` should be of the form `name type`".toList
          position := position
          help := some
            "declare one parameter per tag, e.g. <%! items []string %>".toList
        }

theorem toBlock_undeclared {content : Text}
    (hwords : content.words.length ≠ 2) (typesafe : Bool)
    (position : Position) :
    Tag.toBlock typesafe position content .parameter =
      some (.error (.malformedParameter content position)) := by
  simp only [Tag.toBlock]
  split
  · rename_i name type hpair
    rw [hpair] at hwords
    exact absurd rfl hwords
  · rfl

theorem Bad.mark_starts {source : Text} {fault : Position → SyntaxError}
    (hbad : Bad source fault) : Tag.mark <+: source := by
  cases hbad with
  | unclosed hunclosed =>
      obtain ⟨kind, inner, rfl, -, -⟩ := hunclosed
      exact ⟨kind.sigil ++ inner, by simp⟩
  | undeclared rest hcloser hwords => exact ⟨_, rfl⟩

theorem Bad.position_eq {source : Text} {fault : Position → SyntaxError}
    (hbad : Bad source fault) (position : Position) :
    (fault position).position = position := by
  cases hbad with
  | unclosed hunclosed => rfl
  | undeclared rest hcloser hwords => rfl

theorem head_cases (typesafe : Bool) (source : Text) :
    source = [] ∨
      (∃ segment rest item, first source = .segment segment rest ∧
        segment.Means typesafe item) ∨
      ∃ fault, Bad source fault := by
  cases hfirst : first source with
  | finished => exact .inl (first_eq_finished_iff.mp hfirst)
  | truncated =>
      exact .inr (.inr ⟨_, .unclosed (first_eq_truncated_iff.mp hfirst)⟩)
  | segment segment rest =>
      right
      by_cases hwords : ∀ content, segment = .tag .parameter content →
          content.words.length = 2
      · obtain ⟨item, hmeans⟩ := exists_means typesafe hwords
        exact .inl ⟨segment, rest, item, rfl, hmeans⟩
      · push Not at hwords
        obtain ⟨content, rfl, hlength⟩ := hwords
        obtain ⟨rfl, hcanonical, -⟩ := first_eq_segment_iff.mp hfirst
        exact .inr ⟨_, .undeclared rest hcanonical.2 hlength⟩

end Segment
end Stencil
