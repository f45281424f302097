import Stencil.Proofs.GeneratedText
import Stencil.Proofs.LiteralReading
import Stencil.Proofs.Scanning

/-!
# Literal text survives compilation

A template without embedded code writes a fixed page.  Its function consists
of one statement per literal text, and reading the literals of these
statements gives the source without its tags, byte for byte.

The way from the source to the page passes through segments, blocks and
statements.  The texts are the same list on all of these levels, so the
argument follows this list: segments and blocks agree on it, statements are
made of it, and its literals are read back one by one.
-/

namespace Stencil

/-! ## The texts of a source -/

namespace Segment

def text? : Segment → Option Text
  | .text content => some content
  | .tag _ _ => none

/-- The source with all its tags deleted. -/
def withoutTags (source : Text) : Text :=
  ((parts source).filterMap text?).flatten

end Segment

def Block.text? (block : Block) : Option Text :=
  match block.item with
  | .text content => some content
  | _ => none

def Template.texts (template : Template) : List Text :=
  template.blocks.filterMap Block.text?

theorem Placed.filterMap_text? {path : Text} {typesafe : Bool} {line : Nat}
    {segments : List Segment} {blocks : List Block}
    (hplaced : Placed path typesafe line segments blocks) :
    blocks.filterMap Block.text? = segments.filterMap Segment.text? := by
  induction hplaced with
  | nil line => rfl
  | @cons line segment item segments blocks hmeans hplaced ih =>
      have hhead : Block.text? ⟨item, ⟨path, line⟩⟩ = segment.text? := by
        cases hmeans <;> rfl
      rw [List.filterMap_cons, List.filterMap_cons, hhead, ih]

theorem Segment.Run.texts_ne_nil {source left : Text}
    {segments : List Segment} (hrun : Run source segments left) :
    ∀ text ∈ segments.filterMap Segment.text?, text ≠ [] := by
  intro text hmem
  obtain ⟨segment, hsegment, htext⟩ := List.mem_filterMap.mp hmem
  have hcanonical := hrun.canonical segment hsegment
  cases segment with
  | tag kind content => cases htext
  | text content =>
      cases htext
      exact hcanonical.1

/-! ## The statements of the texts -/

/-- The item is a text, or nothing is written for it. -/
def Item.IsInert : Item → Prop
  | .text _ | .comment _ | .parameter _ _ | .header _ => True
  | .code _ | .print _ _ | .rawPrint _ => False

/-- The kind of a tag for which nothing is written. -/
def Tag.IsInert (kind : Tag) : Prop :=
  kind = .comment ∨ kind = .parameter ∨ kind = .header

theorem Placed.isInert {path : Text} {typesafe : Bool} {line : Nat}
    {segments : List Segment} {blocks : List Block}
    (hplaced : Placed path typesafe line segments blocks)
    (hinert : ∀ kind content, .tag kind content ∈ segments → kind.IsInert) :
    ∀ block ∈ blocks, block.item.IsInert := by
  induction hplaced with
  | nil line => simp
  | @cons line segment item segments blocks hmeans hplaced ih =>
      have htail := ih fun kind content hmem =>
        hinert kind content (List.mem_cons_of_mem segment hmem)
      have hhead : item.IsInert := by
        cases hmeans with
        | text content => trivial
        | header content => trivial
        | parameter hwords => trivial
        | comment content => trivial
        | code content =>
            simpa [Tag.IsInert] using hinert .code content List.mem_cons_self
        | print hplain =>
            simpa [Tag.IsInert] using hinert .print _ List.mem_cons_self
        | markedPrint htypesafe hmarked =>
            simpa [Tag.IsInert] using hinert .print _ List.mem_cons_self
        | rawPrint content =>
            simpa [Tag.IsInert] using
              hinert .rawPrint content List.mem_cons_self
      exact List.forall_mem_cons.mpr ⟨hhead, htail⟩

/-- The texts that are written to the page, none of them empty. -/
def writtenTexts (options : Options) (texts : List Text) : List Text :=
  (texts.map (Go.effectiveText options)).filter (· ≠ [])

theorem writtenTexts_cons (options : Options) (text : Text)
    (texts : List Text) :
    writtenTexts options (text :: texts) =
      if Go.effectiveText options text = [] then writtenTexts options texts
      else Go.effectiveText options text :: writtenTexts options texts := by
  unfold writtenTexts
  split <;> rename_i hempty <;> simp [hempty]

namespace Go

def writeLine (literal : Text) : Text :=
  "\tio.WriteString(w, ".toList ++ literal ++ [')', '\n']

theorem Statement.lines_write (debug : Bool) (text : Text)
    (position : Position) :
    Statement.lines debug ⟨.write text, position⟩ =
      writeLine (literal text) := by
  have hdirective :
      Statement.directive? debug ⟨.write text, position⟩ = none := by
    cases debug <;> rfl
  rw [Statement.lines, hdirective, Option.map_none, Option.getD_none,
    List.nil_append]
  exact List.append_assoc _ _ _

end Go

theorem flatMap_lines_of_isInert {blocks : List Block}
    (hinert : ∀ block ∈ blocks, block.item.IsInert) (options : Options) :
    (blocks.filterMap (Go.Statement.ofBlock? options)).flatMap
        (Go.Statement.lines options.debug) =
      ((writtenTexts options (blocks.filterMap Block.text?)).map
        Go.literal).flatMap Go.writeLine := by
  induction blocks with
  | nil => rfl
  | cons block blocks ih =>
      obtain ⟨hhead, htail⟩ := List.forall_mem_cons.mp hinert
      obtain ⟨item, position⟩ := block
      cases item with
      | text content =>
          have hstatement :=
            Go.Statement.ofBlock?_text options content position
          rw [List.filterMap_cons_some (f := Block.text?) rfl,
            writtenTexts_cons]
          split <;> rename_i hempty
          · rw [if_pos hempty] at hstatement
            rw [List.filterMap_cons_none hstatement, ih htail]
          · rw [if_neg hempty] at hstatement
            rw [List.filterMap_cons_some hstatement, List.flatMap_cons,
              Go.Statement.lines_write, ih htail, List.map_cons,
              List.flatMap_cons]
      | comment content =>
          rw [List.filterMap_cons_none rfl,
            List.filterMap_cons_none rfl, ih htail]
      | parameter name type =>
          rw [List.filterMap_cons_none rfl,
            List.filterMap_cons_none rfl, ih htail]
      | header content =>
          rw [List.filterMap_cons_none rfl,
            List.filterMap_cons_none rfl, ih htail]
      | code content => exact hhead.elim
      | print content kind => exact hhead.elim
      | rawPrint content => exact hhead.elim

/-! ## From the source to the page -/

theorem forall₂_literalValue? (texts : List Text) :
    List.Forall₂
      (fun literal text => Go.literalValue? literal = some (Utf8.encode text))
      (texts.map Go.literal) texts := by
  rw [List.forall₂_map_left_iff, List.forall₂_same]
  intro text _
  exact Go.literalValue?_literal text

theorem flatten_filterMap_literalValue? (texts : List Text) :
    ((texts.map Go.literal).filterMap Go.literalValue?).flatten =
      Utf8.encode texts.flatten := by
  induction texts with
  | nil => rfl
  | cons text texts ih =>
      rw [List.map_cons,
        List.filterMap_cons_some (Go.literalValue?_literal text),
        List.flatten_cons, List.flatten_cons, ih, Utf8.encode, Utf8.encode,
        Utf8.encode, List.flatMap_append]

theorem writtenTexts_of_not_minify {options : Options} {texts : List Text}
    (hminify : options.minify = false) (hne : ∀ text ∈ texts, text ≠ []) :
    writtenTexts options texts = texts := by
  have heffective : texts.map (Go.effectiveText options) = texts := by
    rw [List.map_congr_left (g := id), List.map_id]
    intro text _
    simp [Go.effectiveText, hminify]
  rw [writtenTexts, heffective, List.filter_eq_self]
  intro text htext
  simpa using hne text htext

theorem writtenTexts_of_minify {options : Options}
    (hminify : options.minify = true) (texts : List Text) :
    writtenTexts options texts =
      (texts.map Text.collapse).filter (· ≠ []) := by
  have heffective : Go.effectiveText options = Text.collapse := by
    funext text
    simp [Go.effectiveText, hminify]
  rw [writtenTexts, heffective]

theorem Template.ending_of_file {workingDirectory : List Bytes}
    {options : Options} {template : Template} {file : Go.File}
    (hfile : template.file workingDirectory options = .ok file)
    (hview : options.generateView = false) : file.ending = [] := by
  obtain ⟨package, imports, -, -, rfl⟩ := Template.file_eq_ok_iff.mp hfile
  simp [Go.File.ending, Template.viewFactory?, hview]

theorem Template.flatMap_lines_of_file {workingDirectory : List Bytes}
    {options : Options} {template : Template} {file : Go.File}
    (hfile : template.file workingDirectory options = .ok file)
    (hinert : ∀ block ∈ template.blocks, block.item.IsInert) :
    file.body.flatMap (Go.Statement.lines options.debug) =
      ((writtenTexts options template.texts).map Go.literal).flatMap
        Go.writeLine := by
  rw [Template.body_of_file hfile]
  exact flatMap_lines_of_isInert hinert options

/-- Literal text survives compilation byte for byte.  If the only tags of a
source are comments, parameters and headers, the body of the generated
function writes one literal per text, each on a line of its own.  The literals
denote the texts in order, so together they denote the source without its
tags; if white space is collapsed, they denote the collapsed texts that are
not empty. -/
theorem compile_keeps_literal_text {workingDirectory : List Bytes}
    {options : Options} {path : Bytes} {source : Text} {code : Code}
    (hcompile : compile workingDirectory options path source = .ok code)
    (htags : ∀ kind content, .tag kind content ∈ Segment.parts source →
      kind.IsInert) :
    ∃ (template : Template) (file : Go.File) (literals : List Text),
      parse options path source = .ok template ∧
      template.file workingDirectory options = .ok file ∧
      code.text =
        file.preamble ++ file.signatureLine ++
          literals.flatMap Go.writeLine ++
          "\treturn nil\n\x7d\n".toList ++ file.ending ∧
      (options.generateView = false → file.ending = []) ∧
      (∀ literal ∈ literals, '\n' ∉ literal) ∧
      source = Segment.spell (Segment.parts source) ∧
      (options.minify = false →
        List.Forall₂
          (fun literal text =>
            Go.literalValue? literal = some (Utf8.encode text))
          literals template.texts ∧
        (literals.filterMap Go.literalValue?).flatten =
          Utf8.encode (Segment.withoutTags source)) ∧
      (options.minify = true →
        List.Forall₂
          (fun literal text =>
            Go.literalValue? literal = some (Utf8.encode text))
          literals ((template.texts.map Text.collapse).filter (· ≠ []))) := by
  obtain ⟨template, file, hparse, hfile, rfl⟩ := compile_eq_ok_iff.mp hcompile
  obtain ⟨segments, hrun, hplaced⟩ := parse_eq_ok_placed hparse
  have hinert : ∀ block ∈ template.blocks, block.item.IsInert :=
    hplaced.isInert (hrun.parts_eq ▸ htags)
  have htexts : template.texts = segments.filterMap Segment.text? :=
    hplaced.filterMap_text?
  refine ⟨template, file,
    (writtenTexts options template.texts).map Go.literal, hparse, hfile, ?_,
    Template.ending_of_file hfile, ?_, ?_, ?_, ?_⟩
  · rw [Go.File.text_listing, Template.flatMap_lines_of_file hfile hinert]
    rfl
  · intro literal hliteral hnewline
    obtain ⟨text, -, rfl⟩ := List.mem_map.mp hliteral
    cases Go.isControl_of_mem_literal hnewline
  · rw [hrun.parts_eq]
    exact hrun.eq_spell
  · intro hminify
    -- No text of a source is empty, so each of them has its own statement.
    have hne : ∀ text ∈ template.texts, text ≠ [] :=
      htexts ▸ hrun.texts_ne_nil
    rw [writtenTexts_of_not_minify hminify hne]
    refine ⟨forall₂_literalValue? template.texts, ?_⟩
    rw [flatten_filterMap_literalValue?, Segment.withoutTags,
      hrun.parts_eq, htexts]
  · intro hminify
    rw [writtenTexts_of_minify hminify]
    exact forall₂_literalValue? _

theorem compile_keeps_literal_text_around_comment :
    ∃ (code : Code) (literals : List Text),
      compile [] {} [47, 118, 47, 97] ['"', '<', '%', '#', '%', '>', '\n'] =
        .ok code ∧
      literals.flatMap Go.writeLine <:+: code.text ∧
      (literals.filterMap Go.literalValue?).flatten = [34, 10] := by
  have hrun : Segment.Run ['"', '<', '%', '#', '%', '>', '\n']
      [.text ['"'], .tag .comment [], .text ['\n']] [] :=
    @Segment.run_spell_of_wellFormed [.text ['"'], .tag .comment [],
      .text ['\n']]
      (by decide) (by decide)
  have hplaced : Placed ['/', 'v', '/', 'a'] false 1
      [.text ['"'], .tag .comment [], .text ['\n']] _ :=
    .cons (.text _) (.cons (.comment _) (.cons (.text _) (.nil _)))
  have hscan :
      Template.ofSource false [47, 118, 47, 97] ['"', '<', '%', '#', '%',
        '>', '\n'] =
      .ok ⟨[47, 118, 47, 97], _⟩ :=
    Template.ofSource_eq_ok_iff.mpr
      ⟨rfl, Cursor.results_start_eq_iff.mpr ⟨_, hrun, hplaced⟩⟩
  obtain ⟨template, hparse, hpackage, hheaders⟩ :
      ∃ template : Template,
        parse {} [47, 118, 47, 97] ['"', '<', '%', '#', '%', '>', '\n'] =
          .ok template ∧
        template.package? [] = some ['v'] ∧ template.headers = [] :=
    ⟨_, parse_eq_ok_iff.mpr hscan, rfl, rfl⟩
  obtain ⟨file, hfile⟩ :=
    Template.exists_file_of_headers_nil hpackage hheaders {}
  have hcompile := compile_eq_ok_iff.mpr ⟨_, file, hparse, hfile, rfl⟩
  obtain ⟨_, _, literals, -, -, htext, -, -, -, hplain, -⟩ :=
    compile_keeps_literal_text hcompile (by
      intro kind content hmem
      rw [hrun.parts_eq] at hmem
      simp only [List.mem_cons, reduceCtorEq, Segment.tag.injEq,
        List.not_mem_nil, or_false, false_or] at hmem
      exact .inl hmem.1)
  refine ⟨_, literals, hcompile, ?_, ?_⟩
  · rw [htext]
    exact ⟨_, _, (List.append_assoc _ _ _).symm⟩
  · rw [(hplain rfl).2, Segment.withoutTags, hrun.parts_eq]
    rfl

end Stencil
