import Stencil.Proofs.Scanning

/-!
# Why a template does not compile

Three faults can keep a template from being compiled, and the first of them in
the order of the compilation is reported: the source is malformed, the path
names no package, or the headers are not imports.  No option takes part in
this.

Of all options only the one about markers reaches the scan, where it decides
how print tags are split.  So the outline of a template, in which nothing is
left of a print but its place, is the same for all options, and everything
that a fault depends on can be read off from the outline.
-/

namespace Stencil

/-! ## The outline of a template -/

/-- The item without what a print tag holds. -/
def Item.outline : Item → Item
  | .print _ _ => .print [] .default
  | item => item

def Block.outline (block : Block) : Block :=
  { block with item := block.item.outline }

def Template.outline (template : Template) : Template :=
  { template with blocks := template.blocks.map Block.outline }

theorem Segment.Means.outline_print {typesafe : Bool} {content : Text}
    {item : Item} (hmeans : Means typesafe (.tag .print content) item) :
    item.outline = .print [] .default := by
  cases hmeans with
  | print hplain => rfl
  | markedPrint htypesafe hmarked => rfl

theorem Segment.Means.outline_eq {typesafe other : Bool} {segment : Segment}
    {item alternative : Item} (hmeans : segment.Means typesafe item)
    (hother : segment.Means other alternative) :
    item.outline = alternative.outline := by
  cases hmeans with
  | text content => cases hother; rfl
  | code content => cases hother; rfl
  | header content => cases hother; rfl
  | parameter hwords =>
      cases hother with
      | parameter hagain =>
          cases hwords.symm.trans hagain
          rfl
  | print hplain => exact hother.outline_print.symm
  | markedPrint htypesafe hmarked => exact hother.outline_print.symm
  | rawPrint content => cases hother; rfl
  | comment content => cases hother; rfl

theorem Placed.map_outline {path : Text} {typesafe other : Bool} {line : Nat}
    {segments : List Segment} {blocks alternatives : List Block}
    (hplaced : Placed path typesafe line segments blocks)
    (hother : Placed path other line segments alternatives) :
    blocks.map Block.outline = alternatives.map Block.outline := by
  induction hplaced generalizing alternatives with
  | nil line =>
      cases hother
      rfl
  | cons hmeans hplaced ih =>
      cases hother with
      | cons hagain hother =>
          rw [List.map_cons, List.map_cons, ih hother, Block.outline,
            Block.outline, hmeans.outline_eq hagain]

/-- Markers change nothing but prints: a source is malformed in the same way
with and without them, and otherwise has the same outline. -/
theorem Template.outline_ofSource (typesafe other : Bool) (path : Bytes)
    (source : Text) :
    (Template.ofSource typesafe path source).map Template.outline =
      (Template.ofSource other path source).map Template.outline := by
  obtain ⟨segments, blocks, left, hrun, hplaced, hleft⟩ :=
    exists_run (Utf8.decodeLossy path) typesafe 1 source
  -- A source is taken into segments without looking at the option, and
  -- whether they are well formed does not depend on it either.
  obtain ⟨alternatives, hother⟩ :=
    exists_placed (hplaced.wellFormed hrun.canonical)
      (Utf8.decodeLossy path) other 1
  rcases hleft with rfl | ⟨fault, hbad⟩
  · rw [ofSource_of_run hrun hplaced, ofSource_of_run hrun hother]
    simp only [Except.map, outline, hplaced.map_outline hother]
  · rw [ofSource_of_run_bad hrun hplaced hbad,
      ofSource_of_run_bad hrun hother hbad]

/-! ## The first fault -/

/-- The fault that keeps a scanned source from being compiled. -/
inductive FirstFault (workingDirectory : List Bytes) (path : Bytes) :
    Except SyntaxError Template → CompileError → Prop
  | malformed (cause : SyntaxError) :
      FirstFault workingDirectory path (.error cause) (.malformed cause)
  | unidentifiable {template : Template}
      (hpackage : template.package? workingDirectory = none) :
      FirstFault workingDirectory path (.ok template)
        (.unidentifiablePackage path)
  | header {template : Template} {package : Text} {found : Import.Error}
      (hpackage : template.package? workingDirectory = some package)
      (hfound :
        Import.ofFragment (Text.join ['\n'] (template.headers.map (·.1))) =
          .error found) :
      FirstFault workingDirectory path (.ok template)
        (.header path { found with
          line := Template.templateLine found.line 1 template.headers })

theorem Template.headers_outline (template : Template) :
    template.outline.headers = template.headers := by
  unfold headers outline
  rw [List.filterMap_map]
  congr 1
  funext block
  obtain ⟨item, position⟩ := block
  cases item <;> rfl

theorem FirstFault.outline_iff {workingDirectory : List Bytes} {path : Bytes}
    {template : Template} {error : CompileError} :
    FirstFault workingDirectory path (.ok template.outline) error ↔
      FirstFault workingDirectory path (.ok template) error := by
  have hheaders := template.headers_outline
  constructor
  · intro hfault
    cases hfault with
    | unidentifiable hpackage => exact .unidentifiable hpackage
    | header hpackage hfound =>
        rw [hheaders] at hfound ⊢
        exact .header hpackage hfound
  · intro hfault
    cases hfault with
    | unidentifiable hpackage => exact .unidentifiable hpackage
    | header hpackage hfound =>
        rw [← hheaders] at hfound ⊢
        exact .header hpackage hfound

theorem FirstFault.map_outline_iff {workingDirectory : List Bytes}
    {path : Bytes} {scan : Except SyntaxError Template}
    {error : CompileError} :
    FirstFault workingDirectory path (scan.map Template.outline) error ↔
      FirstFault workingDirectory path scan error := by
  cases scan with
  | error cause => exact Iff.rfl
  | ok template => exact FirstFault.outline_iff

/-! ## Compilation -/

theorem Template.generate_eq_error_iff {workingDirectory : List Bytes}
    {options : Options} {template : Template} {error : CompileError} :
    template.generate workingDirectory options = .error error ↔
      FirstFault workingDirectory template.path (.ok template) error := by
  unfold generate file imports
  constructor
  · intro hgenerate
    cases hpackage : template.package? workingDirectory with
    | none =>
        rw [hpackage] at hgenerate
        cases hgenerate
        exact .unidentifiable hpackage
    | some package =>
        cases hfragment : Import.ofFragment template.headerFragment with
        | ok specs =>
            rw [hpackage, hfragment] at hgenerate
            cases hgenerate
        | error found =>
            rw [hpackage, hfragment] at hgenerate
            cases hgenerate
            exact .header hpackage hfragment
  · intro hfault
    cases hfault with
    | unidentifiable hpackage => rw [hpackage]; rfl
    | header hpackage hfound =>
        have hfragment : Import.ofFragment template.headerFragment =
            .error _ := hfound
        rw [hpackage, hfragment]
        rfl

theorem compile_eq_error_iff {workingDirectory : List Bytes}
    {options : Options} {path : Bytes} {source : Text}
    {error : CompileError} :
    compile workingDirectory options path source = .error error ↔
      FirstFault workingDirectory path
        (Template.ofSource options.typesafe path source) error := by
  unfold compile parse
  cases hsource : Template.ofSource options.typesafe path source with
  | error cause =>
      constructor
      · rintro ⟨⟩
        exact .malformed cause
      · rintro ⟨⟩
        rfl
  | ok template =>
      obtain ⟨rfl, -⟩ := Template.ofSource_eq_ok_iff.mp hsource
      exact Template.generate_eq_error_iff

/-- No option decides whether a template compiles.  Under any two options it
compiles under both, or it fails with the same error.  The error is that of
the scan, or else that the path names no package, or else that of the headers,
and it can be told from the scan with or without markers. -/
theorem compile_fails_under_all_options (workingDirectory : List Bytes)
    (path : Bytes) (source : Text) (options other : Options) :
    ((∃ code, compile workingDirectory options path source = .ok code) ↔
      ∃ code, compile workingDirectory other path source = .ok code) ∧
    (∀ error, compile workingDirectory options path source = .error error ↔
      compile workingDirectory other path source = .error error) ∧
    ∀ typesafe error,
      compile workingDirectory options path source = .error error ↔
      FirstFault workingDirectory path
        (Template.ofSource typesafe path source) error := by
  have hfault : ∀ (chosen : Options) typesafe error,
      compile workingDirectory chosen path source = .error error ↔
        FirstFault workingDirectory path
          (Template.ofSource typesafe path source) error := by
    intro chosen typesafe error
    rw [compile_eq_error_iff, ← FirstFault.map_outline_iff,
      Template.outline_ofSource chosen.typesafe typesafe,
      FirstFault.map_outline_iff]
  have hsame : ∀ error,
      compile workingDirectory options path source = .error error ↔
      compile workingDirectory other path source = .error error := by
    intro error
    rw [hfault options other.typesafe, hfault other other.typesafe]
  refine ⟨?_, hsame, hfault options⟩
  cases hoptions : compile workingDirectory options path source with
  | error error =>
      rw [(hsame error).mp hoptions]
  | ok code =>
      cases hother : compile workingDirectory other path source with
      | error error =>
          rw [(hsame error).mpr hother] at hoptions
          cases hoptions
      | ok alternative => simp

end Stencil
