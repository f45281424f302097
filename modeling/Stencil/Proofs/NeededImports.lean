import Stencil.Proofs.GeneratedText
import Stencil.Proofs.ImportBlock

/-!
# Imports and statements agree

Which packages the generated code imports for itself is decided from the print
tags, before any statement is written.  The statements are made from the
blocks.  Both go by the same kinds: the kinds of the print statements in the
body are the kinds of the print tags, as the options want them, in the same
order.

What a statement does to its expression can be read off from its text.  The
function that an expression is passed to is the one whose name stands before
it, and an expression that stands alone is shorter than any call with it.
-/

namespace Stencil
namespace Go

/-! ## What a print statement calls -/

/-- The action writes an escaped value. -/
def Action.Escapes (action : Action) : Prop :=
  ∃ kind expression value, action = .print kind expression ∧
    action.code = writeString ("html.EscapeString(".toList ++ value ++ [')'])

/-- The action writes an escaped value, which is what the function makes of
the expression of the print tag.  The expression is the last argument. -/
def Action.WrapsIn (function : Text) (action : Action) : Prop :=
  ∃ kind expression arguments, action = .print kind expression ∧
    action.code = writeString
      ("html.EscapeString(".toList ++
        (function ++ '(' :: (arguments ++ expression ++ [')'])) ++ [')'])

def Action.printKind? : Action → Option PrintKind
  | .print kind _ => some kind
  | .write _ | .run _ | .printRaw _ => none

/-- The function that converts values of a kind, if they are not texts
already. -/
def converter? : PrintKind → Option Text
  | .decimal => some "strconv.Itoa".toList
  | .string => none
  | .default | .custom _ => some "fmt.Sprintf".toList

theorem paren_notMem_of_converter? {kind : PrintKind} {function : Text}
    (hconverter : converter? kind = some function) : '(' ∉ function := by
  cases kind <;> cases hconverter <;> decide

theorem conversion_of_converter? {kind : PrintKind} {function : Text}
    (hconverter : converter? kind = some function) (expression : Text) :
    ∃ arguments, conversion kind expression =
      function ++ '(' :: (arguments ++ expression ++ [')']) := by
  cases kind with
  | decimal =>
      cases hconverter
      exact ⟨[], rfl⟩
  | string => cases hconverter
  | default =>
      cases hconverter
      exact ⟨"\"%v\", ".toList, rfl⟩
  | custom verb =>
      cases hconverter
      exact ⟨"\"%".toList ++ verb :: "\", ".toList, rfl⟩

theorem conversion_of_converter?_eq_none {kind : PrintKind}
    (hnone : converter? kind = none) (expression : Text) :
    conversion kind expression = expression := by
  cases kind with
  | string => rfl
  | decimal => cases hnone
  | default => cases hnone
  | custom verb => cases hnone

theorem expression_ne_call (function arguments expression : Text) :
    expression ≠ function ++ '(' :: (arguments ++ expression ++ [')']) := by
  intro heq
  have hlength := congrArg List.length heq
  simp only [List.length_append, List.length_cons] at hlength
  omega

/-- The name of a function ends at the first opening parenthesis. -/
theorem function_eq_of_call {function other inner outer : Text}
    (hfunction : '(' ∉ function) (hother : '(' ∉ other)
    (heq : function ++ '(' :: inner = other ++ '(' :: outer) :
    function = other := by
  have hname : ∀ {name : Text} (rest : Text), '(' ∉ name →
      (name ++ '(' :: rest).takeWhile (· ≠ '(') = name := by
    intro name rest hname
    apply Text.takeWhile_run
    · intro c hc
      simpa using ne_of_mem_of_not_mem hc hname
    · intro c hc
      cases hc
      rfl
  rw [← hname inner hfunction, heq, hname outer hother]

theorem writeString_injective {expression other : Text}
    (heq : writeString expression = writeString other) :
    expression = other := by
  unfold writeString at heq
  exact List.append_cancel_left (List.append_cancel_right heq)

theorem Action.wrapsIn_iff {function : Text} (hfunction : '(' ∉ function)
    {action : Action} :
    action.WrapsIn function ↔
      ∃ kind ∈ action.printKind?, converter? kind = some function := by
  constructor
  · rintro ⟨kind, expression, arguments, rfl, hcode⟩
    refine ⟨kind, rfl, ?_⟩
    have hconversion := List.append_cancel_left
      (List.append_cancel_right (writeString_injective hcode))
    cases hconverter : converter? kind with
    | none =>
        rw [conversion_of_converter?_eq_none hconverter] at hconversion
        exact absurd hconversion (expression_ne_call _ _ _)
    | some name =>
        obtain ⟨others, hcall⟩ :=
          conversion_of_converter? hconverter expression
        rw [hcall] at hconversion
        rw [function_eq_of_call (paren_notMem_of_converter? hconverter)
            hfunction hconversion]
  · rintro ⟨kind, hkind, hconverter⟩
    cases action with
    | print other expression =>
        cases hkind
        obtain ⟨arguments, hcall⟩ :=
          conversion_of_converter? hconverter expression
        refine ⟨kind, expression, arguments, rfl, ?_⟩
        rw [← hcall]
        rfl
    | write text => cases hkind
    | run code => cases hkind
    | printRaw expression => cases hkind

theorem Action.escapes_iff {action : Action} :
    action.Escapes ↔ ∃ kind, kind ∈ action.printKind? := by
  constructor
  · rintro ⟨kind, expression, value, rfl, -⟩
    exact ⟨kind, rfl⟩
  · rintro ⟨kind, hkind⟩
    cases action with
    | print other expression =>
        exact ⟨other, expression, conversion other expression, rfl, rfl⟩
    | write text => cases hkind
    | run code => cases hkind
    | printRaw expression => cases hkind

/-! ## The kinds of a body -/

def printKinds (body : List Statement) : List PrintKind :=
  body.filterMap fun statement => statement.action.printKind?

theorem mem_printKinds_iff {body : List Statement} {kind : PrintKind} :
    kind ∈ printKinds body ↔ ∃ statement ∈ body,
      kind ∈ statement.action.printKind? := by
  simp [printKinds]

/-- Whether the values of some of the kinds are converted by a function. -/
def convertsWith (function : Text) (kinds : List PrintKind) : Bool :=
  kinds.any fun kind => converter? kind = some function

theorem any_eq_convertsWith (function : Text) {test : PrintKind → Bool}
    (htest : ∀ kind, test kind = decide (converter? kind = some function))
    (kinds : List PrintKind) :
    kinds.any test = convertsWith function kinds := by
  rw [convertsWith, funext htest]

theorem convertsWith_printKinds_iff {body : List Statement} {function : Text}
    (hfunction : '(' ∉ function) :
    convertsWith function (printKinds body) = true ↔
      ∃ statement ∈ body, statement.action.WrapsIn function := by
  simp only [convertsWith, List.any_eq_true, decide_eq_true_eq,
    mem_printKinds_iff, Action.wrapsIn_iff hfunction]
  constructor
  · rintro ⟨kind, ⟨statement, hmem, hkind⟩, hconverter⟩
    exact ⟨statement, hmem, kind, hkind, hconverter⟩
  · rintro ⟨statement, hmem, kind, hkind, hconverter⟩
    exact ⟨kind, ⟨statement, hmem, hkind⟩, hconverter⟩

theorem printKinds_ne_nil_iff {body : List Statement} :
    printKinds body ≠ [] ↔ ∃ statement ∈ body, statement.action.Escapes := by
  simp only [Action.escapes_iff]
  constructor
  · intro hne
    obtain ⟨kind, hkind⟩ := List.exists_mem_of_ne_nil _ hne
    obtain ⟨statement, hmem, hkind⟩ := mem_printKinds_iff.mp hkind
    exact ⟨statement, hmem, kind, hkind⟩
  · rintro ⟨statement, hmem, kind, hkind⟩
    exact List.ne_nil_of_mem (mem_printKinds_iff.mpr ⟨statement, hmem, hkind⟩)

end Go

namespace Template

variable {workingDirectory : List Bytes} {options : Options}
  {template : Template}

/-- The kinds of the print statements that are emitted for a template. -/
def emittedKinds (options : Options) (template : Template) : List PrintKind :=
  Go.printKinds (template.blocks.filterMap (Go.Statement.ofBlock? options))

theorem emittedKinds_eq (options : Options) (template : Template) :
    template.emittedKinds options =
      template.prints.map fun (_, kind) => Go.effectiveKind options kind := by
  rw [emittedKinds, Go.printKinds, prints, List.filterMap_filterMap,
    List.map_filterMap]
  congr 1
  funext block
  obtain ⟨item, position⟩ := block
  cases item with
  | text content =>
      rw [Go.Statement.ofBlock?_text]
      split <;> rfl
  | code content => rfl
  | header content => rfl
  | parameter name type => rfl
  | print content kind => rfl
  | rawPrint content => rfl
  | comment content => rfl

theorem baseImports_eq (options : Options) (template : Template) :
    template.baseImports options =
      (if Go.convertsWith "fmt.Sprintf".toList (template.emittedKinds options)
        then [.plain "fmt".toList] else []) ++
        (if Go.convertsWith "strconv.Itoa".toList
          (template.emittedKinds options)
          then [.plain "strconv".toList] else []) ++
        (if template.emittedKinds options ≠ [] then
          [.plain "html".toList] else []) ++
        [.plain "io".toList] ++
        (if options.generateView then [.plain options.viewImport]
          else []) := by
  unfold baseImports
  rw [emittedKinds_eq]
  simp only [List.contains_eq_any_beq, List.map_append, List.map_cons,
    List.map_nil, apply_ite (List.map ImportSpec.plain), ne_eq, ite_not]
  rw [Go.any_eq_convertsWith "fmt.Sprintf".toList,
    Go.any_eq_convertsWith "strconv.Itoa".toList]
  · intro kind
    cases kind <;> rfl
  · intro kind
    cases kind <;> rfl

theorem ending_ne_nil_iff {file : Go.File}
    (hfile : template.file workingDirectory options = .ok file) :
    file.ending ≠ [] ↔ options.generateView = true := by
  obtain ⟨package, imports, -, -, rfl⟩ := file_eq_ok_iff.mp hfile
  cases hview : options.generateView with
  | false => simp [Go.File.ending, viewFactory?, hview]
  | true =>
      simp only [Go.File.ending, viewFactory?, hview, if_true, iff_true]
      intro hnil
      unfold Go.File.viewText at hnil
      exact absurd (List.append_eq_nil_iff.mp hnil).2 (by decide)

end Template

theorem Go.File.preamble_eq {file : Go.File} (hne : file.imports.items ≠ []) :
    file.preamble =
      "// Code generated by egon. DO NOT EDIT.\n\npackage ".toList ++
      file.package ++ "\n\nimport (\n".toList ++
        Import.specLines file.imports.items ++
      ")\n\n".toList := by
  unfold preamble
  rw [ImportSet.block_eq hne]
  simp only [List.append_assoc]
  rfl

/-- Imports and statements agree.  The import block lists, each at its first
occurrence, the packages that the emitted statements call and then the imports
of the headers.  The package with the view type is among them exactly if the
view factory is emitted. -/
theorem Template.generate_imports_what_it_calls
    {workingDirectory : List Bytes} {options : Options} {template : Template}
    {code : Code}
    (hgenerate : template.generate workingDirectory options = .ok code) :
    ∃ (file : Go.File) (specs : List ImportSpec)
      (formats converts escapes views : Bool),
      template.file workingDirectory options = .ok file ∧
      file.body = template.blocks.filterMap (Go.Statement.ofBlock? options) ∧
      code.text =
        "// Code generated by egon. DO NOT EDIT.\n\npackage ".toList ++
          file.package ++
          "\n\nimport (\n".toList ++ Import.specLines file.imports.items ++
          ")\n\n".toList ++ file.signatureLine ++
          file.body.flatMap (Go.Statement.lines options.debug) ++
          Go.File.functionEnd ++ file.ending ∧
      Import.ofFragment template.headerFragment = .ok specs ∧
      (formats = true ↔
        ∃ statement ∈ file.body,
        statement.action.WrapsIn "fmt.Sprintf".toList) ∧
      (converts = true ↔
        ∃ statement ∈ file.body,
        statement.action.WrapsIn "strconv.Itoa".toList) ∧
      (escapes = true ↔ ∃ statement ∈ file.body, statement.action.Escapes) ∧
      (views = true ↔ file.ending ≠ []) ∧
      file.imports.items =
        ((if formats then [ImportSpec.plain "fmt".toList] else []) ++
          (if converts then [ImportSpec.plain "strconv".toList] else []) ++
          (if escapes then [ImportSpec.plain "html".toList] else []) ++
          [ImportSpec.plain "io".toList] ++
          (if views then [ImportSpec.plain options.viewImport] else []) ++
            specs).eraseDups := by
  obtain ⟨file, hfile, rfl⟩ := generate_eq_ok_iff.mp hgenerate
  have hbody := body_of_file hfile
  obtain ⟨specs, hspecs, himports⟩ :=
    imports_eq_ok_iff.mp (imports_of_file hfile)
  have hitems :
      file.imports.items =
        (template.baseImports options ++ specs).eraseDups := by
    rw [himports]
    exact ImportSet.items_insertAll ImportSet.empty _
  have hio : ImportSpec.plain "io".toList ∈ template.baseImports options := by
    rw [baseImports_eq]
    exact List.mem_append_left _ (List.mem_append_right _ List.mem_cons_self)
  have hne : file.imports.items ≠ [] := by
    rw [hitems]
    exact List.ne_nil_of_mem
      (List.mem_eraseDups.mpr (List.mem_append_left specs hio))
  refine ⟨file, specs,
    Go.convertsWith "fmt.Sprintf".toList (template.emittedKinds options),
    Go.convertsWith "strconv.Itoa".toList (template.emittedKinds options),
    template.emittedKinds options ≠ [], options.generateView, hfile, hbody,
    ?_, hspecs, ?_, ?_, ?_, (ending_ne_nil_iff hfile).symm, ?_⟩
  · rw [Go.File.text_listing, Go.File.preamble_eq hne]
  · rw [hbody]
    exact Go.convertsWith_printKinds_iff (by decide)
  · rw [hbody]
    exact Go.convertsWith_printKinds_iff (by decide)
  · rw [hbody, decide_eq_true_eq]
    exact Go.printKinds_ne_nil_iff
  · rw [hitems, baseImports_eq]
    simp only [decide_eq_true_eq]

/-- A number is printed, and the header repeats an import of the code
itself. -/
theorem Template.generate_imports_what_it_calls_of_decimal :
    ∃ code, Template.generate [] { stringOptimisations := true }
        ⟨[47, 118, 47, 97], [⟨.print ['n'] .decimal, ⟨['a'], 1⟩⟩,
          ⟨.header ("import".toList ++
              ['(', '"', 'i', 'o', '"', ';', '"', 'o', 's', '"', ')']),
            ⟨['a'], 2⟩⟩]⟩ = .ok code ∧
      Import.specLines [.plain "strconv".toList, .plain "html".toList,
        .plain "io".toList, .plain "os".toList] <:+: code.text := by
  have hfirst : Import.Spec ['"', 'i', 'o', '"', ';', '"', 'o', 's', '"', ')']
      ⟨none, ['i', 'o']⟩ [';', '"', 'o', 's', '"', ')'] :=
    Import.importSpec_eq_ok_iff.mp rfl
  have hsecond :
      Import.Spec ['"', 'o', 's', '"', ')'] ⟨none, ['o', 's']⟩ [')'] :=
    Import.importSpec_eq_ok_iff.mp rfl
  have hitems := Import.GroupItems.item hfirst (.space (.inr rfl) (.none _))
    (.item hsecond (.none _) (.close []))
  have hends :
      Import.EndsIdentifier ['(', '"', 'i', 'o', '"', ';', '"', 'o', 's',
        '"', ')'] := by
    intro c hc
    cases hc
    rfl
  have hread :
      Import.ofFragment _ = .ok [⟨none, ['i', 'o']⟩, ⟨none, ['o', 's']⟩] :=
    Import.ofFragment_eq_ok_iff.mpr
      ⟨_, .none _,
        .step (.group hends (.none _) (.none _) hitems) (.none _) .finished⟩
  refine Exists.imp (fun code hgenerate => ⟨hgenerate, ?_⟩)
    ⟨_, Template.generate_eq_ok_iff.mpr ⟨_, Template.file_eq_ok_iff.mpr
      ⟨['v'], _, rfl, Template.imports_eq_ok_iff.mpr ⟨_, hread, rfl⟩, rfl⟩,
      rfl⟩⟩
  obtain ⟨file, specs, formats, converts, escapes, views, hfile, hbody,
    htext, hspecs, hformats, hconverts, hescapes, hviews, himports⟩ :=
    Template.generate_imports_what_it_calls hgenerate
  cases Except.ok.inj (hspecs.symm.trans hread)
  rw [hbody, ← Go.convertsWith_printKinds_iff (by decide)]
    at hformats hconverts
  rw [hbody, ← Go.printKinds_ne_nil_iff] at hescapes
  rw [Template.ending_ne_nil_iff hfile] at hviews
  have hformats : formats = false := by
    cases formats with
    | false => rfl
    | true => exact absurd (hformats.mp rfl) (by decide)
  have hviews : views = false := by
    cases views with
    | false => rfl
    | true => exact absurd (hviews.mp rfl) (by decide)
  rw [hformats, hconverts.mpr rfl, hescapes.mpr (by decide),
    hviews] at himports
  rw [htext, himports]
  have hinfix : ∀ before lines a b c d e : Text,
      lines <:+: before ++ lines ++ a ++ b ++ c ++ d ++ e :=
    fun before lines a b c d e =>
      ⟨before, a ++ b ++ c ++ d ++ e, by simp only [List.append_assoc]⟩
  exact hinfix _ _ _ _ _ _ _

end Stencil
