import Stencil.Proofs.Scanning
import Stencil.Proofs.SourceMappings
import Stencil.Proofs.Utf8
import Stencil.Proofs.Utf8Decoding

/-!
# Spellings of a path

A file can be reached under many paths.  Its code sees the path in three
places: the package is the directory of the resolved path, the names come from
the file name, and line directives show the file name once more, this time
read off the path as text.  Reading a path as text never moves a slash or a
dot, so the two file names are the same one, and two paths with one resolution
and one file name yield the same code.
-/

namespace Stencil

/-! ## Paths as text -/

namespace Path

theorem splitWhere_decodeLossy (path : Bytes) :
    splitWhere (· = PathUnit.slash) (Utf8.decodeLossy path) =
      (splitWhere (· = PathUnit.slash) path).map Utf8.decodeLossy := by
  -- The induction is on the length, since a slash leaves two shorter paths.
  induction hlength : path.length using Nat.strongRecOn generalizing path with
  | _ length ih =>
      subst hlength
      by_cases hslash : PathUnit.slash ∈ path
      · obtain ⟨before, after, rfl⟩ := List.append_of_mem hslash
        have hdecode : Utf8.decodeLossy (before ++ PathUnit.slash :: after) =
            Utf8.decodeLossy before ++
              PathUnit.slash :: Utf8.decodeLossy after :=
          Utf8.decodeLossy_append_ascii (by decide) before after
        rw [hdecode, splitWhere_append_separator (by simp),
          splitWhere_append_separator (by simp), List.map_append,
          ih before.length (by simp) before rfl,
          ih after.length (by simp; omega) after rfl]
      · have hnone : PathUnit.slash ∉ Utf8.decodeLossy path := by
          intro hmem
          exact hslash
            (Utf8.encode_subset_of_mem_decodeLossy hmem (by decide)
              (by decide))
        rw [splitWhere_of_notMem hnone, splitWhere_of_notMem hslash]
        rfl

/-- Dots are the only text that decodes to dots. -/
theorem decodeLossy_eq_dots_iff {component : Bytes} {dots : Text}
    (hdots : ∀ c ∈ dots, c = '.') :
    Utf8.decodeLossy component = dots ↔ component = Utf8.encode dots := by
  refine Utf8.decodeLossy_eq_iff fun hmem => ?_
  cases hdots _ hmem

theorem components_decodeLossy (path : Bytes) :
    components (Utf8.decodeLossy path) =
      (components path).map Utf8.decodeLossy := by
  rw [components, components, splitWhere_decodeLossy, List.filter_map]
  congr 1
  refine List.filter_congr fun component _ => ?_
  have hnil : Utf8.decodeLossy component = [] ↔ component = [] :=
    decodeLossy_eq_dots_iff (by simp)
  have hdot : Utf8.decodeLossy component = [PathUnit.dot] ↔
      component = [PathUnit.dot] :=
    decodeLossy_eq_dots_iff (by simp [PathUnit.dot])
  simp only [Function.comp_apply, ne_eq, hnil, hdot]

theorem fileName?_decodeLossy (path : Bytes) :
    fileName? (Utf8.decodeLossy path) =
      (fileName? path).map Utf8.decodeLossy := by
  rw [fileName?, fileName?, components_decodeLossy, List.getLast?_map]
  cases (components path).getLast? with
  | none => rfl
  | some component =>
      have hup : Utf8.decodeLossy component = above ↔ component = above :=
        decodeLossy_eq_dots_iff (by simp [above, PathUnit.dot])
      rw [Option.map_some, Option.filter_some, Option.filter_some]
      by_cases habove : component = above
      · rw [if_neg (by simpa using hup.mpr habove),
          if_neg (by simpa using habove)]
        rfl
      · simp [mt hup.mp habove, habove]

end Path

/-! ## Blocks in another file -/

def Position.inFile (path : Text) (position : Position) : Position :=
  { position with path := path }

def Block.inFile (path : Text) (block : Block) : Block :=
  { block with position := block.position.inFile path }

def Go.Statement.inFile (path : Text) (statement : Go.Statement) :
    Go.Statement :=
  { statement with position := statement.position.inFile path }

theorem Placed.inFile {path : Text} {typesafe : Bool} {line : Nat}
    {segments : List Segment} {blocks : List Block}
    (hplaced : Placed path typesafe line segments blocks) (other : Text) :
    Placed other typesafe line segments
      (blocks.map (Block.inFile other)) := by
  induction hplaced with
  | nil line => exact .nil line
  | cons hmeans hplaced ih => exact .cons hmeans ih

theorem Placed.path_eq {path : Text} {typesafe : Bool} {line : Nat}
    {segments : List Segment} {blocks : List Block}
    (hplaced : Placed path typesafe line segments blocks) :
    ∀ block ∈ blocks, block.position.path = path := by
  induction hplaced with
  | nil line => simp
  | cons hmeans hplaced ih => simpa using ih

theorem Block.header?_inFile (path : Text) (block : Block) :
    (block.inFile path).header? =
      block.header?.map fun header => (header.1, header.2.inFile path) := by
  obtain ⟨item, position⟩ := block
  cases item <;> rfl

theorem Go.Statement.ofBlock?_inFile (options : Options) (path : Text)
    (block : Block) :
    Go.Statement.ofBlock? options (block.inFile path) =
      (Go.Statement.ofBlock? options block).map
        (Go.Statement.inFile path) := by
  obtain ⟨item, position⟩ := block
  cases item with
  | text content =>
      rw [Block.inFile, Go.Statement.ofBlock?_text,
        Go.Statement.ofBlock?_text]
      split <;> rfl
  | _ => rfl

/-! ## The same file name shows -/

theorem Position.lineDirective?_inFile {position : Position}
    {other name : Text} (hname : Path.fileName? position.path = some name)
    (hother : Path.fileName? other = some name) (hpath : position.path ≠ [])
    (hne : other ≠ []) :
    (position.inFile other).lineDirective? = position.lineDirective? := by
  have hlabel : (position.inFile other).fileLabel = position.fileLabel := by
    simp only [fileLabel, inFile, hname, hother, Option.getD_some]
  have hdirective :
      (position.inFile other).lineDirective = position.lineDirective := by
    have hline : (position.inFile other).line = position.line := rfl
    unfold lineDirective
    rw [hlabel, hline]
  rw [lineDirective?, lineDirective?, hdirective]
  simp only [IsKnown, inFile, ne_eq, hpath, hne]

theorem Go.Statement.writeTo_inFile (debug : Bool) (listing : Listing)
    {statement : Go.Statement} {other name : Text}
    (hname : Path.fileName? statement.position.path = some name)
    (hother : Path.fileName? other = some name)
    (hpath : statement.position.path ≠ []) (hne : other ≠ []) :
    (statement.inFile other).writeTo debug listing =
      statement.writeTo debug listing := by
  have hdirective : (statement.inFile other).directive? debug =
      statement.directive? debug := by
    unfold directive?
    rw [inFile, Position.lineDirective?_inFile hname hother hpath hne]
  have hmapped (listing : Listing) (text : Text) :
      listing.pushMapped text (statement.position.inFile other) =
        listing.pushMapped text statement.position := by
    simp [Listing.pushMapped, Position.IsKnown, Position.inFile, hpath, hne]
  unfold writeTo
  rw [hdirective]
  simp only [inFile, hmapped]

theorem Go.File.listing_inFile (debug : Bool) {file : Go.File}
    {path other name : Text}
    (hbody : ∀ statement ∈ file.body, statement.position.path = path)
    (hname : Path.fileName? path = some name)
    (hother : Path.fileName? other = some name) (hpath : path ≠ [])
    (hne : other ≠ []) :
    Go.File.listing debug
        { file with body := file.body.map (Go.Statement.inFile other) } =
      file.listing debug := by
  have hfold (listing : Listing) (body : List Go.Statement)
      (hbody : ∀ statement ∈ body, statement.position.path = path) :
      (body.map (Go.Statement.inFile other)).foldl
        (Go.Statement.writeTo debug) listing =
        body.foldl (Go.Statement.writeTo debug) listing := by
    induction body generalizing listing with
    | nil => rfl
    | cons statement body ih =>
        obtain rfl := hbody statement (by simp)
        rw [List.map_cons, List.foldl_cons, List.foldl_cons,
          Go.Statement.writeTo_inFile debug listing hname hother hpath hne]
        exact ih _ fun later hlater => hbody later (by simp [hlater])
  unfold listing
  simp only
  rw [hfold _ _ hbody]
  rfl

/-! ## The code of a template -/

def Template.inFile (path : Bytes) (template : Template) : Template :=
  ⟨path, template.blocks.map (Block.inFile (Utf8.decodeLossy path))⟩

theorem Template.parameters_inFile (path : Bytes) (template : Template) :
    (template.inFile path).parameters = template.parameters := by
  rw [parameters, inFile, List.filterMap_map]
  rfl

theorem Template.prints_inFile (path : Bytes) (template : Template) :
    (template.inFile path).prints = template.prints := by
  rw [prints, inFile, List.filterMap_map]
  rfl

theorem Template.headerFragment_inFile (path : Bytes) (template : Template) :
    (template.inFile path).headerFragment = template.headerFragment := by
  rw [headerFragment, headerFragment, headers, headers, inFile,
    List.filterMap_map, List.map_filterMap, List.map_filterMap]
  congr 2
  funext block
  rw [Function.comp_apply, Block.header?_inFile, Option.map_map]
  rfl

theorem Template.statements_inFile (options : Options) (path : Bytes)
    (template : Template) :
    (template.inFile path).blocks.filterMap (Go.Statement.ofBlock? options) =
      (template.blocks.filterMap (Go.Statement.ofBlock? options)).map
        (Go.Statement.inFile (Utf8.decodeLossy path)) := by
  rw [inFile, List.filterMap_map, List.map_filterMap]
  congr 1
  funext block
  exact Go.Statement.ofBlock?_inFile options _ block

theorem Template.functionName_inFile {path : Bytes} {template : Template}
    (hname : Path.fileName? path = Path.fileName? template.path) :
    (template.inFile path).functionName = template.functionName := by
  have hfile : (template.inFile path).fileName = template.fileName := by
    simp only [fileName, inFile, hname]
  rw [functionName, functionName, name, name, hfile]

theorem Template.package?_inFile {workingDirectory : List Bytes}
    {path : Bytes} {template : Template} (hne : path ≠ [])
    (hpath : template.path ≠ [])
    (hresolve : Path.resolve workingDirectory path =
      Path.resolve workingDirectory template.path) :
    (template.inFile path).package? workingDirectory =
      template.package? workingDirectory := by
  simp only [package?, inFile, hne, hpath, if_false, hresolve]

theorem Template.file_inFile {workingDirectory : List Bytes}
    {options : Options} {path : Bytes} {template : Template} {file : Go.File}
    (hview : options.generateView = false) (hne : path ≠ [])
    (hresolve : Path.resolve workingDirectory path =
      Path.resolve workingDirectory template.path)
    (hname : Path.fileName? path = Path.fileName? template.path)
    (hfile : template.file workingDirectory options = .ok file) :
    (template.inFile path).file workingDirectory options =
      .ok { file with
        body :=
          file.body.map (Go.Statement.inFile (Utf8.decodeLossy path)) } := by
  obtain ⟨package, imports, hpackage, himports, rfl⟩ :=
    file_eq_ok_iff.mp hfile
  obtain ⟨specs, hspecs, rfl⟩ := imports_eq_ok_iff.mp himports
  have hbase : (template.inFile path).baseImports options =
      template.baseImports options := by
    simp only [baseImports, prints_inFile]
  refine file_eq_ok_iff.mpr
    ⟨package, _, ?_, imports_eq_ok_iff.mpr ⟨specs, ?_, rfl⟩, ?_⟩
  · rw [package?_inFile hne (path_ne_nil_of_package? hpackage) hresolve,
      hpackage]
  · rw [headerFragment_inFile, hspecs]
  · rw [functionName_inFile hname, parameters_inFile, filterMap_body,
      filterMap_body, statements_inFile, hbase]
    simp only [viewFactory?, hview]
    rfl

/-- Two paths with one resolution and one file name yield the same code, as no
view shows the path itself. -/
theorem compile_of_spelling {workingDirectory : List Bytes}
    {options : Options} {path other name : Bytes} {source : Text}
    {code : Code} (hview : options.generateView = false)
    (hname : Path.fileName? path = some name)
    (hother : Path.fileName? other = some name)
    (hresolve : Path.resolve workingDirectory other =
      Path.resolve workingDirectory path)
    (hcompile : compile workingDirectory options path source = .ok code) :
    compile workingDirectory options other source = .ok code := by
  obtain ⟨⟨place, blocks⟩, file, hparse, hfile, rfl⟩ :=
    compile_eq_ok_iff.mp hcompile
  obtain ⟨segments, hrun, hplaced⟩ := parse_eq_ok_placed hparse
  obtain ⟨rfl, -⟩ :=
    Template.ofSource_eq_ok_iff.mp (parse_eq_ok_iff.mp hparse)
  have hne {path : Bytes} (hname : Path.fileName? path = some name) :
      path ≠ [] := by
    rintro rfl
    cases hname
  have hparse' := parse_of_run hrun (hplaced.inFile (Utf8.decodeLossy other))
  have hfile' :=
    Template.file_inFile hview (hne hother) hresolve
      (hother.trans hname.symm) hfile
  refine compile_eq_ok_iff.mpr ⟨_, _, hparse', hfile', ?_⟩
  have htext {path : Bytes} (hname : Path.fileName? path = some name) :
      Path.fileName? (Utf8.decodeLossy path) =
        some (Utf8.decodeLossy name) := by
    rw [Path.fileName?_decodeLossy, hname]
    rfl
  rw [Go.File.listing_inFile options.debug ?_ (htext hname) (htext hother)
    (Utf8.decodeLossy_ne_nil (hne hname))
    (Utf8.decodeLossy_ne_nil (hne hother))]
  rw [Template.body_of_file hfile]
  intro statement hstatement
  obtain ⟨block, hblock, hof⟩ := List.mem_filterMap.mp hstatement
  rw [Block.position_of_ofBlock? hof]
  exact hplaced.path_eq block hblock

end Stencil
