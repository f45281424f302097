import Stencil.Import.Set
import Stencil.Proofs.ImportGrammar

/-!
# Reading an import block back

An import block writes every path between double quotes and escapes nothing.
The reader also takes paths between back quotes, and these may contain a
double quote or a newline, which end a path between double quotes too early or
make it invalid.  So a block is read back as the imports that it was written
for exactly if no path contains one of these two characters.

That the condition suffices is shown by deriving the block with the grammar.
To see that it is necessary, the block is followed up to the first line whose
path does not fit between double quotes.  What is read on that line is some
other path, if the line can be read at all, and nothing that is read later
makes up for it.
-/

namespace Stencil

/-- The path can stand between double quotes as it is. -/
def ImportSpec.IsQuotable (spec : ImportSpec) : Prop :=
  '"' ∉ spec.path ∧ '\n' ∉ spec.path

namespace Import

/-- The import stands in some text that the reader accepts. -/
def Readable (spec : ImportSpec) : Prop :=
  ∃ text rest, Spec text spec rest

theorem GroupItems.readable {text rest : Text} {specs : List ImportSpec}
    (hitems : GroupItems text specs rest) : ∀ spec ∈ specs,
    Readable spec := by
  induction hitems with
  | close rest => simp
  | item hspec htrivia hitems ih =>
      exact List.forall_mem_cons.mpr ⟨⟨_, _, hspec⟩, ih⟩

theorem Declarations.readable {text : Text} {specs : List ImportSpec}
    (hdeclarations : Declarations text specs) : ∀ spec ∈ specs,
    Readable spec := by
  induction hdeclarations with
  | finished => simp
  | step hdeclaration htrivia hmore ih =>
      refine List.forall_mem_append.mpr ⟨?_, ih⟩
      cases hdeclaration with
      | single hends htrivia hspec =>
          exact List.forall_mem_singleton.mpr ⟨_, _, hspec⟩
      | group hends hopen htrivia hitems => exact hitems.readable

theorem readable_of_ofFragment {fragment : Text} {specs : List ImportSpec}
    (hread : ofFragment fragment = .ok specs) : ∀ spec ∈ specs,
    Readable spec := by
  obtain ⟨rest, -, hdeclarations⟩ := ofFragment_eq_ok_iff.mp hread
  exact hdeclarations.readable

/-! ## One import -/

section Spelling

variable {spec : ImportSpec}

theorem Readable.path_spec (hreadable : Readable spec) : spec.path ≠ [] ∧
    '\\' ∉ spec.path := by
  obtain ⟨text, rest, middle, -, hpath⟩ := hreadable
  cases hpath with
  | double hne hpath => exact ⟨hne, fun hmem => by simpa using hpath _ hmem⟩
  | back hne hpath => exact ⟨hne, fun hmem => by simpa using hpath _ hmem⟩

theorem Readable.localName_spelling (hreadable : Readable spec)
    (rest : Text) :
    LocalName (spec.spelling ++ rest) spec.localName
      ('"' :: (spec.path ++ '"' :: rest)) := by
  obtain ⟨text, after, middle, hname, -⟩ := hreadable
  obtain ⟨name, path⟩ := spec
  have hblank : ∀ c ∈ [' '], IsBlank c := by simp [IsBlank]
  cases hname with
  | absent middle =>
      have hspelling : ImportSpec.spelling ⟨none, path⟩ ++
          rest = '"' :: (path ++ '"' :: rest) := by
        simp [ImportSpec.spelling]
      rw [hspelling]
      exact .absent _
  | dot hblanks middle =>
      have hspelling : ImportSpec.spelling ⟨some ['.'], path⟩ ++ rest =
          '.' :: ([' '] ++ '"' :: (path ++ '"' :: rest)) := by
        simp [ImportSpec.spelling]
      rw [hspelling]
      exact .dot hblank _
  | @identifier name blanks middle hname hends hblanks =>
      have hspelling : ImportSpec.spelling ⟨some name, path⟩ ++ rest =
          name ++ ([' '] ++ '"' :: (path ++ '"' :: rest)) := by
        simp [ImportSpec.spelling]
      rw [hspelling]
      refine .identifier hname ?_ hblank
      intro c hc
      cases hc
      rfl

theorem Readable.spec_spelling (hreadable : Readable spec)
    (hquotable : spec.IsQuotable) (rest : Text) :
    Spec (spec.spelling ++ rest) spec rest := by
  obtain ⟨hne, hescape⟩ := hreadable.path_spec
  refine ⟨_, hreadable.localName_spelling rest, .double hne ?_⟩
  intro c hc hmem
  simp only [List.mem_cons, List.not_mem_nil, or_false] at hmem
  rcases hmem with rfl | rfl | rfl
  · exact hquotable.1 hc
  · exact hescape hc
  · exact hquotable.2 hc

/-- If the spelling of an import is read as this import, its path was read
from double quotes. -/
theorem Readable.isQuotable_of_spelling (hreadable : Readable spec)
    {rest after : Text} (hspec : Spec (spec.spelling ++ rest) spec after) :
    spec.IsQuotable ∧ after = rest := by
  obtain ⟨middle, hname, hpath⟩ := hspec
  obtain ⟨c, inner, rfl, hquote⟩ := hpath.exists_quote
  have hlocal := hname.localName_eq hquote
  rw [(hreadable.localName_spelling rest).localName_eq (.inl rfl)] at hlocal
  have hmiddle : c :: inner = '"' :: (spec.path ++ '"' :: rest) :=
    (congrArg Prod.snd hlocal).symm
  rw [hmiddle] at hpath
  generalize htext : '"' :: (spec.path ++ '"' :: rest) = text at hpath
  cases hpath with
  | double hne hpath =>
      have hafter : rest = after := by simpa using htext
      refine ⟨⟨fun hmem => ?_, fun hmem => ?_⟩, hafter.symm⟩
      · simpa using hpath _ hmem
      · simpa using hpath _ hmem
  | back hne hpath => cases htext

end Spelling

/-! ## A group of imports -/

/-- The lines of imports in a group.  Each has a tab, the local name and a
blank if there is a local name, and the path between double quotes. -/
def specLines (specs : List ImportSpec) : Text :=
  specs.flatMap fun spec =>
    '\t' :: spec.localName.elim [] (· ++ [' ']) ++
      '"' :: spec.path ++ ['"', '\n']

theorem specLines_eq (specs : List ImportSpec) :
    specLines specs = specs.flatMap fun spec =>
      '\t' :: spec.spelling ++ ['\n'] := by
  unfold specLines
  congr 1
  funext spec
  cases hname : spec.localName <;> simp [ImportSpec.spelling, hname]

theorem specLines_cons (spec : ImportSpec) (specs : List ImportSpec)
    (rest : Text) :
    specLines (spec :: specs) ++ rest =
      '\t' :: (spec.spelling ++ '\n' :: (specLines specs ++ rest)) := by
  simp [specLines_eq]

theorem importGroup_specLines {specs : List ImportSpec}
    (hreadable : ∀ spec ∈ specs, Readable spec)
    (hquotable : ∀ spec ∈ specs, spec.IsQuotable) (rest : Text) :
    importGroup (specLines specs ++ ')' :: rest) = .ok (specs, rest) := by
  induction specs with
  | nil => exact (GroupItems.close rest).importGroup_eq_ok
  | cons spec specs ih =>
      obtain ⟨hread, hreadable⟩ := List.forall_mem_cons.mp hreadable
      obtain ⟨hquote, hquotable⟩ := List.forall_mem_cons.mp hquotable
      obtain ⟨inner, htrivia, hitems⟩ :=
        exists_groupItems (ih hreadable hquotable)
      have hspec :=
        hread.spec_spelling hquote ('\n' :: (specLines specs ++ ')' :: rest))
      rw [specLines_cons, importGroup_of_trivia (.space (.inl rfl) (.none _))]
      exact (GroupItems.item hspec (.space (.inl rfl) htrivia)
        hitems).importGroup_eq_ok

/-- If a group is read as imports that it starts with, it has been read line
by line, since on a line that is not read as it was meant another path is
read. -/
theorem isQuotable_of_importGroup {specs read : List ImportSpec}
    {text rest : Text} (hreadable : ∀ spec ∈ specs, Readable spec)
    (hread : importGroup (specLines specs ++ text) = .ok (read, rest))
    (hstarts : read <+: specs) : ∀ spec ∈ specs, spec.IsQuotable := by
  induction specs generalizing read with
  | nil => simp
  | cons spec specs ih =>
      obtain ⟨hhead, htail⟩ := List.forall_mem_cons.mp hreadable
      obtain ⟨d, inner, hinner, hsolid, -, hclose⟩ :=
        (hhead.localName_spelling
          ('\n' :: (specLines specs ++ text))).exists_head (.inl rfl)
      rw [specLines_cons, importGroup_of_trivia (.space (.inl rfl) (.none _)),
        hinner, importGroup_eq, skipTrivia_of_isSolid hsolid] at hread
      simp only [if_neg hclose] at hread
      split at hread
      · cases hread
      · rename_i other middle hspec
        split at hread
        · rename_i others after hgroup
          cases hread
          obtain ⟨rfl, hothers⟩ := List.cons_prefix_cons.mp hstarts
          rw [← hinner, importSpec_eq_ok_iff] at hspec
          obtain ⟨hquotable, rfl⟩ := hhead.isQuotable_of_spelling hspec
          rw [importGroup_of_trivia (.space (.inl rfl) (.none _))] at hgroup
          exact List.forall_mem_cons.mpr ⟨hquotable, ih htail hgroup hothers⟩
        · cases hread

/-! ## The block -/

theorem declaration_block (text : Text) :
    declaration ("import (\n".toList ++ text) = importGroup text := by
  have hends : EndsIdentifier (' ' :: '(' :: '\n' :: text) := by
    intro c hc
    cases hc
    rfl
  have hopen : Trivia (' ' :: '(' :: '\n' :: text) ('(' :: '\n' :: text) :=
    .space (.inl rfl) (.none _)
  have hgroup := declaration_group hends hopen
  rw [importGroup_of_trivia (.space (.inl rfl) (.none text))] at hgroup
  exact hgroup

theorem exists_declaration_of_declarations {after : Text}
    {specs : List ImportSpec}
    (hread : declarations ('i' :: after) = .ok specs) :
    ∃ read rest, declaration ('i' :: after) = .ok (read, rest) ∧
      read <+: specs := by
  rw [declarations_eq, skipTrivia_import] at hread
  simp only at hread
  split at hread
  · cases hread
  · rename_i read rest hdeclaration
    split at hread
    · cases hread
      exact ⟨read, rest, hdeclaration, List.prefix_append _ _⟩
    · cases hread

theorem ofFragment_block_iff {specs : List ImportSpec}
    (hreadable : ∀ spec ∈ specs, Readable spec) :
    ofFragment ("import (\n".toList ++ (specLines specs ++ ")\n".toList)) =
      .ok specs ↔
      ∀ spec ∈ specs, spec.IsQuotable := by
  have hblock := declaration_block (specLines specs ++ ")\n".toList)
  rw [ofFragment_eq_ok_iff, ← declarations_eq_ok_iff]
  constructor
  · intro hread
    obtain ⟨read, rest, hdeclaration, hstarts⟩ :=
      exists_declaration_of_declarations hread
    exact isQuotable_of_importGroup hreadable
      (hblock.symm.trans hdeclaration) hstarts
  · intro hquotable
    have hgroup := importGroup_specLines hreadable hquotable ['\n']
    have hdeclaration := declaration_eq_ok_iff.mp (hblock.trans hgroup)
    rw [declarations_step hdeclaration,
      declarations_of_trivia (.space (.inl rfl) (.none [])), declarations_nil]
    simp [Except.map]

end Import

theorem ImportSet.block_eq {set : ImportSet} (hne : set.items ≠ []) :
    set.block =
      "import (\n".toList ++
        (Import.specLines set.items ++ ")\n".toList) := by
  rw [block, if_neg hne, List.append_assoc, Import.specLines_eq]

theorem ImportSet.ofFragment_block_eq_ok_iff {set : ImportSet}
    (hreadable : ∀ spec ∈ set.items, Import.Readable spec) :
    Import.ofFragment set.block = .ok set.items ↔
      ∀ spec ∈ set.items, spec.IsQuotable := by
  by_cases hempty : set.items = []
  · have hblock : set.block = [] := if_pos hempty
    rw [hblock, Import.ofFragment_nil, hempty]
    simp
  · rw [block_eq hempty]
    exact Import.ofFragment_block_iff hreadable

/-- The block that is written for the imports of a fragment is read back as
these imports, later repetitions left out, exactly if every path can stand
between double quotes. -/
theorem ImportSet.block_means_imports_iff {fragment : Text}
    {specs : List ImportSpec}
    (hread : Import.ofFragment fragment = .ok specs) :
    (ImportSet.empty.insertAll specs).items = specs.eraseDups ∧
      (Import.ofFragment (ImportSet.empty.insertAll specs).block =
          .ok (ImportSet.empty.insertAll specs).items ↔
        ∀ spec ∈ specs, '"' ∉ spec.path ∧ '\n' ∉ spec.path) := by
  have hitems : (ImportSet.empty.insertAll specs).items = specs.eraseDups :=
    items_insertAll ImportSet.empty specs
  have hmem : ∀ spec, spec ∈ (ImportSet.empty.insertAll specs).items ↔
      spec ∈ specs := by
    intro spec
    rw [hitems, List.mem_eraseDups]
  refine ⟨hitems, ?_⟩
  rw [ofFragment_block_eq_ok_iff]
  · simp only [hmem]
    rfl
  · intro spec hspec
    exact Import.readable_of_ofFragment hread spec ((hmem spec).mp hspec)

theorem ImportSet.block_means_imports_iff_of_repetition :
    Import.ofFragment
        ("import".toList ++
          ['(', 'm', ' ', '"', 'a', '"', ';', 'm', ' ', '\x60', 'a',
            '\x60', ')']) =
      .ok [⟨some ['m'], ['a']⟩, ⟨some ['m'], ['a']⟩] ∧
    Import.ofFragment
        (ImportSet.empty.insertAll [⟨some ['m'], ['a']⟩,
          ⟨some ['m'], ['a']⟩]).block =
      .ok [⟨some ['m'], ['a']⟩] := by
  have hfirst : Import.Spec
      ['m', ' ', '"', 'a', '"', ';', 'm', ' ', '\x60', 'a', '\x60', ')']
        ⟨some ['m'], ['a']⟩
      [';', 'm', ' ', '\x60', 'a', '\x60', ')'] :=
    Import.importSpec_eq_ok_iff.mp rfl
  have hsecond :
      Import.Spec ['m', ' ', '\x60', 'a', '\x60', ')']
        ⟨some ['m'], ['a']⟩ [')'] :=
    Import.importSpec_eq_ok_iff.mp rfl
  have hitems := Import.GroupItems.item hfirst (.space (.inr rfl) (.none _))
    (.item hsecond (.none _) (.close []))
  have hends : Import.EndsIdentifier
      ['(', 'm', ' ', '"', 'a', '"', ';', 'm', ' ', '\x60', 'a',
        '\x60', ')'] := by
    intro c hc
    cases hc
    rfl
  have hdeclaration :=
    Import.Declaration.group hends (.none _) (.none _) hitems
  have hread :
      Import.ofFragment _ = .ok [⟨some ['m'], ['a']⟩, ⟨some ['m'], ['a']⟩] :=
    Import.ofFragment_eq_ok_iff.mpr
      ⟨_, .none _, .step hdeclaration (.none _) .finished⟩
  obtain ⟨-, hblock⟩ := block_means_imports_iff hread
  exact ⟨hread, hblock.mpr (by decide)⟩

/-- A path between back quotes may contain a double quote and a newline.  Its
block imports two other packages. -/
theorem ImportSet.block_of_quote_and_newline :
    Import.ofFragment
        ("import".toList ++ [' ', '\x60', 'a', '"', '\n', '"', 'b', '\x60']) =
      .ok [⟨none, ['a', '"', '\n', '"', 'b']⟩] ∧
    (ImportSet.empty.insertAll [⟨none, ['a', '"', '\n', '"', 'b']⟩]).items =
      [⟨none, ['a', '"', '\n', '"', 'b']⟩] ∧
    Import.ofFragment
        (ImportSet.empty.insertAll
          [⟨none, ['a', '"', '\n', '"', 'b']⟩]).block =
      .ok [⟨none, ['a']⟩, ⟨none, ['b']⟩] := by
  have hends :
      Import.EndsIdentifier [' ', '\x60', 'a', '"', '\n', '"', 'b',
        '\x60'] := by
    intro c hc
    cases hc
    rfl
  have hspec : Import.Spec ['\x60', 'a', '"', '\n', '"', 'b', '\x60']
      ⟨none, ['a', '"', '\n', '"', 'b']⟩ [] :=
    Import.importSpec_eq_ok_iff.mp rfl
  have hfirst :
      Import.Spec ['"', 'a', '"', '\n', '"', 'b', '"', '\n', ')', '\n']
        ⟨none, ['a']⟩ ['\n', '"', 'b', '"', '\n', ')', '\n'] :=
    Import.importSpec_eq_ok_iff.mp rfl
  have hsecond : Import.Spec ['"', 'b', '"', '\n', ')', '\n'] ⟨none, ['b']⟩
      ['\n', ')', '\n'] :=
    Import.importSpec_eq_ok_iff.mp rfl
  have hitems := Import.GroupItems.item hfirst (.space (.inl rfl) (.none _))
    (.item hsecond (.space (.inl rfl) (.none _)) (.close ['\n']))
  have htab :
      Import.Trivia
        ('\t' :: ['"', 'a', '"', '\n', '"', 'b', '"', '\n', ')', '\n']) _ :=
    .space (.inl rfl) (.none _)
  have hblock := Import.declaration_block
    ('\t' :: ['"', 'a', '"', '\n', '"', 'b', '"', '\n', ')', '\n'])
  rw [Import.importGroup_of_trivia htab, hitems.importGroup_eq_ok] at hblock
  have hsingle :=
    Import.Declaration.single hends (.space (.inl rfl) (.none _)) hspec
  refine ⟨Import.ofFragment_eq_ok_iff.mpr
    ⟨_, .none _, .step hsingle (.none _) .finished⟩, rfl, ?_⟩
  exact Import.ofFragment_eq_ok_iff.mpr ⟨_, .none _,
    .step (Import.declaration_eq_ok_iff.mp hblock)
      (.space (.inl rfl) (.none _)) .finished⟩

end Stencil
