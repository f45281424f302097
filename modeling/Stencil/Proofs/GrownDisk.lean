import Stencil.Proofs.DirectoryWalk

/-!
# Disks with outputs

Generating code puts outputs next to templates.  An output is a file with a
name of its own kind, so a disk with more outputs has the same directories,
every path can be followed as before, and a path with another extension finds
what it found before.
-/

namespace Stencil
namespace Disk

/-- What the name of an output has behind that of its template. -/
def outputSuffix : Bytes :=
  Utf8.encode ".go".toList

theorem slash_notMem_outputSuffix : PathUnit.slash ∉ outputSuffix := by
  decide

def IsOutput (location : Location) : Prop :=
  ∃ directory name, name ≠ [] ∧ location = directory ++ [name ++ outputSuffix]

def outputExtension : Bytes :=
  Utf8.encode "go".toList

theorem extension?_of_output {path name : Bytes} (hne : name ≠ [])
    (hname : Path.fileName? path = some (name ++ outputSuffix)) :
    Path.extension? path = some outputExtension := by
  have hsuffix : outputSuffix = PathUnit.dot :: outputExtension := by decide
  have hwhole : splitWhere (· = PathUnit.dot) outputExtension =
      [outputExtension] := by decide
  have hsplit : splitWhere (· = PathUnit.dot) (name ++ outputSuffix) =
      splitWhere (· = PathUnit.dot) name ++ [outputExtension] := by
    rw [hsuffix, splitWhere_append_separator (by simp), hwhole]
  have hbefore : ¬ ((splitWhere (· = PathUnit.dot) name).reverse = [] ∨
      (splitWhere (· = PathUnit.dot) name).reverse = [[]]) := by
    have hlength := length_splitWhere (· = PathUnit.dot) name
    rintro (hnil | hempty)
    · rw [List.reverse_eq_nil_iff.mp hnil] at hlength
      simp at hlength
    · rw [List.reverse_eq_iff, List.reverse_singleton] at hempty
      rw [hempty] at hlength
      have hdots : ∀ byte ∈ name, decide (byte = PathUnit.dot) = false := by
        simpa [List.countP_eq_zero] using hlength
      rw [splitWhere_eq_singleton hdots] at hempty
      exact hne (List.singleton_inj.mp hempty)
  simp only [Path.extension?, hname, Option.bind_some, hsplit,
    List.reverse_concat, if_neg hbefore]

/-- The later disk has what the earlier one has, except for some outputs. -/
structure Grown (before after : Disk) : Prop where
  workingDirectory : after.workingDirectory = before.workingDirectory
  nodes : ∀ location, after.node? location = before.node? location ∨
    IsOutput location ∧ before.node? location ≠ some .directory ∧
      ∃ contents, after.node? location = some (.file contents)

namespace Grown

variable {before after : Disk}

theorem refl (disk : Disk) : Grown disk disk :=
  ⟨rfl, fun _ => .inl rfl⟩

theorem directory_iff (hgrown : Grown before after) {location : Location} :
    after.node? location = some .directory ↔
      before.node? location = some .directory := by
  rcases hgrown.nodes location with hsame | ⟨-, hother, contents, hfile⟩
  · rw [hsame]
  · simp [hfile, hother]

theorem withFile (hgrown : Grown before after) {location : Location}
    (houtput : IsOutput location)
    (hother : after.node? location ≠ some .directory) (contents : Bytes) :
    Grown before (after.withFile location contents) := by
  refine ⟨hgrown.workingDirectory, fun place => ?_⟩
  rw [node?_withFile hother]
  by_cases hplace : place = location
  · subst hplace
    exact .inr ⟨houtput, mt hgrown.directory_iff.mpr hother,
      contents, if_pos rfl⟩
  · rw [if_neg hplace]
    exact hgrown.nodes place

theorem foldlM_follow_iff (hgrown : Grown before after)
    {components : List Bytes} {location next : Location} :
    components.foldlM after.follow location = .ok next ↔
      components.foldlM before.follow location = .ok next := by
  induction components generalizing location with
  | nil => rfl
  | cons component components ih =>
      simp only [List.foldlM_cons, bind_eq_ok_iff, follow_eq_ok_iff,
        hgrown.directory_iff, ih]

theorem target_iff (hgrown : Grown before after) {path : Bytes}
    {location : Location} :
    after.target path = .ok location ↔ before.target path = .ok location := by
  rw [target_eq, target_eq, hgrown.foldlM_follow_iff, origin, origin,
    hgrown.workingDirectory]

theorem locate_directory_iff (hgrown : Grown before after) {path : Bytes}
    {location : Location} :
    after.locate path = .ok (location, .directory) ↔
      before.locate path = .ok (location, .directory) := by
  rw [locate_eq_ok_iff, locate_eq_ok_iff, hgrown.target_iff,
    hgrown.directory_iff]

theorem exists_write_iff (hgrown : Grown before after)
    {path contents : Bytes} :
    (∃ next, after.write path contents = .ok next) ↔
      ∃ next, before.write path contents = .ok next := by
  simp only [exists_write_eq_ok_iff, hgrown.target_iff,
    hgrown.directory_iff, ne_eq]

theorem node?_eq (hgrown : Grown before after) {location : Location}
    (hother : ¬ IsOutput location) :
    after.node? location = before.node? location := by
  rcases hgrown.nodes location with hsame | ⟨houtput, -⟩
  · exact hsame
  · exact absurd houtput hother

end Grown

/-! ## Paths with another extension -/

theorem not_isOutput_of_extension? {path name : Bytes}
    (hname : Path.fileName? path = some name)
    (hextension : Path.extension? path ≠ some outputExtension)
    (directory : Location) :
    ¬ IsOutput (directory ++ [name]) := by
  rintro ⟨parent, base, hne, hlocation⟩
  obtain ⟨-, hlast⟩ := List.append_inj' hlocation rfl
  rw [List.singleton_inj.mp hlast] at hname
  exact hextension (extension?_of_output hne hname)

theorem IsTree.not_isOutput {disk : Disk} (htree : disk.IsTree)
    {path contents : Bytes} {location : Location}
    (hlocate : disk.locate path = .ok (location, .file contents))
    (hextension : Path.extension? path ≠ some outputExtension) :
    ¬ IsOutput location := by
  obtain ⟨-, htarget, hnode⟩ := locate_eq_ok_iff.mp hlocate
  obtain ⟨directory, name, hnames, rfl⟩ :=
    htree.exists_namesEntry htarget (by rw [hnode]; simp)
  exact not_isOutput_of_extension? hnames.fileName?_eq hextension directory

/-- A walk may find a file whose path is too long to be followed, so this is
not an instance of the case above. -/
theorem IsTree.not_isOutput_found {disk : Disk} (htree : disk.IsTree)
    {path contents : Bytes} {directory relative : Location}
    (hdirectory : disk.node? directory = some .directory)
    (hnode : disk.node? (directory ++ relative) = some (.file contents))
    (hextension : Path.extension? (relative.foldl Path.child path) ≠
      some outputExtension) :
    ¬ IsOutput (directory ++ relative) := by
  rcases List.eq_nil_or_concat relative with rfl | ⟨rest, name, rfl⟩
  · rw [List.append_nil, hdirectory] at hnode
    cases hnode
  · have hname : IsEntryName name := htree.isEntryName hnode name (by simp)
    rw [List.concat_eq_append, List.foldl_append] at hextension
    rw [List.concat_eq_append, ← List.append_assoc]
    exact not_isOutput_of_extension? (fileName?_child _ hname) hextension _

namespace Grown

variable {before after : Disk}

theorem locate_file_iff (hgrown : Grown before after)
    (hbefore : before.IsTree) (hafter : after.IsTree) {path contents : Bytes}
    {location : Location}
    (hextension : Path.extension? path ≠ some outputExtension) :
    after.locate path = .ok (location, .file contents) ↔
      before.locate path = .ok (location, .file contents) := by
  constructor
  · intro hlocate
    have hother := hafter.not_isOutput hlocate hextension
    rw [locate_eq_ok_iff] at hlocate ⊢
    rwa [hgrown.target_iff, hgrown.node?_eq hother] at hlocate
  · intro hlocate
    have hother := hbefore.not_isOutput hlocate hextension
    rw [locate_eq_ok_iff] at hlocate ⊢
    rwa [hgrown.target_iff, hgrown.node?_eq hother]

theorem read_iff (hgrown : Grown before after) (hbefore : before.IsTree)
    (hafter : after.IsTree) {path contents : Bytes}
    (hextension : Path.extension? path ≠ some outputExtension) :
    after.read path = .ok contents ↔ before.read path = .ok contents := by
  simp only [read_eq_ok_iff, hgrown.locate_file_iff hbefore hafter hextension]

theorem mem_filesBelow_iff (hgrown : Grown before after)
    (hbefore : before.IsTree) (hafter : after.IsTree) {path found : Bytes}
    (hextension : Path.extension? found ≠ some outputExtension) :
    found ∈ after.filesBelow path ↔ found ∈ before.filesBelow path := by
  rw [hafter.mem_filesBelow, hbefore.mem_filesBelow]
  constructor
  · rintro ⟨directory, relative, contents, hlocate, hnode, hlength, rfl⟩
    have hdirectory := (locate_eq_ok_iff.mp hlocate).2.2
    rw [hgrown.node?_eq
        (hafter.not_isOutput_found hdirectory hnode hextension)] at hnode
    exact ⟨directory, relative, contents,
      hgrown.locate_directory_iff.mp hlocate, hnode, hlength, rfl⟩
  · rintro ⟨directory, relative, contents, hlocate, hnode, hlength, rfl⟩
    have hdirectory := (locate_eq_ok_iff.mp hlocate).2.2
    rw [← hgrown.node?_eq
        (hbefore.not_isOutput_found hdirectory hnode hextension)] at hnode
    exact ⟨directory, relative, contents,
      hgrown.locate_directory_iff.mpr hlocate, hnode, hlength, rfl⟩

end Grown

/-! ## Outputs of files -/

/-- The output of a file lies in the directory of the file, under a name that
ends as outputs do. -/
theorem IsTree.exists_output {disk : Disk} (htree : disk.IsTree)
    {path contents : Bytes} {output : Location}
    (hread : disk.read path = .ok contents)
    (htarget : disk.target (path ++ outputSuffix) = .ok output) :
    ∃ directory name,
      disk.node? (directory ++ [name]) = some (.file contents) ∧
      disk.target path = .ok (directory ++ [name]) ∧
      Path.fileName? path = some name ∧
      name ≠ [] ∧ output = directory ++ [name ++ outputSuffix] := by
  obtain ⟨location, hlocate⟩ := read_eq_ok_iff.mp hread
  obtain ⟨-, hfile, hnode⟩ := locate_eq_ok_iff.mp hlocate
  obtain ⟨directory, name, hnames, rfl⟩ :=
    htree.exists_namesEntry hfile (by rw [hnode]; simp)
  refine ⟨directory, name, hnode, hfile, hnames.fileName?_eq, ?_, ?_⟩
  · exact fun hnil => hnames.leaves (.inl hnil)
  · exact hnames.eq_of_target_append slash_notMem_outputSuffix
      (by decide) htarget

end Disk
end Stencil
