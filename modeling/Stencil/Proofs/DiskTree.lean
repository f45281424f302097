import Mathlib.Data.List.Basic
import Stencil.Disk.Basic
import Stencil.Proofs.Lines

/-!
# Trees on a disk

The nodes of a disk form a tree if every node lies in a directory and no two
nodes have the same location.  Writing a file keeps a tree a tree, and it
changes the node at one location only.

A path that can be followed leads to its lexical resolution, since there are
no links.  If it does not lead to a directory, then its last component is an
ordinary name: dots lead from a directory to a directory.  So a path to a file
names an entry of a directory, and what is appended to the path is appended to
the name.
-/

namespace Stencil

/-- The name can be that of an entry of a directory. -/
def IsEntryName (name : Bytes) : Prop :=
  name ≠ [] ∧ name ≠ [PathUnit.dot] ∧ name ≠ Path.above ∧
    PathUnit.slash ∉ name ∧ 0 ∉ name ∧
    name.length ≤ FileSystem.nameLimit

instance (name : Bytes) : Decidable (IsEntryName name) :=
  inferInstanceAs (Decidable (_ ∧ _))

namespace Disk

def locations (disk : Disk) : List Location :=
  disk.nodes.map Prod.fst

structure IsTree (disk : Disk) : Prop where
  names : ∀ location ∈ disk.locations,
      location ≠ [] ∧ ∀ name ∈ location, IsEntryName name
  parents : ∀ location ∈ disk.locations,
      disk.node? location.dropLast = some .directory
  distinct : disk.locations.Nodup

instance (disk : Disk) : Decidable disk.IsTree :=
  decidable_of_iff
    ((∀ location ∈ disk.locations,
        location ≠ [] ∧ ∀ name ∈ location, IsEntryName name) ∧
      (∀ location ∈ disk.locations,
        disk.node? location.dropLast = some .directory) ∧
      disk.locations.Nodup)
    ⟨fun h => ⟨h.1, h.2.1, h.2.2⟩, fun h => ⟨h.names, h.parents, h.distinct⟩⟩

variable {disk : Disk}

theorem node?_root (disk : Disk) : disk.node? [] = some .directory :=
  if_pos rfl

theorem mem_nodes_of_node? {location : Location} {node : Node}
    (hnode : disk.node? location = some node) (hne : location ≠ []) :
    (location, node) ∈ disk.nodes := by
  rw [node?, if_neg hne] at hnode
  obtain ⟨before, after, hnodes, -⟩ := List.lookup_eq_some_iff.mp hnode
  rw [hnodes]
  simp

theorem mem_locations_of_node? {location : Location} {node : Node}
    (hnode : disk.node? location = some node) (hne : location ≠ []) :
    location ∈ disk.locations :=
  List.mem_map_of_mem (mem_nodes_of_node? hnode hne)

theorem IsTree.node?_of_mem (htree : disk.IsTree) {location : Location}
    {node : Node} (hmem : (location, node) ∈ disk.nodes) :
    disk.node? location = some node := by
  rw [node?, if_neg (htree.names _ (List.mem_map_of_mem hmem)).1]
  obtain ⟨before, after, hnodes⟩ := List.append_of_mem hmem
  refine List.lookup_eq_some_iff.mpr ⟨before, after, hnodes, ?_⟩
  intro entry hentry
  have hdistinct := htree.distinct
  rw [locations, hnodes, List.map_append, List.nodup_append] at hdistinct
  have hother :=
    hdistinct.2.2 entry.1 (List.mem_map_of_mem hentry) location (by simp)
  simpa using Ne.symm hother

theorem IsTree.parent (htree : disk.IsTree) {location : Location}
    {node : Node} (hnode : disk.node? location = some node) :
    disk.node? location.dropLast = some .directory := by
  by_cases hne : location = []
  · rw [hne]
    exact node?_root disk
  · exact htree.parents _ (mem_locations_of_node? hnode hne)

theorem IsTree.isEntryName (htree : disk.IsTree) {location : Location}
    {node : Node} (hnode : disk.node? location = some node) :
    ∀ name ∈ location, IsEntryName name := by
  by_cases hne : location = []
  · simp [hne]
  · exact (htree.names _ (mem_locations_of_node? hnode hne)).2

/-! ## Following paths -/

/-- The component stays in the directory. -/
def Stays (component : Bytes) : Prop :=
  component = [] ∨ component = [PathUnit.dot]

theorem follow_eq_ok_iff {location next : Location} {component : Bytes} :
    disk.follow location component = .ok next ↔
      disk.node? location = some .directory ∧
        (Stays component ∧ next = location ∨
          ¬ Stays component ∧ component.length ≤ FileSystem.nameLimit ∧
            next = Path.enter location component) := by
  unfold follow Stays
  cases hnode : disk.node? location with
  | none => simp
  | some node =>
      cases node with
      | file contents => simp
      | directory =>
          by_cases hstays : component = [] ∨ component = [PathUnit.dot]
          · simp [hstays, eq_comm]
          · by_cases hlong : FileSystem.nameLimit < component.length
            · simp [hstays, hlong, Nat.not_le.mpr hlong]
            · simp [hstays, hlong, Nat.le_of_not_lt hlong, eq_comm]

/-- The pieces of a path between its slashes. -/
def pieces (path : Bytes) : List Bytes :=
  splitWhere (· = PathUnit.slash) path

theorem exists_pieces_eq_concat (path : Bytes) :
    ∃ before piece, pieces path = before ++ [piece] :=
  exists_splitWhere_eq_concat path

theorem target_eq (disk : Disk) (path : Bytes) :
    disk.target path =
      (pieces path).foldlM disk.follow (disk.origin path) := by
  obtain ⟨before, piece, hpieces⟩ := exists_pieces_eq_concat path
  have hsplit : splitWhere (· = PathUnit.slash) path = before ++ [piece] :=
    hpieces
  simp only [target, hsplit, hpieces, List.dropLast_concat,
    List.getLast?_concat, Option.getD_some, List.foldlM_append]
  cases before.foldlM disk.follow (disk.origin path) with
  | error fault => rfl
  | ok directory => exact (bind_pure (disk.follow directory piece)).symm

theorem locate_eq_ok_iff {path : Bytes} {location : Location} {node : Node} :
    disk.locate path = .ok (location, node) ↔
      FileSystem.spellingFault? path = none ∧
        disk.target path = .ok location ∧
        disk.node? location = some node := by
  rw [target_eq]
  unfold locate pieces
  constructor
  · intro hlocate
    split at hlocate
    · cases hlocate
    · rename_i hspelling
      split at hlocate
      · cases hlocate
      · rename_i found hfound
        split at hlocate
        · rename_i other hother
          cases hlocate
          exact ⟨hspelling, hfound, hother⟩
        · cases hlocate
  · rintro ⟨hspelling, hfound, hnode⟩
    simp only [hspelling, hfound, hnode]

theorem bind_eq_ok_iff {ε α β : Type} {result : Except ε α}
    {next : α → Except ε β} {value : β} :
    (result >>= next) = .ok value ↔
      ∃ middle, result = .ok middle ∧ next middle = .ok value := by
  cases result <;> simp [bind, Except.bind]

theorem foldlM_follow_eq_foldl_enter {components : List Bytes}
    {location next : Location}
    (hfollow : components.foldlM disk.follow location = .ok next) :
    next = (components.filter fun component =>
      component ≠ [] ∧ component ≠ [PathUnit.dot]).foldl
        Path.enter location := by
  induction components generalizing location with
  | nil =>
      cases hfollow
      rfl
  | cons component components ih =>
      rw [List.foldlM_cons, bind_eq_ok_iff] at hfollow
      obtain ⟨middle, hstep, hrest⟩ := hfollow
      obtain ⟨-, ⟨hstays, rfl⟩ | ⟨hleaves, -, rfl⟩⟩ :=
        follow_eq_ok_iff.mp hstep
      · rw [List.filter_cons_of_neg (by simpa [Stays, or_iff_not_imp_left]
          using hstays)]
        exact ih hrest
      · rw [List.filter_cons_of_pos (by simpa [Stays, not_or] using hleaves)]
        exact ih hrest

/-- There are no links, so following a path resolves it. -/
theorem resolve_of_target {path : Bytes} {location : Location}
    (htarget : disk.target path = .ok location) :
    Path.resolve disk.workingDirectory path = location := by
  rw [target_eq] at htarget
  exact (foldlM_follow_eq_foldl_enter htarget).symm

/-! ## Entries of directories -/

/-- The path names an entry of a directory, which may or may not exist. -/
structure NamesEntry (disk : Disk) (path : Bytes) (directory : Location)
    (name : Bytes) : Prop where
  pieces : ∃ before, Disk.pieces path = before ++ [name] ∧
    before.foldlM disk.follow (disk.origin path) = .ok directory
  directory : disk.node? directory = some .directory
  leaves : ¬ Stays name
  descends : name ≠ Path.above
  length_le : name.length ≤ FileSystem.nameLimit

theorem NamesEntry.target_eq {path : Bytes} {directory : Location}
    {name : Bytes} (hnames : disk.NamesEntry path directory name) :
    disk.target path = .ok (directory ++ [name]) := by
  obtain ⟨before, hpieces, hbefore⟩ := hnames.pieces
  have hstep : disk.follow directory name = .ok (directory ++ [name]) := by
    refine follow_eq_ok_iff.mpr
      ⟨hnames.directory, .inr ⟨hnames.leaves, hnames.length_le, ?_⟩⟩
    rw [Path.enter, if_neg hnames.descends]
  rw [Disk.target_eq, hpieces, List.foldlM_append, hbefore]
  exact (bind_pure _).trans hstep

/-- A path that leads to something other than a directory names an entry. -/
theorem IsTree.exists_namesEntry (htree : disk.IsTree) {path : Bytes}
    {location : Location} (htarget : disk.target path = .ok location)
    (hother : disk.node? location ≠ some .directory) :
    ∃ directory name, disk.NamesEntry path directory name ∧
      location = directory ++ [name] := by
  obtain ⟨before, name, hpieces⟩ := exists_pieces_eq_concat path
  rw [Disk.target_eq, hpieces, List.foldlM_append, bind_eq_ok_iff] at htarget
  obtain ⟨directory, hbefore, hlast⟩ := htarget
  have hstep : disk.follow directory name = .ok location :=
    (bind_pure _).symm.trans hlast
  obtain ⟨hdirectory, ⟨-, rfl⟩ | ⟨hleaves, hlength, rfl⟩⟩ :=
    follow_eq_ok_iff.mp hstep
  · exact absurd hdirectory hother
  · by_cases hup : name = Path.above
    · rw [Path.enter, if_pos hup] at hother
      exact absurd (htree.parent hdirectory) hother
    · exact ⟨directory, name,
        ⟨⟨before, hpieces, hbefore⟩, hdirectory, hleaves, hup, hlength⟩,
        if_neg hup⟩

theorem NamesEntry.slash_notMem {path : Bytes} {directory : Location}
    {name : Bytes} (hnames : disk.NamesEntry path directory name) :
    PathUnit.slash ∉ name := by
  obtain ⟨before, hpieces, -⟩ := hnames.pieces
  have hname : name ∈ Disk.pieces path := by simp [hpieces]
  intro hslash
  simpa using isSeparator_of_mem_splitWhere hname _ hslash

theorem NamesEntry.isEntryName {path : Bytes} {directory : Location}
    {name : Bytes} (hnames : disk.NamesEntry path directory name)
    (hnul : 0 ∉ path) : IsEntryName name := by
  obtain ⟨before, hpieces, -⟩ := hnames.pieces
  obtain ⟨hne, hdot⟩ := not_or.mp hnames.leaves
  have hname : name ∈ Disk.pieces path := by simp [hpieces]
  refine ⟨hne, hdot, hnames.descends, hnames.slash_notMem,
    fun hmem => hnul ?_, hnames.length_le⟩
  exact mem_of_mem_splitWhere hname hmem

theorem fileName?_of_pieces {path name : Bytes} {before : List Bytes}
    (hpieces : pieces path = before ++ [name]) (hleaves : ¬ Stays name)
    (hdescends : name ≠ Path.above) : Path.fileName? path = some name := by
  have hsplit : splitWhere (· = PathUnit.slash) path = before ++ [name] :=
    hpieces
  rw [Stays, not_or] at hleaves
  simp [Path.fileName?, Path.components, hsplit, List.filter_append,
    hleaves, hdescends]

theorem NamesEntry.fileName?_eq {path : Bytes} {directory : Location}
    {name : Bytes} (hnames : disk.NamesEntry path directory name) :
    Path.fileName? path = some name := by
  obtain ⟨before, hpieces, -⟩ := hnames.pieces
  exact fileName?_of_pieces hpieces hnames.leaves hnames.descends

theorem origin_append {path : Bytes} (hne : path ≠ []) (more : Bytes) :
    disk.origin (path ++ more) = disk.origin path := by
  cases path with
  | nil => exact absurd rfl hne
  | cons byte path => rfl

theorem spellingFault?_eq_none_iff {path : Bytes} :
    FileSystem.spellingFault? path = none ↔
      0 ∉ path ∧ path ≠ [] ∧ path.length ≤ FileSystem.pathLimit := by
  unfold FileSystem.spellingFault?
  by_cases hnul : 0 ∈ path
  · simp [hnul]
  · by_cases hne : path = []
    · simp [hne]
    · by_cases hlong : FileSystem.pathLimit < path.length
      · simp [hnul, hne, hlong]
      · simp [hnul, hne, hlong, Nat.le_of_not_lt hlong]

theorem NamesEntry.ne_nil {path : Bytes} {directory : Location} {name : Bytes}
    (hnames : disk.NamesEntry path directory name) : path ≠ [] := by
  obtain ⟨before, hpieces, -⟩ := hnames.pieces
  rintro rfl
  have hname : before = [] ∧ name = [] := by
    simpa using List.append_eq_singleton_iff.mp hpieces.symm
  exact hnames.leaves (.inl hname.2)

/-- What is appended to a path is appended to the name of the entry. -/
theorem NamesEntry.eq_of_target_append {path : Bytes}
    {directory location : Location} {name suffix : Bytes}
    (hnames : disk.NamesEntry path directory name)
    (hsuffix : PathUnit.slash ∉ suffix) (hlong : 2 ≤ suffix.length)
    (htarget : disk.target (path ++ suffix) = .ok location) :
    location = directory ++ [name ++ suffix] := by
  obtain ⟨before, hpieces, hbefore⟩ := hnames.pieces
  have hmore : Disk.pieces (path ++ suffix) = before ++ [name ++ suffix] := by
    refine splitWhere_append_piece hpieces fun byte hbyte => ?_
    simpa using ne_of_mem_of_not_mem hbyte hsuffix
  have hname : 0 < name.length := List.length_pos_of_ne_nil fun hnil =>
    hnames.leaves (.inl hnil)
  have hthree : 3 ≤ (name ++ suffix).length := by
    rw [List.length_append]
    omega
  rw [Disk.target_eq, hmore, origin_append hnames.ne_nil, List.foldlM_append,
    hbefore] at htarget
  have hstep : disk.follow directory (name ++ suffix) = .ok location :=
    (bind_pure _).symm.trans htarget
  obtain ⟨-, ⟨hnil | hdot, -⟩ | ⟨-, -, rfl⟩⟩ := follow_eq_ok_iff.mp hstep
  · simp [hnil] at hthree
  · simp [hdot] at hthree
  · rw [Path.enter, if_neg]
    intro hup
    simp [hup, Path.above] at hthree

/-! ## Reading -/

theorem read_eq_ok_iff {path contents : Bytes} :
    disk.read path = .ok contents ↔
      ∃ location, disk.locate path = .ok (location, .file contents) := by
  unfold read
  cases disk.locate path with
  | error fault => simp
  | ok found =>
      obtain ⟨location, node⟩ := found
      cases node <;> simp

/-! ## Writing -/

theorem lookup_cons_eq (place : Location) (node : Node)
    (nodes : List (Location × Node)) (other : Location) :
    ((place, node) :: nodes).lookup other =
      if other = place then some node else nodes.lookup other := by
  by_cases hother : other = place
  · simp [hother]
  · rw [List.lookup_cons, beq_false_of_ne hother, if_neg hother]

theorem lookup_setFile (location : Location) (contents : Bytes)
    (nodes : List (Location × Node)) (other : Location) :
    (setFile location contents nodes).lookup other =
      if other = location then some (.file contents)
      else nodes.lookup other := by
  induction nodes with
  | nil => exact lookup_cons_eq location (.file contents) [] other
  | cons entry nodes ih =>
      obtain ⟨place, node⟩ := entry
      rw [lookup_cons_eq, setFile]
      split
      · rename_i hplace
        rw [lookup_cons_eq, hplace]
        split <;> rfl
      · rename_i hplace
        rw [lookup_cons_eq, ih]
        by_cases hhere : other = place
        · rw [if_pos hhere, if_neg (fun h => hplace (hhere.symm.trans h)),
            if_pos hhere]
        · rw [if_neg hhere, if_neg hhere]

theorem setFile_of_lookup {location : Location} {contents : Bytes}
    {nodes : List (Location × Node)}
    (hnode : nodes.lookup location = some (.file contents)) :
    setFile location contents nodes = nodes := by
  induction nodes with
  | nil => cases hnode
  | cons entry nodes ih =>
      obtain ⟨place, node⟩ := entry
      rw [lookup_cons_eq] at hnode
      by_cases hplace : place = location
      · rw [if_pos hplace.symm, Option.some.injEq] at hnode
        rw [setFile, if_pos hplace, hplace, hnode]
      · rw [if_neg (Ne.symm hplace)] at hnode
        rw [setFile, if_neg hplace, ih hnode]

/-- The disk with a file at a location. -/
def withFile (disk : Disk) (location : Location) (contents : Bytes) : Disk :=
  { disk with nodes := setFile location contents disk.nodes }

theorem locations_withFile (disk : Disk) (location : Location)
    (contents : Bytes) :
    (disk.withFile location contents).locations =
      if location ∈ disk.locations then disk.locations
      else disk.locations ++ [location] := by
  unfold locations withFile
  induction disk.nodes with
  | nil => simp [setFile]
  | cons entry nodes ih =>
      obtain ⟨place, node⟩ := entry
      by_cases hplace : place = location
      · simp [setFile, hplace]
      · simp only [setFile, hplace, if_false, List.map_cons, ih,
          List.mem_cons, Ne.symm hplace, false_or]
        split <;> rfl

theorem write_eq_ok_iff {path contents : Bytes} {next : Disk} :
    disk.write path contents = .ok next ↔
      ∃ location, FileSystem.spellingFault? path = none ∧
        disk.target path = .ok location ∧
        disk.node? location ≠ some .directory ∧
        next = disk.withFile location contents := by
  unfold write
  cases FileSystem.spellingFault? path with
  | some fault => simp
  | none =>
      cases disk.target path with
      | error fault => simp
      | ok location =>
          simp only [true_and, Except.ok.injEq, exists_eq_left']
          cases disk.node? location with
          | none => simp [withFile, eq_comm]
          | some node => cases node <;> simp [withFile, eq_comm]

theorem exists_write_eq_ok_iff {path contents : Bytes} :
    (∃ next, disk.write path contents = .ok next) ↔
      FileSystem.spellingFault? path = none ∧
        ∃ location, disk.target path = .ok location ∧
        disk.node? location ≠ some .directory := by
  simp only [write_eq_ok_iff]
  constructor
  · rintro ⟨next, location, hspelling, htarget, hother, -⟩
    exact ⟨hspelling, location, htarget, hother⟩
  · rintro ⟨hspelling, location, htarget, hother⟩
    exact ⟨_, location, hspelling, htarget, hother, rfl⟩

theorem node?_withFile {location : Location}
    (hother : disk.node? location ≠ some .directory) (contents : Bytes)
    (place : Location) :
    (disk.withFile location contents).node? place =
      if place = location then some (.file contents)
      else disk.node? place := by
  have hne : location ≠ [] := by
    rintro rfl
    exact hother (node?_root disk)
  unfold node? withFile
  by_cases hroot : place = []
  · rw [if_pos hroot, if_pos hroot,
      if_neg (fun h => hne (h.symm.trans hroot))]
  · rw [if_neg hroot, if_neg hroot, lookup_setFile]

/-- Writing what is there already changes nothing. -/
theorem withFile_of_node? {location : Location} {contents : Bytes}
    (hnode : disk.node? location = some (.file contents)) :
    disk.withFile location contents = disk := by
  have hne : location ≠ [] := by
    rintro rfl
    rw [node?_root] at hnode
    cases hnode
  rw [node?, if_neg hne] at hnode
  rw [withFile, setFile_of_lookup hnode]

theorem IsTree.afterWrite (htree : disk.IsTree) {path contents : Bytes}
    {next : Disk} (hwrite : disk.write path contents = .ok next) :
    next.IsTree := by
  obtain ⟨location, hspelling, htarget, hother, rfl⟩ :=
    write_eq_ok_iff.mp hwrite
  obtain ⟨directory, name, hnames, rfl⟩ :=
    htree.exists_namesEntry htarget hother
  have hlocations := disk.locations_withFile (directory ++ [name]) contents
  have hplaces :
      ∀ place ∈ (disk.withFile (directory ++ [name]) contents).locations,
      place ∈ disk.locations ∨ place = directory ++ [name] := by
    intro place hplace
    rw [hlocations] at hplace
    split at hplace
    · exact .inl hplace
    · simpa using hplace
  have hdirectories : ∀ place, disk.node? place = some .directory →
      (disk.withFile (directory ++ [name]) contents).node? place =
        some .directory := by
    intro place hdirectory
    rw [node?_withFile hother, if_neg, hdirectory]
    rintro rfl
    exact hother hdirectory
  refine ⟨?_, ?_, ?_⟩
  · intro place hplace
    rcases hplaces place hplace with hold | rfl
    · exact htree.names place hold
    · refine ⟨by simp, fun other hmem => ?_⟩
      rcases List.mem_append.mp hmem with habove | hlast
      · exact htree.isEntryName hnames.directory other habove
      · rw [List.mem_singleton.mp hlast]
        exact hnames.isEntryName (spellingFault?_eq_none_iff.mp hspelling).1
  · intro place hplace
    rcases hplaces place hplace with hold | rfl
    · exact hdirectories _ (htree.parents place hold)
    · rw [List.dropLast_concat]
      exact hdirectories _ hnames.directory
  · rw [hlocations]
    split
    · exact htree.distinct
    · rename_i hnew
      exact List.nodup_append.mpr ⟨htree.distinct, by simp, by
        rintro place hplace - (_ | ⟨_, ⟨⟩⟩) rfl
        exact hnew hplace⟩

end Disk
end Stencil
