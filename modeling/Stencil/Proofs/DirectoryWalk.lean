import Mathlib.Data.List.Lex
import Mathlib.Data.List.Sort
import Stencil.Proofs.DiskTree

/-!
# Walking a directory

A walk lists the entries of a directory by their names and goes down into
every directory it meets, before it goes on to the next entry.  The disk finds
the same files in one go: it collects the locations of all files below the
directory and sorts them as lists of names.

The two agree because both satisfy one equation.  The locations below a
directory are those below its entries, entry by entry, each with the name of
its entry in front.  For the sorted list this holds because a sorted list
without repetitions is known by its members.
-/

namespace Stencil

/-! ## Orders of names and of locations -/

section Orders

variable {α : Type} {before : α → α → Bool}

theorem isStrictTotalOrder_lex [BEq α] [LawfulBEq α]
    [horder : IsStrictTotalOrder α fun a b => before a b = true] :
    IsStrictTotalOrder (List α)
      fun first second => List.lex first second before = true := by
  simp only [List.lex_eq_true_iff_lex]
  exact {
    trichotomous := (List.Lex.trichotomous _).trichotomous
    irrefl := (List.Lex.asymm _).irrefl.irrefl
    trans :=
      fun _ _ _ => List.lex_trans (trans_of fun a b => before a b = true) }

theorem not_before_iff [IsStrictTotalOrder α fun a b => before a b = true]
    {a b : α} :
    (!before b a) = true ↔ before a b = true ∨ a = b := by
  rw [Bool.not_eq_true', Bool.eq_false_iff]
  constructor
  · intro hba
    rcases trichotomous_of (fun a b => before a b = true) a b with
      hab | rfl | hother
    · exact .inl hab
    · exact .inr rfl
    · exact absurd hother hba
  · rintro (hab | rfl)
    · exact asymm_of (fun a b => before a b = true) hab
    · exact irrefl_of (fun a b => before a b = true) a

theorem pairwise_mergeSort_before
    [IsStrictTotalOrder α fun a b => before a b = true] {list : List α}
    (hnodup : list.Nodup) :
    (list.mergeSort fun a b => !before b a).Pairwise
      fun a b => before a b = true := by
  have hsorted : (list.mergeSort fun a b => !before b a).Pairwise
      fun a b => (!before b a) = true := by
    refine List.pairwise_mergeSort (fun a b c hab hbc => ?_)
      (fun a b => ?_) list
    · rw [not_before_iff] at *
      rcases hab with hab | rfl
      · rcases hbc with hbc | rfl
        · exact .inl (trans_of (fun a b => before a b = true) hab hbc)
        · exact .inl hab
      · exact hbc
    · rw [Bool.or_eq_true, not_before_iff, not_before_iff]
      rcases trichotomous_of (fun a b => before a b = true) a b with
        hab | rfl | hba
      · exact .inl (.inl hab)
      · exact .inl (.inr rfl)
      · exact .inr (.inl hba)
  have hdistinct : (list.mergeSort fun a b => !before b a).Nodup :=
    (List.mergeSort_perm _ _).nodup_iff.mpr hnodup
  refine (hsorted.and hdistinct).imp fun {a b} hab => ?_
  exact (not_before_iff.mp hab.1).resolve_right hab.2

end Orders

instance isStrictTotalOrder_byte :
    IsStrictTotalOrder UInt8 fun a b =>
      decide (a.toNat < b.toNat) = true where
  trichotomous a b := by
    rw [decide_eq_true_eq, decide_eq_true_eq, ← UInt8.toNat_inj]
    omega
  irrefl a := by simp
  trans a b c := by
    rw [decide_eq_true_eq, decide_eq_true_eq, decide_eq_true_eq]
    omega

instance isStrictTotalOrder_nameBefore : IsStrictTotalOrder Bytes
    fun first second => nameBefore first second = true :=
  isStrictTotalOrder_lex

instance isStrictTotalOrder_metBefore : IsStrictTotalOrder Location
    fun first second => Disk.metBefore first second = true :=
  isStrictTotalOrder_lex

namespace Disk

variable {disk : Disk}

/-! ## Listings and walks -/

/-- The names are those of the entries of a directory, in their order. -/
structure Lists (disk : Disk) (directory : Location)
    (names : List Bytes) : Prop where
  complete : ∀ name, name ∈ names ↔ ∃ node,
      disk.node? (directory ++ [name]) = some node
  sorted : names.Pairwise fun first second => nameBefore first second = true

/-- A walk over entries of a directory meets the files.  A directory that
cannot be opened by its path is passed over. -/
inductive WalksEntries (disk : Disk) : Bytes → Location → List Bytes →
    List Bytes → Prop
  | done {path : Bytes} {directory : Location} :
      WalksEntries disk path directory [] []
  | file {path name contents : Bytes} {directory : Location}
      {names files : List Bytes}
      (entry : disk.node? (directory ++ [name]) = some (.file contents))
      (others : WalksEntries disk path directory names files) :
      WalksEntries disk path directory (name :: names)
        (Path.child path name :: files)
  | directory {path name : Bytes} {directory : Location}
      {names files innerNames innerFiles : List Bytes}
      (opened : disk.locate (Path.child path name) =
        .ok (directory ++ [name], .directory))
      (lists : disk.Lists (directory ++ [name]) innerNames)
      (entries : WalksEntries disk (Path.child path name)
        (directory ++ [name]) innerNames innerFiles)
      (others : WalksEntries disk path directory names files) :
      WalksEntries disk path directory (name :: names) (innerFiles ++ files)
  | closed {path name : Bytes} {directory : Location}
      {names files : List Bytes} {fault : FileFault}
      (entry : disk.node? (directory ++ [name]) = some .directory)
      (refused : disk.locate (Path.child path name) = .error fault)
      (others : WalksEntries disk path directory names files) :
      WalksEntries disk path directory (name :: names) files

/-- A walk from the directory at a path meets the files. -/
def Walks (disk : Disk) (path : Bytes) (files : List Bytes) : Prop :=
  ∃ directory names, disk.locate path = .ok (directory, .directory) ∧
    disk.Lists directory names ∧ disk.WalksEntries path directory names files

/-! ## Locations below a directory -/

theorem IsTree.directory_of_append (htree : disk.IsTree)
    {location rest : Location} {node : Node}
    (hnode : disk.node? (location ++ rest) = some node) (hrest : rest ≠ []) :
    disk.node? location = some .directory := by
  induction rest using List.reverseRecOn generalizing node with
  | nil => exact absurd rfl hrest
  | append_singleton rest name ih =>
      have hparent := htree.parent hnode
      rw [← List.append_assoc, List.dropLast_concat] at hparent
      by_cases hnil : rest = []
      · simpa [hnil] using hparent
      · exact ih hparent hnil

/-- The files below a directory in the order of the nodes. -/
def foundBelow (disk : Disk) (directory : Location) : List Location :=
  disk.nodes.filterMap fun (location, node) =>
    if node.kind = .file ∧ directory.isPrefixOf location then
      some (location.drop directory.length)
    else none

theorem IsTree.nodup_foundBelow (htree : disk.IsTree) (directory : Location) :
    (disk.foundBelow directory).Nodup := by
  have hdistinct := htree.distinct
  rw [locations, List.Nodup, List.pairwise_map] at hdistinct
  rw [foundBelow, List.Nodup, List.pairwise_filterMap]
  refine hdistinct.imp ?_
  rintro ⟨first, node⟩ ⟨second, other⟩ hne relative hfirst
    relative' hsecond rfl
  simp only [Option.ite_none_right_eq_some, Option.some.injEq,
    List.isPrefixOf_iff_prefix] at hfirst hsecond
  obtain ⟨⟨-, rest, rfl⟩, hrest⟩ := hfirst
  obtain ⟨⟨-, rest', rfl⟩, hrest'⟩ := hsecond
  apply hne
  rw [List.drop_left] at hrest hrest'
  rw [hrest, hrest']

theorem IsTree.mem_below (htree : disk.IsTree)
    {directory relative : Location} :
    relative ∈ disk.below directory ↔
      ∃ contents,
        disk.node? (directory ++ relative) = some (.file contents) := by
  have hsort : relative ∈ disk.below directory ↔
      relative ∈ disk.foundBelow directory :=
    List.mem_mergeSort
  rw [hsort, foundBelow, List.mem_filterMap]
  constructor
  · rintro ⟨⟨location, node⟩, hmem, hfound⟩
    simp only [Option.ite_none_right_eq_some, Option.some.injEq,
      List.isPrefixOf_iff_prefix] at hfound
    obtain ⟨⟨hkind, rest, rfl⟩, hrest⟩ := hfound
    rw [List.drop_left] at hrest
    subst hrest
    cases node with
    | directory => cases hkind
    | file contents => exact ⟨contents, htree.node?_of_mem hmem⟩
  · rintro ⟨contents, hnode⟩
    have hne : directory ++ relative ≠ [] := by
      intro hnil
      rw [hnil, node?_root] at hnode
      cases hnode
    refine ⟨(directory ++ relative, .file contents),
      mem_nodes_of_node? hnode hne, ?_⟩
    simp [Node.kind]

theorem IsTree.pairwise_below (htree : disk.IsTree) (directory : Location) :
    (disk.below directory).Pairwise fun first second =>
      metBefore first second = true :=
  pairwise_mergeSort_before (htree.nodup_foundBelow directory)

theorem IsTree.below_eq (htree : disk.IsTree) {directory : Location}
    {sorted : List Location}
    (hsorted : sorted.Pairwise fun first second =>
      metBefore first second = true)
    (hmem : ∀ relative, relative ∈ sorted ↔ ∃ contents,
      disk.node? (directory ++ relative) = some (.file contents)) :
    disk.below directory = sorted := by
  refine (htree.pairwise_below directory).eq_of_mem_iff hsorted ?_
  intro relative
  exact htree.mem_below.trans (hmem relative).symm

theorem IsTree.below_file (htree : disk.IsTree) {location : Location}
    {contents : Bytes} (hnode : disk.node? location = some (.file contents)) :
    disk.below location = [[]] := by
  refine htree.below_eq (List.pairwise_singleton _ _) fun relative => ?_
  rw [List.mem_singleton]
  constructor
  · rintro rfl
    rw [List.append_nil]
    exact ⟨contents, hnode⟩
  · rintro ⟨other, hother⟩
    by_contra hne
    rw [htree.directory_of_append hother hne] at hnode
    cases hnode

/-- The files below a directory lie below its entries, entry by entry. -/
theorem IsTree.below_directory (htree : disk.IsTree) {directory : Location}
    {names : List Bytes} (hnode : disk.node? directory = some .directory)
    (hlists : disk.Lists directory names) :
    disk.below directory =
      names.flatMap fun name =>
        (disk.below (directory ++ [name])).map (name :: ·) := by
  refine htree.below_eq ?_ ?_
  · rw [List.pairwise_flatMap]
    refine ⟨fun name _ => ?_,
      hlists.sorted.imp fun {first second} hbefore => ?_⟩
    · rw [List.pairwise_map]
      refine (htree.pairwise_below _).imp fun {relative other} hbefore => ?_
      rw [metBefore, List.lex_eq_true_iff_lex] at hbefore ⊢
      exact .cons hbefore
    · simp only [List.mem_map]
      rintro - ⟨relative, -, rfl⟩ - ⟨other, -, rfl⟩
      rw [metBefore, List.lex_eq_true_iff_lex]
      exact .rel hbefore
  · intro relative
    simp only [List.mem_flatMap, List.mem_map]
    constructor
    · rintro ⟨name, -, rest, hrest, rfl⟩
      simpa using htree.mem_below.mp hrest
    · rintro ⟨contents, hfile⟩
      cases relative with
      | nil =>
          rw [List.append_nil, hnode] at hfile
          cases hfile
      | cons name rest =>
          have hinner : disk.node? ((directory ++ [name]) ++ rest) =
              some (.file contents) := by
            simpa using hfile
          refine ⟨name, (hlists.complete name).mpr ?_, rest,
            htree.mem_below.mpr ⟨_, hinner⟩, rfl⟩
          by_cases hrest : rest = []
          · rw [hrest, List.append_nil] at hinner
            exact ⟨_, hinner⟩
          · exact ⟨_, htree.directory_of_append hinner hrest⟩

/-! ## Paths of entries -/

/-- The name of an entry is the last piece of its path, in place of an empty
one if the path of the directory ends in a slash. -/
theorem pieces_child (path : Bytes) {name : Bytes}
    (hslash : PathUnit.slash ∉ name) :
    (∃ before, pieces path = before ++ [[]] ∧
      pieces (Path.child path name) = before ++ [name]) ∨
      pieces (Path.child path name) = pieces path ++ [name] := by
  have hname : ∀ byte ∈ name, decide (byte = PathUnit.slash) = false := by
    intro byte hbyte
    simpa using ne_of_mem_of_not_mem hbyte hslash
  unfold Path.child
  split
  · rename_i hlast
    obtain ⟨init, rfl⟩ := List.getLast?_eq_some_iff.mp hlast
    have hpieces : pieces (init ++ [PathUnit.slash]) = pieces init ++ [[]] :=
      splitWhere_append_separator (by simp) init []
    exact .inl ⟨pieces init, hpieces, splitWhere_append_piece hpieces hname⟩
  · have hwhole : pieces name = [name] := splitWhere_eq_singleton hname
    right
    rw [← hwhole]
    exact splitWhere_append_separator (by simp) path name

theorem fileName?_child (path : Bytes) {name : Bytes}
    (hname : IsEntryName name) :
    Path.fileName? (Path.child path name) = some name := by
  obtain ⟨hnil, hdot, hup, hslash, -⟩ := hname
  have hleaves : ¬ Stays name := not_or.mpr ⟨hnil, hdot⟩
  obtain ⟨before, -, hpieces⟩ | hpieces := pieces_child path hslash
  · exact fileName?_of_pieces hpieces hleaves hup
  · exact fileName?_of_pieces hpieces hleaves hup

theorem namesEntry_child {path name : Bytes} {directory : Location}
    (hlocate : disk.locate path = .ok (directory, .directory))
    (hname : IsEntryName name) :
    disk.NamesEntry (Path.child path name) directory name := by
  obtain ⟨hspelling, htarget, hnode⟩ := locate_eq_ok_iff.mp hlocate
  obtain ⟨-, hne, -⟩ := spellingFault?_eq_none_iff.mp hspelling
  obtain ⟨hnil, hdot, hup, hslash, -, hlength⟩ := hname
  have horigin : disk.origin (Path.child path name) = disk.origin path := by
    unfold Path.child
    split <;> exact origin_append hne _
  refine ⟨?_, hnode, not_or.mpr ⟨hnil, hdot⟩, hup, hlength⟩
  rw [horigin]
  rw [Disk.target_eq] at htarget
  obtain ⟨before, hpath, hpieces⟩ | hpieces := pieces_child path hslash
  · rw [hpath, List.foldlM_append, bind_eq_ok_iff] at htarget
    obtain ⟨middle, hbefore, hstay⟩ := htarget
    have hstep : disk.follow middle [] = .ok directory :=
      (bind_pure _).symm.trans hstay
    obtain ⟨-, ⟨-, rfl⟩ | ⟨hleaves, -⟩⟩ := follow_eq_ok_iff.mp hstep
    · exact ⟨before, hpieces, hbefore⟩
    · exact absurd (.inl rfl) hleaves
  · exact ⟨pieces path, hpieces, htarget⟩

theorem length_le_length_child (path name : Bytes) :
    path.length ≤ (Path.child path name).length := by
  unfold Path.child
  split <;> simp

theorem length_le_length_foldl_child (path : Bytes) (location : Location) :
    path.length ≤ (location.foldl Path.child path).length := by
  induction location generalizing path with
  | nil => exact le_rfl
  | cons name location ih =>
      exact (length_le_length_child path name).trans (ih _)

theorem IsTree.locate_child (htree : disk.IsTree) {path name : Bytes}
    {directory : Location} {node : Node}
    (hlocate : disk.locate path = .ok (directory, .directory))
    (hnode : disk.node? (directory ++ [name]) = some node) :
    disk.locate (Path.child path name) = .ok (directory ++ [name], node) ↔
      (Path.child path name).length ≤ FileSystem.pathLimit := by
  have hname : IsEntryName name := htree.isEntryName hnode name (by simp)
  have hnames := namesEntry_child hlocate hname
  obtain ⟨hnul, -, -⟩ :=
    spellingFault?_eq_none_iff.mp (locate_eq_ok_iff.mp hlocate).1
  have hnone : 0 ∉ Path.child path name := by
    unfold Path.child
    split
    · simp [hnul, hname.2.2.2.2.1]
    · simp [hnul, hname.2.2.2.2.1, PathUnit.slash]
  rw [locate_eq_ok_iff, spellingFault?_eq_none_iff]
  simp [hnames.target_eq, hnode, hnone, hnames.ne_nil]

theorem exists_locate_eq_error {path : Bytes}
    (hlong : FileSystem.pathLimit < path.length) :
    ∃ fault, disk.locate path = .error fault := by
  cases hlocate : disk.locate path with
  | error fault => exact ⟨fault, rfl⟩
  | ok found =>
      obtain ⟨hspelling, -⟩ := locate_eq_ok_iff.mp hlocate
      exact absurd (spellingFault?_eq_none_iff.mp hspelling).2.2
        (Nat.not_le.mpr hlong)

/-! ## The walk of the disk -/

/-- The paths of the files below a directory, from a path of the directory. -/
def filesFrom (disk : Disk) (path : Bytes) (directory : Location) :
    List Bytes :=
  ((disk.below directory).filter fun location =>
    (location.dropLast.foldl Path.child path).length ≤
      FileSystem.pathLimit).map (·.foldl Path.child path)

theorem filesBelow_eq {path : Bytes} {directory : Location}
    (hlocate : disk.locate path = .ok (directory, .directory)) :
    disk.filesBelow path = disk.filesFrom path directory := by
  rw [filesBelow, hlocate]
  rfl

theorem IsTree.mem_filesBelow (htree : disk.IsTree) {path found : Bytes} :
    found ∈ disk.filesBelow path ↔
      ∃ directory relative contents,
        disk.locate path = .ok (directory, .directory) ∧
        disk.node? (directory ++ relative) = some (.file contents) ∧
        (relative.dropLast.foldl Path.child path).length ≤
          FileSystem.pathLimit ∧
        found = relative.foldl Path.child path := by
  constructor
  · intro hfound
    obtain ⟨directory, hlocate⟩ : ∃ directory,
        disk.locate path = .ok (directory, .directory) := by
      unfold filesBelow at hfound
      split at hfound
      · exact ⟨_, ‹_›⟩
      · cases hfound
    rw [filesBelow_eq hlocate, filesFrom, List.mem_map] at hfound
    obtain ⟨relative, hmem, rfl⟩ := hfound
    obtain ⟨hbelow, hlength⟩ := List.mem_filter.mp hmem
    obtain ⟨contents, hnode⟩ := htree.mem_below.mp hbelow
    exact ⟨directory, relative, contents, hlocate, hnode,
      of_decide_eq_true hlength, rfl⟩
  · rintro ⟨directory, relative, contents, hlocate, hnode, hlength, rfl⟩
    rw [filesBelow_eq hlocate, filesFrom]
    refine List.mem_map_of_mem
      (List.mem_filter.mpr ⟨?_, decide_eq_true hlength⟩)
    exact htree.mem_below.mpr ⟨contents, hnode⟩

/-- The part of the files below a directory that comes from one of its
entries. -/
def filesAt (disk : Disk) (path : Bytes) (directory : Location)
    (name : Bytes) : List Bytes :=
  ((disk.below (directory ++ [name])).filter fun rest =>
    ((name :: rest).dropLast.foldl Path.child path).length ≤
      FileSystem.pathLimit).map (·.foldl Path.child (Path.child path name))

theorem IsTree.filesFrom_eq (htree : disk.IsTree) {path : Bytes}
    {directory : Location} {names : List Bytes}
    (hnode : disk.node? directory = some .directory)
    (hlists : disk.Lists directory names) :
    disk.filesFrom path directory =
      names.flatMap (disk.filesAt path directory) := by
  rw [filesFrom, htree.below_directory hnode hlists, List.filter_flatMap,
    List.map_flatMap]
  refine List.flatMap_congr fun name _ => ?_
  rw [List.filter_map, List.map_map]
  rfl

theorem IsTree.filesAt_file (htree : disk.IsTree) {path name contents : Bytes}
    {directory : Location} (hlength : path.length ≤ FileSystem.pathLimit)
    (hnode : disk.node? (directory ++ [name]) = some (.file contents)) :
    disk.filesAt path directory name = [Path.child path name] := by
  rw [filesAt, htree.below_file hnode]
  simp [hlength]

theorem IsTree.ne_nil_of_mem_below (htree : disk.IsTree)
    {directory relative : Location}
    (hnode : disk.node? directory = some .directory)
    (hmem : relative ∈ disk.below directory) :
    relative ≠ [] := by
  rintro rfl
  obtain ⟨contents, hfile⟩ := htree.mem_below.mp hmem
  rw [List.append_nil, hnode] at hfile
  cases hfile

theorem IsTree.filesAt_directory (htree : disk.IsTree) {path name : Bytes}
    {directory : Location}
    (hnode : disk.node? (directory ++ [name]) = some .directory) :
    disk.filesAt path directory name =
      disk.filesFrom (Path.child path name) (directory ++ [name]) := by
  rw [filesAt, filesFrom]
  congr 1
  refine List.filter_congr fun rest hrest => ?_
  rw [List.dropLast_cons_of_ne_nil (htree.ne_nil_of_mem_below hnode hrest),
    List.foldl_cons]

theorem filesFrom_of_long {path : Bytes}
    (hlong : FileSystem.pathLimit < path.length) (directory : Location) :
    disk.filesFrom path directory = [] := by
  rw [filesFrom, List.map_eq_nil_iff, List.filter_eq_nil_iff]
  intro relative _
  have hgrows := length_le_length_foldl_child path relative.dropLast
  simpa using hlong.trans_le hgrows

theorem IsTree.eq_flatMap_filesAt (htree : disk.IsTree) {path : Bytes}
    {directory : Location} {names files : List Bytes}
    (hwalk : disk.WalksEntries path directory names files)
    (hlocate : disk.locate path = .ok (directory, .directory)) :
    files = names.flatMap (disk.filesAt path directory) := by
  induction hwalk with
  | done => rfl
  | file entry others ih =>
      obtain ⟨-, -, hlength⟩ :=
        spellingFault?_eq_none_iff.mp (locate_eq_ok_iff.mp hlocate).1
      rw [List.flatMap_cons, htree.filesAt_file hlength entry, ih hlocate]
      rfl
  | directory opened lists entries others ihentries ih =>
      have hnode := (locate_eq_ok_iff.mp opened).2.2
      rw [List.flatMap_cons, htree.filesAt_directory hnode,
        htree.filesFrom_eq hnode lists, ihentries opened, ih hlocate]
  | @closed path name directory names files fault entry refused others ih =>
      have hlong : FileSystem.pathLimit < (Path.child path name).length := by
        by_contra hshort
        rw [(htree.locate_child hlocate entry).mpr
            (Nat.le_of_not_lt hshort)] at refused
        cases refused
      rw [List.flatMap_cons, htree.filesAt_directory entry,
        filesFrom_of_long hlong, ih hlocate]
      rfl

/-! ## Every directory can be walked -/

theorem IsTree.mem_locations_concat (htree : disk.IsTree)
    {directory : Location} {name : Bytes} :
    directory ++ [name] ∈ disk.locations ↔
      ∃ node, disk.node? (directory ++ [name]) = some node := by
  constructor
  · intro hmem
    obtain ⟨⟨location, node⟩, hnode, hlocation⟩ := List.mem_map.mp hmem
    rw [← hlocation]
    exact ⟨node, htree.node?_of_mem hnode⟩
  · rintro ⟨node, hnode⟩
    exact mem_locations_of_node? hnode (by simp)

def entryIn? (directory location : Location) : Option Bytes :=
  if location.dropLast = directory then location.getLast? else none

theorem entryIn?_eq_some_iff {directory location : Location} {name : Bytes} :
    entryIn? directory location = some name ↔
      location = directory ++ [name] := by
  unfold entryIn?
  rw [Option.ite_none_right_eq_some]
  constructor
  · rintro ⟨rfl, hlast⟩
    exact (List.dropLast_append_getLast? name hlast).symm
  · rintro rfl
    simp

theorem IsTree.exists_lists (htree : disk.IsTree) (directory : Location) :
    ∃ names, disk.Lists directory names := by
  have hnodup : (disk.locations.filterMap (entryIn? directory)).Nodup := by
    refine htree.distinct.filterMap fun first second name hfirst hsecond => ?_
    rw [entryIn?_eq_some_iff.mp hfirst, entryIn?_eq_some_iff.mp hsecond]
  refine ⟨_, ?_, pairwise_mergeSort_before hnodup⟩
  intro name
  rw [List.mem_mergeSort, List.mem_filterMap, ← htree.mem_locations_concat]
  simp only [entryIn?_eq_some_iff, exists_eq_right]

theorem IsTree.exists_walksEntries (htree : disk.IsTree) {depth : Nat}
    {path : Bytes} {directory : Location} {names : List Bytes}
    (hdepth : ∀ location ∈ disk.locations,
      location.length ≤ directory.length + depth)
    (hlocate : disk.locate path = .ok (directory, .directory))
    (hnames : ∀ name ∈ names, directory ++ [name] ∈ disk.locations) :
    ∃ files, disk.WalksEntries path directory names files := by
  -- Outer induction: a directory entry starts a walk of less depth.  Inner:
  -- the entries.
  induction depth generalizing path directory names with
  | zero =>
      cases names with
      | nil => exact ⟨[], .done⟩
      | cons name names =>
          -- Nothing lies below the directory, so it has no entries.
          have hdeep := hdepth _ (hnames name (by simp))
          rw [List.length_append, List.length_singleton] at hdeep
          omega
  | succ depth ihdepth =>
      induction names with
      | nil => exact ⟨[], .done⟩
      | cons name names ih =>
          obtain ⟨files, hothers⟩ := ih fun other hother =>
            hnames other (by simp [hother])
          obtain ⟨node, hnode⟩ :=
            htree.mem_locations_concat.mp (hnames name (by simp))
          cases node with
          | file contents => exact ⟨_, .file hnode hothers⟩
          | directory =>
              by_cases hlength :
                (Path.child path name).length ≤ FileSystem.pathLimit
              · have hopened := (htree.locate_child hlocate hnode).mpr hlength
                obtain ⟨innerNames, hlists⟩ :=
                  htree.exists_lists (directory ++ [name])
                have hinner : ∀ location ∈ disk.locations,
                    location.length ≤
                      (directory ++ [name]).length + depth := by
                  intro location hlocation
                  have hbound := hdepth location hlocation
                  simp only [List.length_append, List.length_singleton]
                  omega
                obtain ⟨innerFiles, hentries⟩ :=
                  @ihdepth _ _ innerNames hinner hopened fun inner hmem =>
                    htree.mem_locations_concat.mpr
                      ((hlists.complete inner).mp hmem)
                exact ⟨_, .directory hopened hlists hentries hothers⟩
              · obtain ⟨fault, hrefused⟩ :=
                  @exists_locate_eq_error disk _ (Nat.lt_of_not_le hlength)
                exact ⟨files, .closed hnode hrefused hothers⟩

/-- What the disk finds below a directory is what a walk meets. -/
theorem IsTree.walks_iff (htree : disk.IsTree) {path : Bytes}
    {files : List Bytes} :
    disk.Walks path files ↔
      disk.kind? path = some .directory ∧ files = disk.filesBelow path := by
  constructor
  · rintro ⟨directory, names, hlocate, hlists, hwalk⟩
    have hnode := (locate_eq_ok_iff.mp hlocate).2.2
    refine ⟨by rw [kind?, hlocate]; rfl, ?_⟩
    rw [filesBelow_eq hlocate, htree.filesFrom_eq hnode hlists,
      htree.eq_flatMap_filesAt hwalk hlocate]
  · rintro ⟨hkind, rfl⟩
    obtain ⟨directory, hlocate⟩ : ∃ directory,
        disk.locate path = .ok (directory, .directory) := by
      unfold kind? at hkind
      split at hkind
      · rename_i directory node hlocate
        cases node with
        | file contents => cases hkind
        | directory => exact ⟨directory, hlocate⟩
      · cases hkind
    obtain ⟨names, hlists⟩ := htree.exists_lists directory
    have hdepth : ∀ location ∈ disk.locations,
        location.length ≤ directory.length +
          disk.locations.flatten.length := by
      intro location hlocation
      exact (List.sublist_flatten_of_mem hlocation).length_le.trans
        (Nat.le_add_left _ _)
    obtain ⟨files, hwalk⟩ := htree.exists_walksEntries hdepth hlocate
      fun name hname =>
        htree.mem_locations_concat.mpr ((hlists.complete name).mp hname)
    have hnode := (locate_eq_ok_iff.mp hlocate).2.2
    refine ⟨directory, names, hlocate, hlists, ?_⟩
    rw [filesBelow_eq hlocate, htree.filesFrom_eq hnode hlists,
      ← htree.eq_flatMap_filesAt hwalk hlocate]
    exact hwalk

end Disk

end Stencil
