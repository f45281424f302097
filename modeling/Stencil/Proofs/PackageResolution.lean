import Stencil.Proofs.CompileFailure
import Stencil.Proofs.DiskTree
import Stencil.Proofs.Lines

/-!
# Resolution of the package

The package is named after a directory that is found without looking at a
disk.  The path is put behind the working directory, and its pieces are walked
from the root: each ordinary name goes down, each `..` goes up again, and at
the root it stays there.

Walking is a fold over the pieces.  So a detour, a stretch of path that leads
back to where it started, can be put between any two components, whatever the
rest of the path does.
-/

namespace Stencil
namespace Path

open Disk (Stays pieces)

/-! ## Walking a path -/

/-- An ordinary name, which stands for an entry of a directory. -/
structure IsName (piece : Bytes) : Prop where
  leaves : ¬ Stays piece
  descends : piece ≠ above
  unbroken : PathUnit.slash ∉ piece

/-- Walking the pieces from a directory leads to a target.  Both are given by
the names that lead to them from the root. -/
inductive Leads : Location → List Bytes → Location → Prop
  | here (directory : Location) : Leads directory [] directory
  | stay {directory target : Location} {piece : Bytes} {pieces : List Bytes}
      (hstays : Stays piece) (hleads : Leads directory pieces target) :
      Leads directory (piece :: pieces) target
  | down {directory target : Location} {piece : Bytes} {pieces : List Bytes}
      (hleaves : ¬ Stays piece) (hdescends : piece ≠ above)
      (hleads : Leads (directory ++ [piece]) pieces target) :
      Leads directory (piece :: pieces) target
  | up {directory target : Location} {name : Bytes} {pieces : List Bytes}
      (hleads : Leads directory pieces target) :
      Leads (directory ++ [name]) (above :: pieces) target
  | root {target : Location} {pieces : List Bytes}
      (hleads : Leads [] pieces target) :
      Leads [] (above :: pieces) target

/-- The path with the working directory in front of it, unless it starts at
the root itself. -/
def absolute (workingDirectory : Location) (path : Bytes) : Bytes :=
  if isAbsolute path then path
  else PathUnit.slash :: workingDirectory.flatMap (· ++ [PathUnit.slash]) ++
    path

/-- The walk along pieces, as the fold that resolution does. -/
def walk (directory : Location) (pieces : List Bytes) : Location :=
  (pieces.filter fun piece => piece ≠ [] ∧ piece ≠ [PathUnit.dot]).foldl
    enter directory

theorem resolve_eq_walk (workingDirectory : Location) (path : Bytes) :
    resolve workingDirectory path =
      walk (if isAbsolute path then [] else workingDirectory) (pieces path) :=
  rfl

theorem walk_cons_of_stays {piece : Bytes} (hstays : Stays piece)
    (directory : Location) (pieces : List Bytes) :
    walk directory (piece :: pieces) = walk directory pieces := by
  rw [walk, List.filter_cons_of_neg]
  · rfl
  · simpa [Stays, or_iff_not_imp_left] using hstays

theorem walk_cons_of_leaves {piece : Bytes} (hleaves : ¬ Stays piece)
    (directory : Location) (pieces : List Bytes) :
    walk directory (piece :: pieces) =
      walk (enter directory piece) pieces := by
  rw [walk, List.filter_cons_of_pos]
  · rfl
  · simpa [Stays] using hleaves

theorem walk_append (directory : Location) (pieces more : List Bytes) :
    walk directory (pieces ++ more) = walk (walk directory pieces) more := by
  rw [walk, List.filter_append, List.foldl_append]
  rfl

theorem walk_cons_of_descends {piece : Bytes} (hleaves : ¬ Stays piece)
    (hdescends : piece ≠ above) (directory : Location) (pieces : List Bytes) :
    walk directory (piece :: pieces) =
      walk (directory ++ [piece]) pieces := by
  rw [walk_cons_of_leaves hleaves, enter, if_neg hdescends]

theorem walk_cons_above (directory : Location) (pieces : List Bytes) :
    walk directory (above :: pieces) = walk directory.dropLast pieces := by
  rw [walk_cons_of_leaves (by simp [Stays, above]), enter, if_pos rfl]

theorem Leads.eq_walk {directory target : Location} {pieces : List Bytes}
    (hleads : Leads directory pieces target) :
    target = walk directory pieces := by
  induction hleads with
  | here directory => rfl
  | stay hstays hleads ih => rw [ih, walk_cons_of_stays hstays]
  | down hleaves hdescends hleads ih =>
      rw [ih, walk_cons_of_descends hleaves hdescends]
  | up hleads ih => rw [ih, walk_cons_above, List.dropLast_concat]
  | root hleads ih => rw [ih, walk_cons_above, List.dropLast_nil]

theorem leads_walk (directory : Location) (pieces : List Bytes) :
    Leads directory pieces (walk directory pieces) := by
  induction pieces generalizing directory with
  | nil => exact .here directory
  | cons piece pieces ih =>
      by_cases hstays : Stays piece
      · rw [walk_cons_of_stays hstays]
        exact .stay hstays (ih directory)
      · by_cases habove : piece = above
        · rw [habove, walk_cons_above]
          -- Above the root there is the root again.
          rcases List.eq_nil_or_concat directory with
            rfl | ⟨parent, name, rfl⟩
          · exact .root (ih [])
          · rw [List.concat_eq_append, List.dropLast_concat]
            exact .up (ih parent)
        · rw [walk_cons_of_descends hstays habove]
          exact .down hstays habove (ih _)

theorem leads_iff {directory target : Location} {pieces : List Bytes} :
    Leads directory pieces target ↔ target = walk directory pieces := by
  constructor
  · exact Leads.eq_walk
  · rintro rfl
    exact leads_walk directory pieces

/-! ## From the root -/

theorem pieces_append_slash (path next : Bytes) :
    pieces (path ++ PathUnit.slash :: next) = pieces path ++ pieces next := by
  apply splitWhere_append_separator
  simp

theorem IsName.pieces_eq {name : Bytes} (hname : IsName name) :
    pieces name = [name] :=
  splitWhere_of_notMem hname.unbroken

theorem walk_names {names : Location} (hnames : ∀ name ∈ names, IsName name)
    (directory : Location) : walk directory names = directory ++ names := by
  induction names generalizing directory with
  | nil => exact (List.append_nil directory).symm
  | cons name names ih =>
      rw [List.forall_mem_cons] at hnames
      rw [walk_cons_of_descends hnames.1.leaves hnames.1.descends,
        ih hnames.2, List.append_assoc, List.singleton_append]

theorem pieces_names_append {names : Location}
    (hnames : ∀ name ∈ names, IsName name) (path : Bytes) :
    pieces (names.flatMap (· ++ [PathUnit.slash]) ++ path) =
      names ++ pieces path := by
  induction names with
  | nil => rfl
  | cons name names ih =>
      rw [List.forall_mem_cons] at hnames
      rw [List.flatMap_cons, List.append_assoc, List.append_assoc,
        List.singleton_append, pieces_append_slash, hnames.1.pieces_eq,
        ih hnames.2, List.singleton_append, List.cons_append]

theorem walk_absolute {workingDirectory : Location}
    (hdirectory : ∀ name ∈ workingDirectory, IsName name) (path : Bytes) :
    walk [] (pieces (absolute workingDirectory path)) =
      resolve workingDirectory path := by
  rw [resolve_eq_walk]
  unfold absolute
  split
  · rfl
  · have hroot := pieces_append_slash []
      (workingDirectory.flatMap (· ++ [PathUnit.slash]) ++ path)
    rw [List.nil_append] at hroot
    rw [List.cons_append, hroot, walk_append, pieces_names_append hdirectory,
      walk_append]
    congr 1
    exact walk_names hdirectory []

/-! ## Detours -/

/-- What can be put behind a component, after a slash of its own, without
leading anywhere else. -/
inductive Detour : Bytes → Prop
  | slash : Detour []
  | dot : Detour [PathUnit.dot]
  | back {name : Bytes} (hname : IsName name) :
      Detour (name ++ PathUnit.slash :: above)

theorem Detour.walk_pieces {detour : Bytes} (hdetour : Detour detour)
    (directory : Location) :
    walk directory (pieces detour) = directory := by
  cases hdetour with
  | slash => exact walk_cons_of_stays (.inl rfl) directory []
  | dot => exact walk_cons_of_stays (.inr rfl) directory []
  | @back name hname =>
      have habove : pieces above = [above] := rfl
      rw [pieces_append_slash, walk_append, hname.pieces_eq, habove,
        walk_cons_of_descends hname.leaves hname.descends, walk_cons_above]
      exact List.dropLast_concat

theorem isAbsolute_append_slash {before after : Bytes}
    (hne : before ++ after ≠ [])
    (hafter : after = [] ∨ after.head? = some PathUnit.slash) (more : Bytes) :
    isAbsolute (before ++ PathUnit.slash :: more) =
      isAbsolute (before ++ after) := by
  cases before with
  | cons byte before => rfl
  | nil =>
      rcases hafter with rfl | hslash
      · exact absurd rfl hne
      · simp [isAbsolute, hslash]

theorem resolve_detour {before after detour : Bytes}
    (hne : before ++ after ≠ [])
    (hafter : after = [] ∨ after.head? = some PathUnit.slash)
    (hdetour : Detour detour) (workingDirectory : Location) :
    resolve workingDirectory (before ++ PathUnit.slash :: detour ++ after) =
      resolve workingDirectory (before ++ after) := by
  have hstart := isAbsolute_append_slash hne hafter (detour ++ after)
  rw [resolve_eq_walk, resolve_eq_walk, List.append_assoc,
    List.cons_append, hstart, pieces_append_slash, walk_append]
  cases after with
  | nil => rw [List.append_nil, List.append_nil, hdetour.walk_pieces]
  | cons byte after =>
      obtain rfl : byte = PathUnit.slash := by simpa using hafter
      rw [pieces_append_slash, pieces_append_slash, walk_append, walk_append,
        hdetour.walk_pieces]

theorem walk_of_stays {pieces : List Bytes}
    (hstays : ∀ piece ∈ pieces, Stays piece) (directory : Location) :
    walk directory pieces = directory := by
  induction pieces with
  | nil => rfl
  | cons piece pieces ih =>
      rw [List.forall_mem_cons] at hstays
      rw [walk_cons_of_stays hstays.1, ih hstays.2]

end Path

/-! ## The directory of a template -/

namespace Template

theorem package?_eq_map {workingDirectory : Location} {template : Template}
    (hpath : template.path ≠ []) :
    template.package? workingDirectory =
      (Path.resolve workingDirectory template.path).dropLast.getLast?.map
        Utf8.decodeLossy := by
  rw [package?, if_neg hpath]
  generalize hnames : Path.resolve workingDirectory template.path = names
  rcases List.eq_nil_or_concat names with rfl | ⟨parent, last, rfl⟩
  · rfl
  · rcases List.eq_nil_or_concat parent with rfl | ⟨before, directory, rfl⟩
    · rfl
    · simp

theorem package?_eq_none_iff {workingDirectory : Location}
    {template : Template} (hpath : template.path ≠ []) :
    template.package? workingDirectory = none ↔
      (Path.resolve workingDirectory template.path).length < 2 := by
  rw [package?_eq_map hpath, Option.map_eq_none_iff,
    List.getLast?_eq_none_iff, ← List.length_eq_zero_iff,
    List.length_dropLast]
  omega

theorem package?_eq_some_iff {workingDirectory : Location}
    {template : Template} {package : Text} (hpath : template.path ≠ []) :
    template.package? workingDirectory = some package ↔
      ∃ before directory last,
        Path.resolve workingDirectory template.path =
          before ++ [directory, last] ∧
          package = Utf8.decodeLossy directory := by
  rw [package?_eq_map hpath, Option.map_eq_some_iff]
  constructor
  · rintro ⟨directory, hlast, rfl⟩
    obtain ⟨before, hparent⟩ := List.getLast?_eq_some_iff.mp hlast
    rcases List.eq_nil_or_concat (Path.resolve workingDirectory template.path)
      with hnil | ⟨parent, last, hconcat⟩
    · rw [hnil] at hparent
      simp at hparent
    · rw [hconcat, List.concat_eq_append, List.dropLast_concat] at hparent
      refine ⟨before, directory, last, ?_, rfl⟩
      rw [hconcat, hparent]
      simp
  · rintro ⟨before, directory, last, hnames, rfl⟩
    refine ⟨directory, ?_, rfl⟩
    rw [hnames]
    simp

theorem generate_unidentifiable_iff {workingDirectory : Location}
    {options : Options} {template : Template} {path : Bytes} :
    template.generate workingDirectory options =
      .error (.unidentifiablePackage path) ↔
      template.package? workingDirectory = none ∧ path = template.path := by
  rw [generate_eq_error_iff]
  constructor
  · intro hfault
    cases hfault with
    | unidentifiable hpackage => exact ⟨hpackage, rfl⟩
  · rintro ⟨hpackage, rfl⟩
    exact .unidentifiable hpackage

theorem package?_of_parent {workingDirectory parent : Location}
    {template : Template} {before after : List Bytes} {name : Bytes}
    (hdirectory : ∀ name ∈ workingDirectory, Path.IsName name)
    (hpath : template.path ≠ [])
    (hpieces : Disk.pieces (Path.absolute workingDirectory template.path) =
      before ++ name :: after)
    (hname : Path.IsName name) (hafter : ∀ piece ∈ after, Disk.Stays piece)
    (hparent : Path.Leads [] before parent) :
    template.package? workingDirectory =
      parent.getLast?.map Utf8.decodeLossy := by
  have hresolve : Path.resolve workingDirectory template.path =
      parent ++ [name] := by
    rw [← Path.walk_absolute hdirectory, hpieces, Path.walk_append,
      ← hparent.eq_walk,
      Path.walk_cons_of_descends hname.leaves hname.descends,
      Path.walk_of_stays hafter]
  rw [package?_eq_map hpath, hresolve, List.dropLast_concat]

/-- The package depends on the resolved path only.  Walking the path from the
root leads to one list of names.  The package is the second-to-last of them,
and it is unidentifiable exactly if there are fewer than two.  No detour
between two components or behind the last one changes it, and for a path that
ends in an ordinary name it is the last name of the directory that the path
before it leads to. -/
theorem package?_follows_resolution {workingDirectory : Location}
    {template : Template}
    (hdirectory : ∀ name ∈ workingDirectory, Path.IsName name)
    (hpath : template.path ≠ []) :
    (∃ names,
      (∀ target,
        Path.Leads []
            (Disk.pieces (Path.absolute workingDirectory template.path))
            target ↔
          target = names) ∧
      (template.package? workingDirectory = none ↔ names.length < 2) ∧
      (∀ options path,
        template.generate workingDirectory options =
          .error (.unidentifiablePackage path) ↔
          names.length < 2 ∧ path = template.path) ∧
      ∀ package, template.package? workingDirectory = some package ↔
        ∃ before directory last, names = before ++ [directory, last] ∧
          package = Utf8.decodeLossy directory) ∧
    (∀ before detour after, template.path = before ++ after →
      (after = [] ∨ after.head? = some PathUnit.slash) → Path.Detour detour →
        package? workingDirectory
            ⟨before ++ PathUnit.slash :: detour ++ after, template.blocks⟩ =
          template.package? workingDirectory) ∧
    ∀ before name after parent,
      Disk.pieces (Path.absolute workingDirectory template.path) =
        before ++ name :: after →
      Path.IsName name → (∀ piece ∈ after, Disk.Stays piece) →
        Path.Leads [] before parent →
        template.package? workingDirectory =
          parent.getLast?.map Utf8.decodeLossy := by
  have hnone := @package?_eq_none_iff workingDirectory template hpath
  refine ⟨⟨Path.resolve workingDirectory template.path, ?_, hnone, ?_, ?_⟩,
    ?_, ?_⟩
  · intro target
    rw [Path.leads_iff, Path.walk_absolute hdirectory]
  · intro options path
    rw [generate_unidentifiable_iff, hnone]
  · intro package
    exact package?_eq_some_iff hpath
  · intro before detour after hparts hafter hdetour
    have hne : before ++ after ≠ [] := hparts ▸ hpath
    rw [package?_eq_map (by simp), package?_eq_map hpath, hparts]
    congr 3
    exact Path.resolve_detour hne hafter hdetour workingDirectory
  · intro before name after parent hpieces hname hafter hparent
    exact package?_of_parent hdirectory hpath hpieces hname hafter hparent

-- In the directory `/w`, the path is `../../x/../y/./t`, with `z/..` put
-- behind its `y`.
theorem package?_follows_resolution_beyond_root :
    let path : Bytes :=
      [46, 46, 47, 46, 46, 47, 120, 47, 46, 46, 47, 121, 47, 46, 47, 116]
    let detoured : Bytes :=
      [46, 46, 47, 46, 46, 47, 120, 47, 46, 46, 47, 121, 47, 122, 47, 46, 46,
        47, 46, 47, 116]
    (∀ name ∈ [[119]], Path.IsName name) ∧ path ≠ [] ∧
      package? [[119]] ⟨path, []⟩ = some ['y'] ∧
      package? [[119]] ⟨detoured, []⟩ = some ['y'] := by
  intro path detoured
  have hname {letter : UInt8} (hletter : letter ≠ PathUnit.slash ∧
      letter ≠ PathUnit.dot) :
      Path.IsName [letter] := by
    constructor
    · simp [Disk.Stays, hletter.2]
    · simp [Path.above]
    · simpa using hletter.1.symm
  have hdirectory : ∀ name ∈ [[119]], Path.IsName name := by
    intro name hmem
    rw [List.mem_singleton.mp hmem]
    exact hname (by decide)
  have hpath : path ≠ [] := List.cons_ne_nil _ _
  obtain ⟨-, hdetours, hparents⟩ :=
    @package?_follows_resolution [[119]] ⟨path, []⟩ hdirectory hpath
  have hparent :
      Path.Leads [] [[], [119], Path.above, Path.above, [120],
        Path.above, [121],
      [PathUnit.dot]] [[121]] := Path.leads_iff.mpr rfl
  have hpackage :=
    hparents _ [116] [] [[121]] rfl (hname (by decide)) (by simp) hparent
  have hdetour :=
    hdetours [46, 46, 47, 46, 46, 47, 120, 47, 46, 46, 47, 121] _
      [47, 46, 47, 116]
    rfl (.inr rfl) (.back (@hname 122 (by decide)))
  exact ⟨hdirectory, hpath, hpackage, hdetour.trans hpackage⟩

end Template
end Stencil
