import Stencil.Disk.FileSystem
import Stencil.Path

/-!
# Disks

A disk is a tree of files and directories, kept as a list of nodes by the
names that lead to them from the root.  A path is followed one component at a
time: each step needs a directory to step from, a trailing slash included,
and `..` leads to the directory above.  There are no links, so the names that
a path leads to are its lexical resolution.

A name that is too long is refused where the step to it is taken, so a fault
earlier on the path is the one that shows.
-/

namespace Stencil

/-- The names that lead from the root to a node. -/
abbrev Location := List Bytes

inductive Node where
  | file (contents : Bytes)
  | directory
  deriving DecidableEq, Repr

def Node.kind : Node → FileKind
  | .file _ => .file
  | .directory => .directory

/-- Files and directories, and the directory that relative paths start from. -/
structure Disk where
  workingDirectory : Location
  nodes : List (Location × Node)
  deriving DecidableEq, Repr

namespace Disk

/-- The node at a location.  The root is a directory. -/
def node? (disk : Disk) (location : Location) : Option Node :=
  if location = [] then some .directory else disk.nodes.lookup location

/-! ## Following paths -/

def follow (disk : Disk) (location : Location) (component : Bytes) :
    Except FileFault Location :=
  match disk.node? location with
  | none => .error .missing
  | some (.file _) => .error .notDirectory
  | some .directory =>
      if component = [] ∨ component = [PathUnit.dot] then .ok location
      else if FileSystem.nameLimit < component.length then .error .nameTooLong
      else .ok (Path.enter location component)

/-- The place from which a path is followed. -/
def origin (disk : Disk) (path : Bytes) : Location :=
  if Path.isAbsolute path then [] else disk.workingDirectory

def locate (disk : Disk) (path : Bytes) :
    Except FileFault (Location × Node) :=
  match FileSystem.spellingFault? path with
  | some fault => .error fault
  | none =>
      match (splitWhere (· = PathUnit.slash) path).foldlM disk.follow
        (disk.origin path) with
      | .error fault => .error fault
      | .ok location =>
          match disk.node? location with
          | some node => .ok (location, node)
          | none => .error .missing

def kind? (disk : Disk) (path : Bytes) : Option FileKind :=
  match disk.locate path with
  | .ok (_, node) => some node.kind
  | .error _ => none

def read (disk : Disk) (path : Bytes) : Except FileFault Bytes :=
  match disk.locate path with
  | .ok (_, .file contents) => .ok contents
  | .ok (_, .directory) => .error .isDirectory
  | .error fault => .error fault

/-! ## Writing -/

/-- The nodes with a file put at a location, in place of what was there. -/
def setFile (location : Location) (contents : Bytes) :
    List (Location × Node) → List (Location × Node)
  | [] => [(location, .file contents)]
  | (other, node) :: nodes =>
      if other = location then (location, .file contents) :: nodes
      else (other, node) :: setFile location contents nodes

/-- The location that a file at a path has or would have. -/
def target (disk : Disk) (path : Bytes) : Except FileFault Location :=
  let components := splitWhere (· = PathUnit.slash) path
  match components.dropLast.foldlM disk.follow (disk.origin path) with
  | .error fault => .error fault
  | .ok directory => disk.follow directory (components.getLast?.getD [])

def write (disk : Disk) (path contents : Bytes) : Except FileFault Disk :=
  match FileSystem.spellingFault? path with
  | some fault => .error fault
  | none =>
      match disk.target path with
      | .error fault => .error fault
      | .ok location =>
          match disk.node? location with
          | some .directory => .error .isDirectory
          | _ =>
              .ok { disk with nodes := setFile location contents disk.nodes }

/-! ## Walking directories -/

/-- The order in which a walk that sorts the entries of every directory by
name meets two nodes. -/
def metBefore (first second : Location) : Bool :=
  List.lex first second nameBefore

/-- The locations of the files below a directory, relative to it, in the order
of a walk. -/
def below (disk : Disk) (directory : Location) : List Location :=
  let files := disk.nodes.filterMap fun (location, node) =>
    if node.kind = .file ∧ directory.isPrefixOf location then
      some (location.drop directory.length)
    else none
  files.mergeSort fun first second => !metBefore second first

/-- The paths of the files below the directory at a path, in the order of a
walk.  A directory whose own path is too long cannot be entered. -/
def filesBelow (disk : Disk) (path : Bytes) : List Bytes :=
  match disk.locate path with
  | .ok (directory, .directory) =>
      let entered := (disk.below directory).filter fun location =>
        (location.dropLast.foldl Path.child path).length ≤
          FileSystem.pathLimit
      entered.map (·.foldl Path.child path)
  | _ => []

/-! ## Setting up -/

/-- The disk with a node added at a location, unless there is one already. -/
def add (disk : Disk) (location : Location) (node : Node) : Disk :=
  if (disk.node? location).isSome then disk
  else { disk with nodes := disk.nodes ++ [(location, node)] }

def addDirectories (disk : Disk) (location : Location) : Disk :=
  (List.range (location.length + 1)).foldl
    (fun disk depth => disk.add (location.take depth) .directory) disk

/-- A disk with the given files and empty directories in its working
directory, by their relative paths. -/
def ofEntries (workingDirectory : Location)
    (entries : List (Bytes × Option Bytes)) : Disk :=
  let blank : Disk := ⟨workingDirectory, []⟩
  entries.foldl place (blank.addDirectories workingDirectory)
where
  place (disk : Disk) (entry : Bytes × Option Bytes) : Disk :=
    let location := Path.resolve disk.workingDirectory entry.1
    match entry.2 with
    | some contents =>
        (disk.addDirectories location.dropLast).add location (.file contents)
    | none => disk.addDirectories location

end Disk

instance : FileSystem (StateM Disk) where
  workingDirectory := return (← get).workingDirectory
  kind? path := return (← get).kind? path
  read path := return (← get).read path
  write path contents := do
    match (← get).write path contents with
    | .ok disk => set disk; return .ok ()
    | .error fault => return .error fault
  filesBelow path := return (← get).filesBelow path

end Stencil
