import Stencil.Command.Generate

/-!
# The command

The outer layer: arguments, standard streams and the real file system.
-/

namespace Stencil

/-- The spelling of a path for the operating system, if it is text. -/
def pathString? (path : Bytes) : Option String :=
  (Utf8.decode? path).map String.ofList

/-- The number of a system error, which some operations report negated. -/
def errorNumber (code : UInt32) : Nat :=
  if code < 0x80000000 then code.toNat else (0 - code).toNat

def faultOfError (error : IO.Error) : FileFault :=
  let other := FileFault.other error.toString.toList
  match error with
  | .noFileOrDirectory .. => .missing
  | .inappropriateType _ code _ =>
      if errorNumber code = 20 then .notDirectory
      else if errorNumber code = 21 then .isDirectory
      else other
  | .invalidArgument _ code _ =>
      if errorNumber code = 36 then .nameTooLong else other
  | _ => other

/-- Runs an action on the spelling of a path and catches its faults. -/
def withPath {α : Type} (path : Bytes) (action : String → IO α) :
    IO (Except FileFault α) := do
  match FileSystem.spellingFault? path, pathString? path with
  | some fault, _ => return .error fault
  | none, none => return .error .missing
  | none, some spelling =>
      try
        return .ok (← action spelling)
      catch error =>
        return .error (faultOfError error)

def kindOnDisk? (path : Bytes) : IO (Option FileKind) := do
  let kind ← withPath path fun spelling => do
    let resolved ← IO.FS.realPath spelling
    if ← resolved.isDir then return some FileKind.directory
    else if ← resolved.pathExists then return some FileKind.file
    else return none
  return kind.toOption.join

/-- The files below a real directory, the entries of each directory sorted. -/
partial def filesOnDiskBelow (path : Bytes) : IO (List Bytes) := do
  let entries ← withPath path fun spelling => do
    let entries ← (← IO.FS.realPath spelling).readDir
    entries.toList.mapM fun entry => do
      return (Utf8.encode entry.fileName.toList, ← entry.path.isDir)
  let sorted := (entries.toOption.getD []).mergeSort fun first second =>
    !nameBefore second.1 first.1
  let mut files := []
  for (name, isDirectory) in sorted do
    let inner := Path.child path name
    if isDirectory then files := files ++ (← filesOnDiskBelow inner)
    else files := files ++ [inner]
  return files

instance : FileSystem IO where
  workingDirectory := do
    let directory ← IO.currentDir
    return Path.components (Utf8.encode directory.toString.toList)
  kind? := kindOnDisk?
  read path := withPath path fun spelling =>
    return (← IO.FS.readBinFile spelling).toList
  write path contents := withPath path fun spelling =>
    IO.FS.writeBinFile spelling ⟨contents.toArray⟩
  filesBelow := filesOnDiskBelow

partial def readStream (stream : IO.FS.Stream) : IO Bytes := do
  let chunk ← stream.read 65536
  if chunk.isEmpty then return []
  else return chunk.toList ++ (← readStream stream)

def serve (request : Command.Request) : IO Command.Report := do
  let style := if ← (← IO.getStderr).isTty then Style.colored else Style.plain
  match request.input with
  | .stdin asPath json =>
      let input ← readStream (← IO.getStdin)
      let result ← Command.generateInput request.options asPath json input
      return Command.inputReport style result
  | .paths paths =>
      let start ← IO.monoNanosNow
      let outcome : Command.Outcome ←
        Command.generatePaths request.options (paths.map Utf8.encode)
      let elapsed := Command.elapsedText ((← IO.monoNanosNow) - start)
      return outcome.report style elapsed

end Stencil

def main (args : List String) : IO UInt32 := do
  match Stencil.Command.Request.ofWords (args.map String.toList) with
  | .error error =>
      IO.eprintln ("error: " ++ String.ofList error.message)
      return 2
  | .ok request =>
      let report ← Stencil.serve request
      IO.print (String.ofList report.stdout)
      IO.eprint (String.ofList report.stderr)
      return report.status.toUInt32
