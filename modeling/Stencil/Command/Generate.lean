import Stencil.Command.Arguments
import Stencil.Compile.Basic
import Stencil.Compile.Rendering
import Stencil.Disk.FileSystem
import Stencil.Listing.Json
import Stencil.Text.Decimal

/-!
# Generating files

The templates at the paths of a command line are visited in order, a file as
itself and a directory as the files below it, and each visit writes the code
of one template next to it.  The first failure ends the run: what was written
stays, and nothing more is written.
-/

namespace Stencil
namespace Command

inductive Failure where
  | missing (path : Bytes)
  | wrongExtension (path : Bytes) (extension : Text)
  | uncompiled (error : CompileError) (source : Text)
  | unwritable (path : Bytes) (fault : FileFault)
  | noTemplates (extension : Text)
  | unreadableInput
  deriving DecidableEq, Repr

def Failure.message (style : Style) : Failure → Text
  | .missing path =>
      "Error: ".toList ++ Utf8.decodeLossy path ++ " does not exist\n".toList
  | .wrongExtension path extension =>
      "Error: ".toList ++ Utf8.decodeLossy path ++ " is not a .".toList ++
        extension ++ " file\n".toList
  | .uncompiled error source => error.render style source
  | .unwritable path fault =>
      "Error: failed to write ".toList ++ Utf8.decodeLossy path ++
        ": ".toList ++ fault.message ++ ['\n']
  | .noTemplates extension =>
      "No .".toList ++ extension ++ " files found\n".toList
  | .unreadableInput =>
      "Error: failed to read stdin: ".toList ++
        FileFault.invalidText.message ++ ['\n']

/-- The files that a run wrote, and why it ended if it ended early. -/
structure Outcome where
  written : List Bytes
  failure? : Option Failure
  deriving DecidableEq, Repr

section

variable {m : Type → Type} [Monad m] [FileSystem m]

def compileFile (options : Options) (path : Bytes) :
    m (Except CompileError (Template × Code)) := do
  match ← FileSystem.read path with
  | .error fault => return .error (.unreadable path fault)
  | .ok contents =>
      match parseBytes options path contents with
      | .error error => return .error error
      | .ok template =>
          let workingDirectory ← FileSystem.workingDirectory
          return (template.generate workingDirectory options).map
            (template, ·)

/-- The text of a file for showing an error in it, empty if it has none. -/
def sourceText (path : Bytes) : m Text := do
  match ← FileSystem.read path with
  | .ok contents => return (Utf8.decode? contents).getD []
  | .error _ => return []

/-- Generates the code of one template and gives the path it was written to. -/
def generateFile (options : Options) (path : Bytes) :
    m (Except Failure Bytes) := do
  match ← compileFile options path with
  | .error error => return .error (.uncompiled error (← sourceText path))
  | .ok (template, code) =>
      match ← FileSystem.write template.outputPath
        (Utf8.encode code.text) with
      | .ok () => return .ok template.outputPath
      | .error fault => return .error (.unwritable template.outputPath fault)

def generateFiles (options : Options) : List Bytes → m Outcome
  | [] => return ⟨[], none⟩
  | path :: paths => do
      match ← generateFile options path with
      | .error failure => return ⟨[], some failure⟩
      | .ok output =>
          let outcome ← generateFiles options paths
          return { outcome with written := output :: outcome.written }

def hasExtension (extension : Text) (path : Bytes) : Bool :=
  Path.extension? path = some (Utf8.encode extension)

def generateAt (options : Options) (path : Bytes) : m Outcome := do
  match ← FileSystem.kind? path with
  | some .file =>
      if hasExtension options.extension path then generateFiles options [path]
      else return ⟨[], some (.wrongExtension path options.extension)⟩
  | some .directory =>
      let files ← FileSystem.filesBelow path
      generateFiles options (files.filter (hasExtension options.extension))
  | none => return ⟨[], some (.missing path)⟩

/-- Generates the code of the templates at some paths, up to the first
failure. -/
def generateAll (options : Options) : List Bytes → m Outcome
  | [] => return ⟨[], none⟩
  | path :: paths => do
      let outcome ← generateAt options path
      match outcome.failure? with
      | some _ => return outcome
      | none =>
          let others ← generateAll options paths
          return { others with written := outcome.written ++ others.written }

/-- Generates the code of the templates at some paths, of which there must be
at least one. -/
def generatePaths (options : Options) (paths : List Bytes) : m Outcome := do
  let outcome ← generateAll options paths
  if outcome.failure? = none ∧ outcome.written = [] then
    return { outcome with failure? := some (.noTemplates options.extension) }
  else
    return outcome

/-- Compiles the template on the standard input and gives what to print. -/
def generateInput (options : Options) (asPath : Text) (json : Bool)
    (input : Bytes) : m (Except Failure Text) := do
  match Utf8.decode? input with
  | none => return .error .unreadableInput
  | some source =>
      let workingDirectory ← FileSystem.workingDirectory
      match compile workingDirectory options (Utf8.encode asPath) source with
      | .error error => return .error (.uncompiled error source)
      | .ok code =>
          return .ok (if json then code.json ++ ['\n'] else code.text)

end

/-! ## Reports -/

structure Report where
  status : Nat
  stdout : Text
  stderr : Text
  deriving DecidableEq, Repr

/-- A stretch of time in the unit that suits it. -/
def elapsedText (nanoseconds : Nat) : Text :=
  let microseconds := nanoseconds / 1000
  if microseconds < 1000 then Text.ofNat microseconds ++ "μs".toList
  else if microseconds < 1000000 then
    (BinaryFraction.ofQuotient microseconds 1000).decimal 1 ++ "ms".toList
  else
    let second := 1000000000
    let part := BinaryFraction.ofQuotient (nanoseconds % second) second
    (part.addNat (nanoseconds / second)).decimal 2 ++ "s".toList

def writtenLine (style : Style) (path : Bytes) : Text :=
  "  ".toList ++ style.wrap style.success "✓".toList ++
    ' ' :: Utf8.decodeLossy path ++ ['\n']

def summary (style : Style) (count : Nat) (elapsed : Text) : Text :=
  let files := if count = 1 then " file in ".toList else " files in ".toList
  '\n' :: style.wrap style.strong
    ("✨ Generated ".toList ++ Text.ofNat count ++ files ++ elapsed) ++ ['\n']

/-- The report on generated files, given the time it took. -/
def Outcome.report (style : Style) (elapsed : Text)
    (outcome : Outcome) : Report :=
  let written := outcome.written.flatMap (writtenLine style)
  match outcome.failure? with
  | some failure => ⟨1, [], written ++ failure.message style⟩
  | none => ⟨0, [], written ++ summary style outcome.written.length elapsed⟩

def inputReport (style : Style) : Except Failure Text → Report
  | .ok output => ⟨0, output, []⟩
  | .error failure => ⟨1, [], failure.message style⟩

end Command
end Stencil
