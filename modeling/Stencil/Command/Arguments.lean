import Stencil.Options
import Stencil.Text.Basic

/-!
# Command lines

The command is `generate`, followed by paths and options in any order.  An
option is a flag, or it has a value that follows it or an equality sign.
After `--` everything is a path.

A command line is first taken apart into flags, values and paths, none of
which may be given twice, and then checked as a whole: a template comes either
from the standard input or from paths.
-/

namespace Stencil
namespace Command

inductive Flag where
  | stdin
  | json
  | typesafe
  | stringOptimisations
  | debug
  | minify
  | view
  deriving DecidableEq, Repr

inductive Setting where
  | asPath
  | extension
  | viewImport
  deriving DecidableEq, Repr

def Flag.name : Flag → Text
  | .stdin => "stdin".toList
  | .json => "json".toList
  | .typesafe => "typesafe".toList
  | .stringOptimisations => "string-optimisations".toList
  | .debug => "debug".toList
  | .minify => "minify".toList
  | .view => "view".toList

def Setting.name : Setting → Text
  | .asPath => "as-path".toList
  | .extension => "extension".toList
  | .viewImport => "view-import".toList

def Flag.ofName? (name : Text) : Option Flag :=
  [Flag.stdin, .json, .typesafe, .stringOptimisations, .debug, .minify, .view]
    |>.find? (·.name = name)

def Setting.ofName? (name : Text) : Option Setting :=
  [Setting.asPath, .extension, .viewImport].find? (·.name = name)

inductive UsageError where
  | missingCommand
  | unknownCommand (name : Text)
  | unknownOption (option : Text)
  | unexpectedValue (option : Text)
  | missingValue (setting : Setting)
  | repeatedFlag (flag : Flag)
  | repeatedSetting (setting : Setting)
  | emptyPath
  | pathsWithStdin
  | needsStdin
  deriving DecidableEq, Repr

def UsageError.message : UsageError → Text
  | .missingCommand => "a command is required".toList
  | .unknownCommand name => "unknown command '".toList ++ name ++ ['\'']
  | .unknownOption option => "unknown option '".toList ++ option ++ ['\'']
  | .unexpectedValue option =>
      "option '".toList ++ option ++ "' takes no value".toList
  | .missingValue setting =>
      "option '".toList ++ setting.name ++ "' needs a value".toList
  | .repeatedFlag flag =>
      "option '".toList ++ flag.name ++ "' is given twice".toList
  | .repeatedSetting setting =>
      "option '".toList ++ setting.name ++ "' is given twice".toList
  | .emptyPath => "a path must not be empty".toList
  | .pathsWithStdin =>
      "paths cannot be combined with the standard input".toList
  | .needsStdin => "the option needs the standard input".toList

/-- What one word of a command line says. -/
inductive Word where
  | path (path : Text)
  /-- Only paths follow. -/
  | separator
  | flag (flag : Flag)
  /-- The value is missing if it has to be the next word. -/
  | setting (setting : Setting) (value? : Option Text)
  deriving DecidableEq, Repr

namespace Word

def isOption : Text → Bool
  | '-' :: _ :: _ => true
  | _ => false

/-- The name in a long option, and the value behind its equality sign. -/
def splitOption (option : Text) : Text × Option Text :=
  match Text.cut? ['='] option with
  | some (name, value) => (name, some value)
  | none => (option, none)

def ofOption (option : Text) : Except UsageError Word :=
  let (name, value?) := splitOption option
  match Flag.ofName? name, Setting.ofName? name with
  | some switch, _ =>
      if value?.isSome then .error (.unexpectedValue name)
      else .ok (.flag switch)
  | none, some chosen => .ok (.setting chosen value?)
  | none, none => .error (.unknownOption name)

def ofText (text : Text) : Except UsageError Word :=
  if isOption text then
    match text with
    | ['-', '-'] => .ok .separator
    | '-' :: '-' :: option => ofOption option
    | _ => .error (.unknownOption text)
  else
    .ok (.path text)

end Word

/-- A command line taken apart. -/
structure Arguments where
  flags : List Flag
  settings : List (Setting × Text)
  paths : List Text
  deriving DecidableEq, Repr

namespace Arguments

def empty : Arguments :=
  ⟨[], [], []⟩

def addFlag (arguments : Arguments) (flag : Flag) :
    Except UsageError Arguments :=
  if flag ∈ arguments.flags then .error (.repeatedFlag flag)
  else .ok { arguments with flags := arguments.flags ++ [flag] }

def addSetting (arguments : Arguments) (setting : Setting) (value : Text) :
    Except UsageError Arguments :=
  if (arguments.settings.lookup setting).isSome then
    .error (.repeatedSetting setting)
  else if setting = .asPath ∧ value = [] then .error .emptyPath
  else
    .ok { arguments with
      settings := arguments.settings ++ [(setting, value)] }

def addPath (arguments : Arguments) (path : Text) :
    Except UsageError Arguments :=
  if path = [] then .error .emptyPath
  else .ok { arguments with paths := arguments.paths ++ [path] }

def addPaths (arguments : Arguments) (paths : List Text) :
    Except UsageError Arguments :=
  paths.foldlM addPath arguments

def addWords (arguments : Arguments) : List Text → Except UsageError Arguments
  | [] => .ok arguments
  | text :: words => do
      match ← Word.ofText text with
      | .path path => addWords (← arguments.addPath path) words
      | .separator => arguments.addPaths words
      | .flag flag => addWords (← arguments.addFlag flag) words
      | .setting setting (some value) =>
          addWords (← arguments.addSetting setting value) words
      | .setting setting none =>
          match words with
          | [] => .error (.missingValue setting)
          | value :: words =>
              if Word.isOption value then .error (.missingValue setting)
              else addWords (← arguments.addSetting setting value) words

end Arguments

inductive Input where
  /-- One template from the standard input, compiled as if it had a path. -/
  | stdin (asPath : Text) (json : Bool)
  | paths (paths : List Text)
  deriving DecidableEq, Repr

structure Request where
  input : Input
  options : Options
  deriving DecidableEq, Repr

/-- The extension that a command line chooses, without leading dots. -/
def Arguments.extension (arguments : Arguments) : Text :=
  (arguments.settings.lookup .extension).getD ({} : Options).extension
    |>.dropWhile (· = '.')

def Arguments.options (arguments : Arguments) : Options where
  extension := arguments.extension
  typesafe := arguments.flags.contains .typesafe
  stringOptimisations := arguments.flags.contains .stringOptimisations
  debug := arguments.flags.contains .debug
  minify := arguments.flags.contains .minify
  generateView := arguments.flags.contains .view
  viewImport :=
    (arguments.settings.lookup .viewImport).getD ({} : Options).viewImport

/-- Where a command line takes templates from.  A path makes up for a missing
`--stdin`. -/
def Arguments.input (arguments : Arguments) : Except UsageError Input :=
  let asPath? := arguments.settings.lookup .asPath
  let json := arguments.flags.contains .json
  if arguments.flags.contains .stdin then
    if arguments.paths = [] then
      .ok (.stdin
        (asPath?.getD ("template.".toList ++ arguments.extension)) json)
    else
      .error .pathsWithStdin
  else if arguments.paths = [] then
    if asPath?.isSome ∨ json then .error .needsStdin else .ok (.paths [['.']])
  else
    .ok (.paths arguments.paths)

def Request.ofWords : List Text → Except UsageError Request
  | [] => .error .missingCommand
  | command :: words =>
      if command = "generate".toList then do
        let arguments ← Arguments.empty.addWords words
        let input ← arguments.input
        return ⟨input, arguments.options⟩
      else
        .error (.unknownCommand command)

end Command
end Stencil
