import StubGen.CommandLine.Options

/-!
# StubGen.Settings

The settings of a run.  A command line gives them all; whoever starts a run by other means may leave
a setting blank, or leave it out:

1. the lists of paths, and the paths to clean up, have to be there, and no list may be blank, the
   descriptor sets apart;
2. whether searches are recursive has to be said once something is searched for, and blank is no;
3. everything else may be left out.

What is wrong with a setting shows when the setting is needed.
-/

namespace StubGen

/-- A setting that is given, left blank, or left out. -/
inductive Setting (α : Type) where
  | given (value : α)
  | blank
  | absent
deriving DecidableEq, Repr

/-- Why a setting cannot be used. -/
inductive SettingError where
  | leftOut (name : String)
  | blankList
  | blankCompiler
  /-- The schema compiler was given without a value. -/
  | valuelessCompiler
deriving DecidableEq, Repr

def SettingError.message : SettingError → String
  | .leftOut name => "'Namespace' object has no attribute '" ++ name ++ "'"
  | .blankList => "'NoneType' object is not iterable"
  | .blankCompiler => "sequence item 0: expected str instance, NoneType found"
  | .valuelessCompiler => "sequence item 0: expected str instance, list found"

namespace Setting

/-- The list of a setting that has to be given. -/
def needed (name : String) : Setting (List α) → Except SettingError (List α)
  | .given values => .ok values
  | .blank => .error .blankList
  | .absent => .error (.leftOut name)

/-- The list of a setting that may be left out. -/
def orNone : Setting (List α) → Except SettingError (List α)
  | .given values => .ok values
  | .blank => .error .blankList
  | .absent => .ok []

/-- The list of a setting that may be left out or blank. -/
def listed : Setting (List α) → List α
  | .given values => values
  | _ => []

/-- The answer of a setting that has to be given or blank. -/
def answered (name : String) : Setting Bool → Except SettingError Bool
  | .given answer => .ok answer
  | .blank => .ok false
  | .absent => .error (.leftOut name)

def isYes (setting : Setting Bool) : Bool :=
  setting == .given true

end Setting

/-- The settings of a run. -/
structure Settings where
  clean : Setting (List String) := .absent
  paths : Setting (List String) := .absent
  descriptorSets : Setting (List String) := .absent
  excludes : Setting (List String) := .absent
  outputDir : Setting (Option String) := .absent
  importPaths : Setting (List String) := .absent
  protoc : Setting (Option String) := .absent
  noFormat : Setting Bool := .absent
  pyright : Setting Bool := .absent
  recursive : Setting Bool := .absent
deriving DecidableEq, Repr

namespace Settings

/-- The settings that the options of a command line make. -/
def ofOptions (options : Options) : Settings where
  clean := .given options.clean
  paths := .given options.paths
  descriptorSets := .given options.descriptorSets
  excludes := .given options.excludes
  outputDir := .given options.outputDir
  importPaths := .given options.importPaths
  protoc := .given options.protoc
  noFormat := .given options.noFormat
  pyright := .given options.pyright
  recursive := .given options.recursive

/-- The schema compiler. -/
def compiler : Setting (Option String) → Except SettingError String
  | .given (some compiler) => .ok compiler
  | .given none => .error .valuelessCompiler
  | .blank => .error .blankCompiler
  | .absent => .ok "protoc"

/-- The directory that stubs are written below, seen from a working directory. -/
def outputDirectory (settings : Settings) (workingDirectory : String) : String :=
  match settings.outputDir with
  | .given (some directory) => if directory = "" then workingDirectory else directory
  | _ => workingDirectory

end Settings

end StubGen
