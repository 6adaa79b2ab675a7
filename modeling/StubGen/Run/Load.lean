import StubGen.Files.Search
import StubGen.Run.Action

/-!
# StubGen.Run.Load

The schemas that a run generates stubs for.

1. If compiled schemas are given, all their files are taken but the well-known ones; of several
   files with one name the first counts, and files come in ascending order of their names.
2. Otherwise the schema files that the paths stand for are compiled by the schema compiler, relative
   to the working directory, into a temporary directory.
-/

namespace StubGen.Load

/-! ## The schema compiler -/

def compileCommand (compiler output : String) (importPaths files : List String) : List String :=
  [compiler, "--include_imports", "--include_source_info", "--descriptor_set_out=" ++ output] ++
    importPaths.map ("--proto_path=" ++ ·) ++ files

/-- Compile schema files. -/
def compile (compiler : Setting (Option String)) (output : String)
    (importPaths files : List String) : Action Unit := do
  let compiler ← Action.ofExcept .setting (Settings.compiler compiler)
  let command := compileCommand compiler output importPaths files
  Action.note [.debug ("Running " ++ " ".intercalate command)]
  match ← Action.start command with
  | .error (.path problem) =>
    -- only a compiler that is not there has a message of its own
    if problem.cause = .notFound then Action.fail (.compile (.missingCompiler compiler))
    else Action.fail (.path problem)
  | .error problem => Action.fail (.ofLaunchError problem)
  | .ok finished =>
    if finished.status ≠ 0 then
      Action.fail (.compile (.failed finished.status finished.errorText))
    else pure ()

/-! ## Compiled schemas -/

def conversionFailure : ConversionError → Failure
  | .malformedOption => .malformed
  | error => .conversion error

/-- The schemas of the selected files of a descriptor set. -/
def schemasOf (data : Bytes) (selected : Option (List String)) : Action (List SchemaFile) := do
  match descriptorSet? data with
  | none => Action.fail .malformed
  | some files =>
    Action.note (conversionLog files selected)
    Action.ofExcept conversionFailure (schemaFiles files selected)

/-- Add the files of a descriptor set to those of earlier ones, in ascending order of names. -/
def merge (loaded files : List SchemaFile) : List SchemaFile :=
  (files.filter fun file => !FileName.isWellKnown file.name).foldl
    (fun loaded file => insertSorted false SchemaFile.name file loaded) loaded

/-- Add the schemas of the descriptor set at a path to those of earlier ones. -/
def loadSet (loaded : List SchemaFile) (path : String) : Action (List SchemaFile) := do
  let site ← Action.site
  let data ← Action.readFile (Path.tidy (Path.join site.workingDirectory path))
  let files ← schemasOf data none
  return merge loaded files

/-! ## Schema files -/

/-- Compile schema files in a temporary directory, and read what comes out. -/
def compileTemporarily (compiler : Setting (Option String)) (importPaths files : List String) :
    Action Bytes := do
  let directory := (← Action.site).temporaryDirectory
  Action.makeDirectories directory
  let output := Path.join directory "descriptors.pb"
  compile compiler output importPaths files
  Action.readFile output

def withoutTemporaryDirectory (site : Site) (tree : FileTree) : FileTree :=
  tree.eraseAll (Path.place site.workingDirectory site.temporaryDirectory)

/-- The search that some settings ask for. -/
def searchRequest (settings : Settings) : SearchRequest where
  paths := settings.paths
  excludes := settings.excludes
  recursive := settings.recursive

def searchFailure : SearchError → Failure
  | .setting error => .setting error
  | .path error => .path error

/-- The names of the schema files that some settings ask for. -/
def schemaFileNames (settings : Settings) : Action (List String) := do
  let site ← Action.site
  let tree ← Action.tree
  let places ← Action.ofExcept searchFailure
    ((searchRequest settings).run tree site.workingDirectory)
  return schemaNames site.workingDirectory places

/-- The schemas of schema files, compiled as some settings ask for. -/
def loadFiles (settings : Settings) (files : List String) : Action (List SchemaFile) := do
  let site ← Action.site
  let given ← Action.ofExcept .setting settings.importPaths.orNone
  let importPaths := site.workingDirectory :: given.map (Path.join site.workingDirectory)
  let data ← (compileTemporarily settings.protoc importPaths files).thenAlways
    withoutTemporaryDirectory
  schemasOf data (some files)

/-- The schemas that some settings ask for. -/
def load (settings : Settings) : Action (List SchemaFile) := do
  if !settings.descriptorSets.listed.isEmpty then settings.descriptorSets.listed.foldlM loadSet []
  else
    let files ← schemaFileNames settings
    if files.isEmpty then
      Action.note [.warning "No schema files found."]
      return []
    else loadFiles settings files

end StubGen.Load
