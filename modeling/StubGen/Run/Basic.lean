import StubGen.Run.Format
import StubGen.Run.Load
import StubGen.Run.Validate
import StubGen.Stub.Module

/-!
# StubGen.Run.Basic

A run: files are cleaned up, schemas are loaded, all stubs are generated, and only then are they
written, each formatted before, and checked at the end.
-/

namespace StubGen.Run

/-- The paths that some arguments ask to clean up. -/
def cleanPaths (scope : Glob.Scope) : List String → Except PathError (List String)
  | [] => .ok []
  | path :: rest =>
    match scope.expand (Path.join scope.workingDirectory path) with
    | .error problem => .error problem
    | .ok found => (cleanPaths scope rest).map (found ++ ·)

/-- Remove files. -/
def removeAll : List String → Action Unit
  | [] => pure ()
  | path :: rest => do
    Action.removeFile path
    removeAll rest

/-- Remove the files that some settings ask to clean up. -/
def clean (settings : Settings) : Action Unit := do
  let site ← Action.site
  let tree ← Action.tree
  let given ← Action.ofExcept .setting (settings.clean.needed "clean")
  -- with nothing to clean up, it does not matter how paths would be looked up
  if given.isEmpty then pure ()
  else
    let recursive ← Action.ofExcept .setting (settings.recursive.answered "recursive")
    let paths ← Action.ofExcept .path (cleanPaths ⟨tree, site.workingDirectory, recursive⟩ given)
    removeAll (ascending paths)

/-- The stub modules of some schemas. -/
def generate (files : List SchemaFile) : Action (List Stub.Output) := do
  Action.note (Stub.generationLog files)
  Action.ofExcept .clash (Stub.generate files)

/-- Write a stub module below a directory.  The result is its path. -/
def writeOutput (settings : Settings) (directory : String) (output : Stub.Output) :
    Action String := do
  let path := Path.join directory output.name
  Action.makeDirectories (Path.directory path)
  let text ← if settings.noFormat.isYes then pure output.text else Format.format output.text
  Action.writeFile path (Text.encodeUtf8 text)
  Action.note [.info ("Wrote stubs to '" ++ path ++ "'.")]
  return path

/-- Write stub modules below a directory.  The results are their paths. -/
def writeOutputs (settings : Settings) (directory : String) :
    List Stub.Output → Action (List String)
  | [] => pure []
  | output :: rest => do
    let path ← writeOutput settings directory output
    let paths ← writeOutputs settings directory rest
    return path :: paths

/-- Do a run. -/
def run (settings : Settings) : Action Unit := do
  let site ← Action.site
  clean settings
  let files ← Load.load settings
  let outputs ← generate files
  -- a clash in any file has ended the run by now, before anything was written
  let paths ← writeOutputs settings (settings.outputDirectory site.workingDirectory) outputs
  if settings.pyright.isYes then Validate.validate paths else pure ()

end StubGen.Run
