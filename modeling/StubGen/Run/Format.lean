import StubGen.Run.Action
import StubGen.Text.Lines

/-!
# StubGen.Run.Format

Formatting of generated code by an external program, which works on a temporary file: first the
imports are sorted, which may fail, and then the whole is formatted.  If the operating system
refuses to write the file or to start the program, or if the program ends badly or takes the file
away, the code stays as it was.  The temporary file is removed in any case.
-/

namespace StubGen.Format

def sortCommand (path : String) : List String :=
  ["ruff", "check", "--fix", "--select", "I", path]

def formatCommand (path : String) : List String :=
  ["ruff", "format", "--line-length", "120", path]

/-- What became of an attempt to format some code. -/
inductive Outcome where
  | formatted (text : String)
  /-- The formatting command ended badly. -/
  | rejected (finished : Finished)
  /-- The operating system refused to start the program, or to let the temporary file be used. -/
  | unavailable (reason : String)
  /-- The attempt has failed for another reason. -/
  | broken (failure : Failure)
deriving DecidableEq, Repr

/-- An attempt that ended before its time. -/
def Outcome.ofLaunchError (problem : LaunchError) : Outcome :=
  let failure := Failure.ofLaunchError problem
  if problem.isSystem then .unavailable failure.message else .broken failure

/-- The formatted text in a file. -/
def readBack (path : String) : Action Outcome := do
  let site ← Action.site
  let tree ← Action.tree
  match tree.read site.workingDirectory path with
  | .error problem => return .ofLaunchError (.path problem)
  | .ok data => return .formatted (Text.unifyNewlines (Text.decodeUtf8 data))

/-- Format the file at a path. -/
def formatFile (path : String) : Action Outcome := do
  match ← Action.start (sortCommand path) with
  | .error problem => return .ofLaunchError problem
  | .ok _ =>
    -- that the imports could not be sorted does not keep the rest from being formatted
    match ← Action.start (formatCommand path) with
    | .error problem => return .ofLaunchError problem
    | .ok finished =>
      if finished.status ≠ 0 then return .rejected finished else readBack path

/-- Put some code into the temporary file and format that. -/
def attempt (text : String) : Action Outcome := do
  let site ← Action.site
  let tree ← Action.tree
  match tree.write site.workingDirectory site.temporaryFile (Text.encodeUtf8 text) with
  | .error problem => return .ofLaunchError (.path problem)
  | .ok written =>
    Action.setTree written
    formatFile site.temporaryFile

def withoutTemporaryFile (site : Site) (tree : FileTree) : FileTree :=
  tree.erase (Path.place site.workingDirectory site.temporaryFile)

/-- Formatted code, or the code as it was. -/
def format (text : String) : Action String := do
  let path := (← Action.site).temporaryFile
  match ← (attempt text).thenAlways withoutTemporaryFile with
  | .formatted formatted => return formatted
  | .rejected finished =>
    Action.note
      [.error ("Ruff formatting failed: " ++
        failedCommandMessage (formatCommand path) finished.status),
       .error ("Stderr: " ++ finished.errorText)]
    return text
  | .unavailable reason =>
    Action.note [.error ("Unable to run ruff: " ++ reason)]
    return text
  | .broken failure => Action.fail failure

end StubGen.Format
