import StubGen.FileName
import StubGen.Files.Glob
import StubGen.Import
import StubGen.Settings

/-!
# StubGen.Files.Search

The schema files that path arguments stand for.  A directory stands for the schema files in it, or,
in a recursive search, at any depth below it; any other argument is a path with patterns.  Paths
that are excluded are left out; an exclusion counts only for the very spelling under which a file
was found.  What is left are the places of absolute paths, each path once.  Exclusions are looked up
first.
-/

namespace StubGen

/-- Why a search fails. -/
inductive SearchError where
  | setting (error : SettingError)
  | path (error : PathError)
deriving DecidableEq, Repr

namespace Glob.Scope

/-- The schema files right in a directory, by the spelling of the directory. -/
def schemaFilesIn (scope : Scope) (directory : String) (place : Place) : List String :=
  ((scope.namesAt false place).filter fun name =>
    FileName.hasSchemaSuffix name &&
      scope.tree.isFile scope.workingDirectory (Path.join directory name)).map (Path.join directory)

/-- The schema files at any depth below a directory, by the spelling of the directory. -/
def schemaFilesBelow (scope : Scope) (directory : String) (place : Place) : List String :=
  ((scope.reachedBelow directory place).filter fun found =>
    found.2 != .directory && FileName.hasSchemaSuffix (found.1.getLastD "")).map fun found =>
      Path.join directory ("/".intercalate found.1)

/-- The paths that an argument stands for. -/
def search (scope : Scope) (path : String) : Except PathError (List String) :=
  match scope.tree.lookup scope.workingDirectory path with
  | .ok (place, .directory) =>
    .ok (if scope.recursive then scope.schemaFilesBelow path place
      else scope.schemaFilesIn path place)
  | _ => scope.expand path

end Glob.Scope

/-- Arguments of a search. -/
structure SearchRequest where
  paths : Setting (List String)
  excludes : Setting (List String)
  recursive : Setting Bool
deriving DecidableEq, Repr

namespace SearchRequest

/-- Look paths up in a tree, seen from a working directory, if it is known how. -/
def lookUp (request : SearchRequest) (tree : FileTree) (workingDirectory : String)
    (find : Glob.Scope → Except PathError (List String)) : Except SearchError (List String) :=
  match request.recursive.answered "recursive" with
  | .error problem => .error (.setting problem)
  | .ok recursive => (find ⟨tree, workingDirectory, recursive⟩).mapError .path

/-- The paths that an argument excludes. -/
def excludedBy (request : SearchRequest) (tree : FileTree) (workingDirectory path : String) :
    Except SearchError (List String) :=
  -- a file is excluded by its name even if that reads like a pattern
  if tree.isFile workingDirectory path then .ok [path]
  else request.lookUp tree workingDirectory fun scope => scope.expand path

/-- The paths that some arguments stand for together, each as seen from a working directory. -/
def gather (find : String → Except SearchError (List String)) (workingDirectory : String) :
    List String → Except SearchError (List String)
  | [] => .ok []
  | path :: rest =>
    match find (Path.join workingDirectory path) with
    | .error problem => .error problem
    | .ok found => (gather find workingDirectory rest).map (found ++ ·)

/-- The paths that a search leaves out. -/
def excludedPaths (request : SearchRequest) (tree : FileTree) (workingDirectory : String) :
    Except SearchError (List String) :=
  match request.excludes.needed "excludes" with
  | .error problem => .error (.setting problem)
  | .ok excludes =>
    gather (request.excludedBy tree workingDirectory) workingDirectory excludes

/-- The paths that a search would find if it left out none. -/
def matchedPaths (request : SearchRequest) (tree : FileTree) (workingDirectory : String) :
    Except SearchError (List String) :=
  match request.paths.needed "paths" with
  | .error problem => .error (.setting problem)
  | .ok paths =>
    gather (fun path => request.lookUp tree workingDirectory fun scope => scope.search path)
      workingDirectory paths

/-- The paths that a search finds in a tree, seen from a working directory. -/
def foundPaths (request : SearchRequest) (tree : FileTree) (workingDirectory : String) :
    Except SearchError (List String) :=
  match request.excludedPaths tree workingDirectory with
  | .error problem => .error problem
  | .ok excluded =>
    (request.matchedPaths tree workingDirectory).map fun matched =>
      matched.filter fun path => !excluded.contains path

/-- The places of the paths that a search finds, each path once. -/
def run (request : SearchRequest) (tree : FileTree) (workingDirectory : String) :
    Except SearchError (List Place) :=
  (request.foundPaths tree workingDirectory).map fun found =>
    (found.map (Path.absolute workingDirectory)).eraseDups.map Prod.snd

end SearchRequest

/-- Put a text where it belongs in an ascending list, behind those that are equal to it. -/
def insertRepeated (text : String) : List String → List String
  | [] => [text]
  | first :: rest =>
    if text < first then text :: first :: rest else first :: insertRepeated text rest

/-- The names of schema files at some places relative to the working directory, in ascending order
and as often as they occur. -/
def schemaNames (workingDirectory : String) (places : List Place) : List String :=
  (places.map (Path.relative (Path.place workingDirectory ""))).foldl
    (fun sorted name => insertRepeated name sorted) []

end StubGen
