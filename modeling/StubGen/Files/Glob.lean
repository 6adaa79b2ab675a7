import StubGen.Files.Pattern
import StubGen.Files.Tree

/-!
# StubGen.Files.Glob

The paths that a path with patterns stands for.

1. A path without a pattern stands for itself if something is there, and with a slash at its end
   only if that is a directory.
2. The last step of a path is matched in every directory that the path before it stands for; in a
   step without a pattern, the name has to exist.
3. Names that start with a point are matched only by patterns that start with a point.
4. A step `**`, where it is allowed to, stands for the path before it, whether something is there or
   not, and for all that lies below it, at any depth, without names that start with a point on the
   way.
5. A directory that is not there has no names in it, but to list one whose path holds a null
   character is an error.

The paths found are spelled as the pattern is, and may be found more than once.
-/

namespace StubGen.Glob

/-- Whether a name is left out unless asked for. -/
def isHidden (name : String) : Bool :=
  ".".toList.isPrefixOf name.toList

/-- Where paths are looked up, and whether `**` spans directories. -/
structure Scope where
  tree : FileTree
  workingDirectory : String
  recursive : Bool

namespace Scope

def isDirectory (scope : Scope) (path : String) : Bool :=
  scope.tree.isDirectory scope.workingDirectory path

/-- The place of a directory that is to be listed, if it is there. -/
def listing (scope : Scope) (directory : String) : Except PathError (Option Place) :=
  match scope.tree.lookup scope.workingDirectory directory with
  | .ok (place, .directory) => .ok (some place)
  | .error .nullByte => .error ⟨.nullByte, directory⟩
  -- whatever else keeps a directory from being listed, there is nothing to be found in it
  | _ => .ok none

/-- The names at a place, or only those of directories. -/
def namesAt (scope : Scope) (directoriesOnly : Bool) (place : Place) : List String :=
  (scope.tree.namesIn place).filter fun name =>
    !directoriesOnly || scope.tree.get? (place ++ [name]) == some .directory

/-- The entries below a directory, by its spelling and its place, with the steps that lead to them.
A directory whose path is too long is taken for an empty one. -/
def reachedBelow (scope : Scope) (directory : String) (place : Place) : List (Place × Entry) :=
  (scope.tree.below place).filter fun found =>
    (Path.descend directory found.1.dropLast).utf8ByteSize < pathLimit

/-- The paths from a directory to all that lies visibly below it, or only to directories. -/
def visibleBelow (scope : Scope) (directoriesOnly : Bool) (directory : String) (place : Place) :
    List String :=
  ((scope.reachedBelow directory place).filter fun found =>
    found.1.all (fun name => !isHidden name) &&
      (!directoriesOnly || found.2 == .directory)).map fun found => "/".intercalate found.1

/-- The names in a directory that a pattern matches, or only those of directories. -/
def matchesIn (scope : Scope) (directoriesOnly : Bool) (pattern : String) (place : Place) :
    List String :=
  (scope.namesAt directoriesOnly place).filter fun name =>
    (isHidden pattern || !isHidden name) && Pattern.matchesName pattern name

/-- What a last step without a pattern stands for in one directory. -/
def plainStep (scope : Scope) (directory step : String) : List String :=
  if step = "" then if scope.isDirectory directory then [""] else []
  else if scope.tree.hasPath scope.workingDirectory (Path.join directory step) then [step]
  else []

/-- What a last step stands for in one directory. -/
def expandStep (scope : Scope) (directoriesOnly : Bool) (directory step : String) :
    Except PathError (List String) :=
  if step = "**" ∧ scope.recursive then
    (scope.listing directory).map fun place =>
      -- the path before this step is found whether it leads anywhere or not
      "" :: place.elim [] (scope.visibleBelow directoriesOnly directory)
  else if Pattern.isPattern step then
    (scope.listing directory).map fun place =>
      place.elim [] (scope.matchesIn directoriesOnly step)
  else .ok (scope.plainStep directory step)

/-- What a last step stands for in several directories. -/
def expandSteps (scope : Scope) (directoriesOnly : Bool) (step : String) :
    (directories : List String) → Except PathError (List String)
  | [] => .ok []
  | directory :: rest =>
    match scope.expandStep directoriesOnly directory step with
    | .error problem => .error problem
    | .ok found =>
      (scope.expandSteps directoriesOnly step rest).map (found.map (Path.join directory) ++ ·)

/-- What a path without a pattern stands for. -/
def plainPath (scope : Scope) (path : String) : List String :=
  let split := Path.splitLast path
  if split.2 = "" then if scope.isDirectory split.1 then [path] else []
  else if scope.tree.hasPath scope.workingDirectory path then [path] else []

/-- What a path stands for, or only the directories among it, where at most `depth` steps of the
path are patterns. -/
def expandUpTo (scope : Scope) :
    (depth : Nat) → (directoriesOnly : Bool) → String → Except PathError (List String)
  | 0, _, _ => .ok []
  | depth + 1, directoriesOnly, path =>
    let split := Path.splitLast path
    if Pattern.isPattern path then
      let directories :=
        if Pattern.isPattern split.1 then scope.expandUpTo depth true split.1 else .ok [split.1]
      -- a directory may be found on several ways, and is searched once
      match directories with
      | .error problem => .error problem
      | .ok directories => scope.expandSteps directoriesOnly split.2 directories.eraseDups
    else .ok (scope.plainPath path)

/-- What a path stands for. -/
def expand (scope : Scope) (path : String) : Except PathError (List String) :=
  scope.expandUpTo (path.length + 1) false path

end Scope

end StubGen.Glob
