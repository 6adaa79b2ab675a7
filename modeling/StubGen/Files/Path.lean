/-!
# StubGen.Files.Path

Paths as texts, with `/` between their steps.  A path that starts with `/` leads from the top of the
file system, any other from the working directory.  Paths are kept as they are spelled; what they
lead to is their *place*, the names from the top.
-/

namespace StubGen

/-- The names that lead to a place from the top of the file system. -/
abbrev Place := List String

namespace Path

/-! ## Taking paths apart and together -/

def isAbsolute (path : String) : Bool :=
  "/".toList.isPrefixOf path.toList

/-- A path as seen from a base; one that leads from the top is itself. -/
def join (base path : String) : String :=
  if isAbsolute path then path
  else if base = "" || "/".toList.isSuffixOf base.toList then base ++ path
  else base ++ "/" ++ path

/-- The path that some names lead to, one after the other, from a base. -/
def descend (base : String) (names : Place) : String :=
  names.foldl join base

/-- A path without its last step, and that step.  The slashes between them are dropped, unless
nothing else is in front. -/
def splitLast (path : String) : String × String :=
  let backwards := path.toList.reverse
  let front := backwards.dropWhile (· != '/')
  -- slashes alone lead to the top, and have to stay
  let directory := if front.all (· == '/') then front else front.dropWhile (· == '/')
  (String.ofList directory.reverse, String.ofList (backwards.takeWhile (· != '/')).reverse)

/-- A path without its last step. -/
def directory (path : String) : String :=
  (splitLast path).1

/-- The texts between the slashes of a path. -/
def steps (path : String) : List String :=
  (path.toList.splitOn '/').map String.ofList

/-! ## Places -/

/-- One step further from a place that is given in reverse.  An empty step and `.` stay, `..` goes
up, and stays at the top. -/
def advance (reversed : Place) (step : String) : Place :=
  if step = "" || step = "." then reversed
  else if step = ".." then reversed.tail
  else step :: reversed

/-- The place of a path by its spelling alone, as seen from a working directory. -/
def place (workingDirectory path : String) : Place :=
  ((steps (join workingDirectory path)).foldl advance []).reverse

/-- Whether two slashes, and no more, are in front of a path. -/
def hasTwoSlashes (path : String) : Bool :=
  match path.toList with
  | '/' :: '/' :: '/' :: _ => false
  | '/' :: '/' :: _ => true
  | _ => false

/-- A path from the top by its spelling alone: its place, and whether it keeps two slashes at its
front, which make another path of it. -/
def absolute (workingDirectory path : String) : Bool × Place :=
  (hasTwoSlashes (join workingDirectory path), place workingDirectory path)

/-- The steps from one place to another: up as often as needed, and then down. -/
def stepsBetween : (start target : Place) → List String
  | start :: starts, target :: targets =>
    if start = target then stepsBetween starts targets
    else (start :: starts).map (fun _ => "..") ++ target :: targets
  | starts, targets => starts.map (fun _ => "..") ++ targets

/-- The path from one place to another. -/
def relative (start target : Place) : String :=
  match stepsBetween start target with
  | [] => "."
  | steps => "/".intercalate steps

/-- A path from the top, without empty steps and `.` steps; two slashes at its front stay. -/
def tidy (path : String) : String :=
  let front := match path.toList with
    | '/' :: '/' :: '/' :: _ => "/"
    | '/' :: '/' :: _ => "//"
    | '/' :: _ => "/"
    | _ => ""
  front ++ "/".intercalate ((steps path).filter fun step => step != "" && step != ".")

end Path

end StubGen
