import StubGen.Files.Path
import StubGen.Text.Quoted
import StubGen.Text.Utf8

/-!
# StubGen.Files.Tree

A file system of regular files and directories, as the list of what is at which place.  The top is
always a directory.  Operations take paths as they are spelled, follow them step by step through
existing directories, and fail with the path and the cause otherwise.  A path is less than 4096
bytes long, each of its names at most 255, and it holds no null character.
-/

namespace StubGen

/-! ## Failures -/

/-- Why something cannot be done with a path. -/
inductive PathCause where
  | notFound
  | permissionDenied
  | alreadyExists
  | notDirectory
  | isDirectory
  | nameTooLong
  /-- The path holds a null character, which ends paths for the operating system. -/
  | nullByte
deriving DecidableEq, Repr

/-- The number that the operating system has for a cause, and its description.  It never gets to see
a path with a null character. -/
def PathCause.describe? : PathCause → Option (Nat × String)
  | .notFound => some (2, "No such file or directory")
  | .permissionDenied => some (13, "Permission denied")
  | .alreadyExists => some (17, "File exists")
  | .notDirectory => some (20, "Not a directory")
  | .isDirectory => some (21, "Is a directory")
  | .nameTooLong => some (36, "File name too long")
  | .nullByte => none

/-- A path with which something cannot be done. -/
structure PathError where
  cause : PathCause
  path : String
deriving DecidableEq, Repr

def PathError.message (error : PathError) : String :=
  match error.cause.describe? with
  | some (number, description) =>
    "[Errno " ++ toString number ++ "] " ++ description ++ ": " ++ Text.quoted error.path
  | none => "embedded null byte"

/-- Whether it was the operating system that refused a path. -/
def PathError.isSystem (error : PathError) : Bool :=
  error.cause.describe?.isSome

/-- The number of bytes from which on a path is too long. -/
def pathLimit : Nat := 4096

/-- The number of bytes up to which a name is not too long. -/
def nameLimit : Nat := 255

def hasNull (path : String) : Bool :=
  path.toList.contains '\x00'

/-- Why a path cannot be used wherever it leads to. -/
def unusable? (path : String) : Option PathCause :=
  if hasNull path then some .nullByte
  else if path = "" then some .notFound
  else if pathLimit ≤ path.utf8ByteSize then some .nameTooLong
  else none

/-! ## The tree -/

/-- What is at a place. -/
inductive Entry where
  | file (data : Bytes)
  | directory
deriving DecidableEq, Repr

/-- A file system. -/
structure FileTree where
  entries : List (Place × Entry) := []
deriving DecidableEq, Repr

namespace FileTree

/-- What is at a place, if anything. -/
def get? (tree : FileTree) (place : Place) : Option Entry :=
  if place = [] then some .directory
  else (tree.entries.find? fun entry => entry.1 == place).map Prod.snd

def erase (tree : FileTree) (place : Place) : FileTree where
  entries := tree.entries.filter fun entry => entry.1 != place

/-- The tree with nothing at a place or below it. -/
def eraseAll (tree : FileTree) (place : Place) : FileTree where
  entries := tree.entries.filter fun entry => !place.isPrefixOf entry.1

def put (tree : FileTree) (place : Place) (entry : Entry) : FileTree where
  entries := (place, entry) :: (tree.erase place).entries

/-- The tree with an entry at a place, and directories on the way to it. -/
def putDeep (tree : FileTree) (place : Place) (entry : Entry) : FileTree :=
  let parents := (List.range place.length).map fun n => place.take n
  let missing := parents.filter fun parent => (tree.get? parent).isNone
  (missing.foldl (fun tree parent => tree.put parent .directory) tree).put place entry

/-- The names of the entries in a directory. -/
def namesIn (tree : FileTree) (place : Place) : List String :=
  tree.entries.filterMap fun entry =>
    match entry.1.getLast? with
    | some name => if entry.1.dropLast == place then some name else none
    | none => none

/-- The entries below a directory at any depth, with the steps that lead to them. -/
def below (tree : FileTree) (place : Place) : List (Place × Entry) :=
  tree.entries.filterMap fun entry =>
    if place.isPrefixOf entry.1 && entry.1 != place then
      some (entry.1.drop place.length, entry.2)
    else none

/-! ## Following paths -/

/-- Follow steps from a place, each through an existing directory. -/
def follow (tree : FileTree) (place : Place) : List String → Except PathCause Place
  | [] => .ok place
  | step :: rest =>
    match tree.get? place with
    | none => .error .notFound
    | some (.file _) => .error .notDirectory
    | some .directory =>
      if step = "" || step = "." then tree.follow place rest
      else if step = ".." then tree.follow place.dropLast rest
      else if nameLimit < step.utf8ByteSize then .error .nameTooLong
      else tree.follow (place ++ [step]) rest

/-- The place that a path leads to, where the last step need not exist. -/
def locate (tree : FileTree) (workingDirectory path : String) : Except PathCause Place :=
  match unusable? path with
  | some cause => .error cause
  | none => tree.follow [] (Path.steps (Path.join workingDirectory path))

/-- The place that a path leads to, and what is there. -/
def lookup (tree : FileTree) (workingDirectory path : String) : Except PathCause (Place × Entry) :=
  match tree.locate workingDirectory path with
  | .error cause => .error cause
  | .ok place =>
    match tree.get? place with
    | none => .error .notFound
    | some entry => .ok (place, entry)

def hasPath (tree : FileTree) (workingDirectory path : String) : Bool :=
  (tree.lookup workingDirectory path).toBool

def isDirectory (tree : FileTree) (workingDirectory path : String) : Bool :=
  match tree.lookup workingDirectory path with
  | .ok (_, .directory) => true
  | _ => false

def isFile (tree : FileTree) (workingDirectory path : String) : Bool :=
  match tree.lookup workingDirectory path with
  | .ok (_, .file _) => true
  | _ => false

/-! ## Reading, writing and removing -/

/-- The content of the file at a path. -/
def read (tree : FileTree) (workingDirectory path : String) : Except PathError Bytes :=
  match tree.lookup workingDirectory path with
  | .error cause => .error ⟨cause, path⟩
  | .ok (_, .directory) => .error ⟨.isDirectory, path⟩
  | .ok (_, .file data) => .ok data

/-- The place that a path leads to without its last step, which has to be a directory, and that
step, unless it is no name for something in there. -/
def parentAndName (tree : FileTree) (workingDirectory path : String) :
    Except PathCause (Place × Option String) :=
  match unusable? path with
  | some cause => .error cause
  | none =>
    let steps := Path.steps (Path.join workingDirectory path)
    let last := steps.getLastD ""
    match tree.follow [] steps.dropLast with
    | .error cause => .error cause
    | .ok place =>
      match tree.get? place with
      | none => .error .notFound
      | some (.file _) => .error .notDirectory
      | some .directory =>
        -- these lead somewhere, but nothing in the directory has such a name
        if last = "" || last = "." || last = ".." then .ok (place, none)
        else if nameLimit < last.utf8ByteSize then .error .nameTooLong
        else .ok (place, some last)

/-- Write a file, which replaces the one at its path if there is one. -/
def write (tree : FileTree) (workingDirectory path : String) (data : Bytes) :
    Except PathError FileTree :=
  match tree.parentAndName workingDirectory path with
  | .error cause => .error ⟨cause, path⟩
  | .ok (_, none) => .error ⟨.isDirectory, path⟩
  | .ok (place, some name) =>
    match tree.get? (place ++ [name]) with
    | some .directory => .error ⟨.isDirectory, path⟩
    | _ => .ok (tree.put (place ++ [name]) (.file data))

/-- Remove the file at a path. -/
def remove (tree : FileTree) (workingDirectory path : String) : Except PathError FileTree :=
  match tree.lookup workingDirectory path with
  | .error cause => .error ⟨cause, path⟩
  | .ok (_, .directory) => .error ⟨.isDirectory, path⟩
  | .ok (place, .file _) => .ok (tree.erase place)

/-! ## Making directories -/

/-- A path without the slashes at its end. -/
def withoutTrailingSlashes (path : String) : String :=
  String.ofList (path.toList.reverse.dropWhile (· == '/')).reverse

/-- Make a directory in an existing one. -/
def makeDirectory (tree : FileTree) (workingDirectory path : String) : Except PathError FileTree :=
  if path = "" then .error ⟨.notFound, path⟩
  else if withoutTrailingSlashes path = "" then .error ⟨.alreadyExists, path⟩
  else
    match tree.parentAndName workingDirectory (withoutTrailingSlashes path) with
    | .error cause => .error ⟨cause, path⟩
    | .ok (_, none) => .error ⟨.alreadyExists, path⟩
    | .ok (place, some name) =>
      match tree.get? (place ++ [name]) with
      | some _ => .error ⟨.alreadyExists, path⟩
      | none => .ok (tree.put (place ++ [name]) .directory)

/-- The last step of a path and the path before it, where slashes at the end do not count. -/
def parentOf (path : String) : String × String :=
  match Path.splitLast path with
  | (front, "") => Path.splitLast front
  | split => split

/-- Make a directory, which may be there already. -/
def ensureDirectory (tree : FileTree) (workingDirectory path : String) :
    FileTree × Option PathError :=
  match tree.makeDirectory workingDirectory path with
  | .ok tree => (tree, none)
  | .error problem =>
    if tree.isDirectory workingDirectory path then (tree, none) else (tree, some problem)

/-- Make a directory and at most `depth` that are missing on the way to it. -/
def ensureUpTo (workingDirectory : String) :
    (depth : Nat) → FileTree → (path : String) → FileTree × Option PathError
  | 0, tree, path => tree.ensureDirectory workingDirectory path
  | depth + 1, tree, path =>
    let parent := parentOf path
    if parent.1 = "" || parent.2 = "" || tree.hasPath workingDirectory parent.1 then
      tree.ensureDirectory workingDirectory path
    else
      let made := ensureUpTo workingDirectory depth tree parent.1
      -- if something that is no directory is in the way, the next step cannot be taken either
      match made.2.filter fun problem => problem.cause ≠ .alreadyExists with
      | some problem => (made.1, some problem)
      | none =>
        if parent.2 = "." then (made.1, none) else made.1.ensureDirectory workingDirectory path

/-- Make a directory and all that are missing on the way to it.  What was made stays when a later
step fails; that something other than a directory is in the way shows one step later. -/
def ensureDirectories (tree : FileTree) (workingDirectory path : String) :
    FileTree × Option PathError :=
  ensureUpTo workingDirectory path.length tree path

end FileTree

end StubGen
