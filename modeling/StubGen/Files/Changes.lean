import StubGen.Files.Tree

/-!
# StubGen.Files.Changes

What has become different between two file systems.
-/

namespace StubGen

/-- Differences between two file systems. -/
structure Changes where
  /-- Files that are new or have another content, with their content. -/
  written : List (Place × Bytes) := []
  /-- Directories that are new. -/
  directories : List Place := []
  /-- Places at which there is nothing any more, or a directory in place of a file. -/
  removed : List Place := []
deriving DecidableEq, Repr

/-- The differences from one file system to another. -/
def FileTree.changes (before after : FileTree) : Changes where
  written := after.entries.filterMap fun entry =>
    match entry.2 with
    | .file data => if before.get? entry.1 = some entry.2 then none else some (entry.1, data)
    | .directory => none
  directories := (after.entries.filter fun entry =>
    entry.2 == .directory && before.get? entry.1 != some .directory).map Prod.fst
  removed := (before.entries.filter fun entry =>
    match entry.2, after.get? entry.1 with
    | _, none => true
    | .file _, some .directory => true
    | _, _ => false).map Prod.fst

end StubGen
