import StubGen.FileName
import StubGen.Schema

/-!
# StubGen.Import

The message modules that a stub module imports.  Stub modules lie below one root at the paths of
their schema files, so an import is relative: one dot for the package of the importing module, one
more for every directory above it, and then the directories of the imported file.  Well-known files
are imported from the runtime instead.
-/

namespace StubGen

/-- An import of one module under an alias. -/
structure ModuleImport where
  aliasName : String
  package : String
  moduleName : String
deriving DecidableEq, Repr

namespace ModuleImport

/-- The import as a statement of the generated language. -/
def statement (imported : ModuleImport) : String :=
  "from " ++ imported.package ++ " import " ++ imported.moduleName ++ " as " ++ imported.aliasName

def wellKnownPackage : String := "google.protobuf"

/-- The package that holds the messages of `dependency`, as seen from the stubs of `current`. -/
def packageFrom (current dependency : String) : String :=
  if FileName.isWellKnown dependency then wellKnownPackage
  else
    String.ofList (List.replicate (current.toList.count '/' + 1) '.' ++
      ['.'].intercalate (FileName.directoryComponents dependency))

/-- The import of the messages of `dependency` in the stubs of `current`. -/
def resolve (current dependency : String) : ModuleImport where
  aliasName := FileName.moduleAlias dependency
  package := packageFrom current dependency
  moduleName := FileName.messageModule dependency

end ModuleImport

/-! ## The imports of a file -/

/-- Texts in ascending order by code point, each once. -/
def ascending (texts : List String) : List String :=
  texts.foldl (fun sorted text => insertSorted false id text sorted) []

/-- Texts in order of first occurrence, each once. -/
def firstOccurrences (texts : List String) : List String :=
  texts.foldl (appendNew id) []

namespace SchemaFile

/-- The files that own a type that a method of this file refers to. -/
def owners (file : SchemaFile) : List String :=
  file.referencedTypes.map RecordType.fileName

/-- The files whose messages the stubs of this file import: the file itself if it has messages, its
dependencies in order, and then the other owners of referenced types in ascending order. -/
def importedFiles (file : SchemaFile) : List String :=
  let declared := firstOccurrences
    ((if file.hasMessages then [file.name] else []) ++ file.dependencies)
  declared ++ ascending (file.owners.filter fun owner => !declared.contains owner)

/-- The imports of the stubs of this file. -/
def imports (file : SchemaFile) : List ModuleImport :=
  file.importedFiles.map (ModuleImport.resolve file.name)

end SchemaFile

end StubGen
