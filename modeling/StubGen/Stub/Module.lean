import StubGen.Import
import StubGen.Log
import StubGen.Stub.Client
import StubGen.Stub.Server

/-!
# StubGen.Stub.Module

The stub module of a schema file: its header with the comments on the file, the description and the
imports, the shared helpers, the client classes of all services, their server classes, and the
trailing comments on the file.  A file without services has no stub module.
-/

namespace StubGen.Stub

/-- A generated module: its path below the output root, and its text. -/
structure Output where
  name : String
  text : String
deriving DecidableEq, Repr

/-! ## The text of a module -/

/-- Write the header of a module and the comments on its file. -/
def writeHeader (file : SchemaFile) (out : Emitter) : Emitter :=
  let out := out.render (.fileHeader file.name)
  match file.comments.leadingAt SchemaFile.location with
  | [] => out
  | lines => (out.line "# Original file comments:").extend lines

/-- Write the description of a module, its imports and the shared helpers. -/
def writePreamble (file : SchemaFile) (out : Emitter) : Emitter :=
  let out := out.blank.render (.modulePreamble file.name)
  let out := out.extend (file.imports.map ModuleImport.statement)
  out.blank.blank.render .payloadHelpers

/-- Write the trailing comments on a file. -/
def writeTrailer (file : SchemaFile) (out : Emitter) : Emitter :=
  match file.comments.trailingAt SchemaFile.location with
  | [] => out
  | lines => out.blank.extend lines

/-- Write a whole module. -/
def writeModule (file : SchemaFile) (services : List BoundService) (out : Emitter) : Emitter :=
  let out := writePreamble file (writeHeader file out)
  let out := out.each services fun out bound => writeClient file.comments bound out.blank.blank
  let out := out.each services fun out bound => writeServer file.comments bound out.blank.blank
  writeTrailer file out

/-! ## Generation -/

/-- The stub module of a file with services, or the first clash among the names of its methods. -/
def moduleOf (file : SchemaFile) : Except NameClash Output :=
  match file.services.mapM bindService with
  | .error clash => .error clash
  | .ok services =>
    .ok { name := FileName.stubFile file.name, text := (writeModule file services {}).text }

/-- The stub modules of all files that declare services, or the first clash. -/
def generate (files : List SchemaFile) : Except NameClash (List Output) :=
  (files.filter fun file => !file.services.isEmpty).mapM moduleOf

/-! ## What generation reports -/

/-- The services up to the first with a clash. -/
def servicesBeforeClash (services : List Service) : List Service :=
  services.takeWhile fun service => (bindMethods service).toBool

/-- The records on the writing of one file: its clients up to a clash, and its servers if there was
none. -/
def fileLog (file : SchemaFile) : List LogRecord :=
  let bound := servicesBeforeClash file.services
  LogRecord.debug ("Generating stubs for '" ++ file.name ++ "'.") ::
    bound.map (fun service =>
      .debug ("Writing client for service '" ++ service.fullName ++ "'.")) ++
    -- the servers are written after all clients
    if bound.length = file.services.length then
      bound.map fun service => .debug ("Writing server for service '" ++ service.fullName ++ "'.")
    else []

/-- The records on generation, which ends at the first clash. -/
def generationLog : List SchemaFile → List LogRecord
  | [] => []
  | file :: rest =>
    if file.services.isEmpty then
      .debug ("Skipping '" ++ file.name ++ "', it declares no services.") :: generationLog rest
    else
      fileLog file ++ if (moduleOf file).toBool then generationLog rest else []

end StubGen.Stub
