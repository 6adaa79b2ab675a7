import StubGen.Descriptor.TypeIndex
import StubGen.Log

/-!
# StubGen.Descriptor.Conversion

Schemas from compiled files.

1. The types of a method are looked up among all supplied files, by their names without leading
   dots.
2. A method is fire-and-forget by an option of its own, field 1057 of the method options, which is a
   message with the flag as field 1.  All occurrences of the option are read in order, and the last
   flag counts.
3. Comments are kept for the nodes that have generated code: the file, its services and their
   methods; and only where there is some comment.
-/

namespace StubGen

open Wire

/-- Why compiled files make no schema. -/
inductive ConversionError where
  /-- A selected file is not there. -/
  | unknownFile (name : String)
  /-- No file declares a type of this name. -/
  | unknownType (name : String)
  /-- The fire-and-forget option of a method is no message. -/
  | malformedOption
deriving DecidableEq, Repr

/-! ## Methods -/

/-- A type name without the dots at its front. -/
def bareTypeName (name : String) : String :=
  String.ofList (name.toList.dropWhile (· == '.'))

/-- The type that a method refers to by name. -/
def resolveType (index : TypeIndex) (name : String) : Except ConversionError RecordType :=
  match index.find? (bareTypeName name) with
  | some record => .ok record
  | none => .error (.unknownType (bareTypeName name))

/-- The field of the method options that holds the fire-and-forget option. -/
def flagOptionField : Nat := 1057

/-- The flags in the payloads of the fire-and-forget option, in order. -/
def optionFlags : List Bytes → Except ConversionError (List Nat)
  | [] => .ok []
  | payload :: rest =>
    match fields? payload with
    | none => .error .malformedOption
    | some fields => (optionFlags rest).map (numbersAt 1 fields ++ ·)

/-- Whether some method options flag the method as fire-and-forget. -/
def readFireAndForget (options : List Wire.Field) : Except ConversionError Bool :=
  (optionFlags (payloads flagOptionField options)).map fun flags => flags.getLastD 0 != 0

def methodLocation (service method : Nat) : Location :=
  [6, service, 2, method]

def serviceLocation (service : Nat) : Location :=
  [6, service]

/-- The schema of the method at a position of the service at a position. -/
def convertMethod (index : TypeIndex) (servicePosition : Nat)
    (entry : MethodDescriptor × Nat) : Except ConversionError Method := do
  -- of several things that are wrong with a method, the first in this order is reported
  let input ← resolveType index entry.1.inputType
  let output ← resolveType index entry.1.outputType
  let fireAndForget ← readFireAndForget entry.1.options
  return {
    name := entry.1.name
    input := input
    output := output
    clientStreaming := entry.1.clientStreaming
    serverStreaming := entry.1.serverStreaming
    fireAndForget := fireAndForget
    location := methodLocation servicePosition entry.2 }

/-- The schema of the service at a position. -/
def convertService (index : TypeIndex) (package : String)
    (entry : ServiceDescriptor × Nat) : Except ConversionError Service := do
  let methods ← entry.1.methods.zipIdx.mapM (convertMethod index entry.2)
  return {
    name := entry.1.name
    fullName := qualify package entry.1.name
    methods := methods
    location := serviceLocation entry.2 }

/-! ## Comments -/

/-- Whether the node at a path has generated code of its own. -/
def isCommentedNode : Location → Bool
  | [12] => true
  | [6, _] => true
  | [6, _, 2, _] => true
  | _ => false

/-- Whether there is some comment at a place. -/
def SourceLocation.hasComment (place : SourceLocation) : Bool :=
  place.leading != "" || place.trailing != "" || !place.detached.isEmpty

def SourceLocation.comments (place : SourceLocation) : NodeComments :=
  ⟨place.leading, place.trailing, place.detached⟩

/-- The entry that a place makes in the comments of a file. -/
def SourceLocation.entry? (place : SourceLocation) : Option (Location × NodeComments) :=
  if isCommentedNode place.path && place.hasComment then some (place.path, place.comments) else none

def FileDescriptor.places (file : FileDescriptor) : List SourceLocation :=
  file.sourceInfo.getD []

/-- The comments of a file by location. -/
def readComments (file : FileDescriptor) : CommentIndex :=
  .ofList (file.places.filterMap SourceLocation.entry?)

/-! ## Files -/

/-- The schema of a file. -/
def convertFile (index : TypeIndex) (file : FileDescriptor) :
    Except ConversionError SchemaFile := do
  let services ← file.services.zipIdx.mapM (convertService index file.package)
  return {
    name := file.name
    package := file.package
    services := services
    dependencies := file.dependencies
    hasMessages := !file.messages.isEmpty
    comments := readComments file }

/-- The last file of a name. -/
def fileNamed? (files : List FileDescriptor) (name : String) : Option FileDescriptor :=
  files.reverse.find? fun file => file.name == name

/-- The schema of the file of a name. -/
def convertNamed (files : List FileDescriptor) (name : String) :
    Except ConversionError SchemaFile :=
  match fileNamed? files name with
  | some file => convertFile (TypeIndex.ofFiles files) file
  | none => .error (.unknownFile name)

/-- The names to convert: those selected, or those of all files. -/
def selection (files : List FileDescriptor) (selected : Option (List String)) : List String :=
  selected.getD (files.map FileDescriptor.name)

/-- The schemas of the selected files, in the order of selection. -/
def schemaFiles (files : List FileDescriptor) (selected : Option (List String)) :
    Except ConversionError (List SchemaFile) :=
  (selection files selected).mapM (convertNamed files)

/-! ## What conversion reports -/

/-- The record on a file that was compiled without its source. -/
def sourceInfoLog (file : FileDescriptor) : List LogRecord :=
  if file.sourceInfo.isNone then
    [.debug ("'" ++ file.name ++ "' carries no source info, comments are not preserved.")]
  else []

/-- The records on the conversion of some files by name, which ends at the first error. -/
def conversionLogOf (files : List FileDescriptor) : List String → List LogRecord
  | [] => []
  | name :: rest =>
    match fileNamed? files name with
    | none => []
    | some file =>
      -- the source info is looked at once the services have been converted
      if (convertFile (TypeIndex.ofFiles files) file).toBool then
        sourceInfoLog file ++ conversionLogOf files rest
      else []

/-- The records on the conversion of the selected files. -/
def conversionLog (files : List FileDescriptor) (selected : Option (List String)) :
    List LogRecord :=
  conversionLogOf files (selection files selected)

/-! ## Messages -/

def ConversionError.message : ConversionError → String
  | .unknownFile name => "File '" ++ name ++ "' is not among the supplied descriptors."
  | .unknownType name =>
    "Message type '" ++ name ++ "' is not declared in any of the supplied files."
  | .malformedOption => "Error parsing message"

end StubGen
