import StubGen.Wire.Layout

/-!
# StubGen.Descriptor.Basic

Compiled schemas, as far as stubs depend on them, and their reading from the wire format.  A field
that occurs more than once counts by its last occurrence; the occurrences of a message that belongs
there once are put together as if they were one.
-/

namespace StubGen

open Wire

/-- A message type with the types that are declared inside it. -/
structure MessageDescriptor where
  name : String
  nested : List MessageDescriptor
deriving Repr

/-- A method.  Its options are kept as fields. -/
structure MethodDescriptor where
  name : String := ""
  inputType : String := ""
  outputType : String := ""
  options : List Wire.Field := []
  clientStreaming : Bool := false
  serverStreaming : Bool := false
deriving DecidableEq, Repr

structure ServiceDescriptor where
  name : String := ""
  methods : List MethodDescriptor := []
deriving DecidableEq, Repr

/-- A place in the source of a schema file, with the comments there. -/
structure SourceLocation where
  path : List Int := []
  leading : String := ""
  trailing : String := ""
  detached : List String := []
deriving DecidableEq, Repr

/-- A compiled schema file. -/
structure FileDescriptor where
  name : String := ""
  package : String := ""
  dependencies : List String := []
  messages : List MessageDescriptor := []
  services : List ServiceDescriptor := []
  /-- The places of the source, if the file was compiled with them. -/
  sourceInfo : Option (List SourceLocation) := none
deriving Repr

/-! ## Reading -/

/-- Read a message type, with at most `depth` types inside one another. -/
def MessageDescriptor.ofBytes : (depth : Nat) → Bytes → MessageDescriptor
  | 0, _ => ⟨"", []⟩
  | depth + 1, bytes =>
    let fields := fieldsOf bytes
    ⟨textAt 1 fields, (payloads 3 fields).map (ofBytes depth)⟩

def MethodDescriptor.ofBytes (bytes : Bytes) : MethodDescriptor :=
  let fields := fieldsOf bytes
  { name := textAt 1 fields
    inputType := textAt 2 fields
    outputType := textAt 3 fields
    options := (payloads 4 fields).flatMap fieldsOf
    clientStreaming := flagAt 5 fields
    serverStreaming := flagAt 6 fields }

def ServiceDescriptor.ofBytes (bytes : Bytes) : ServiceDescriptor :=
  let fields := fieldsOf bytes
  { name := textAt 1 fields
    methods := (payloads 2 fields).map MethodDescriptor.ofBytes }

def SourceLocation.ofBytes (bytes : Bytes) : SourceLocation :=
  let fields := fieldsOf bytes
  { path := (repeatedAt 1 fields).map toSigned32
    leading := textAt 3 fields
    trailing := textAt 4 fields
    detached := textsAt 6 fields }

/-- The source info of a file, if it occurs at all. -/
def sourceInfoOf (fields : List Wire.Field) : Option (List SourceLocation) :=
  match payloads 9 fields with
  | [] => none
  | infos => some (infos.flatMap fun info =>
      (payloads 1 (fieldsOf info)).map SourceLocation.ofBytes)

def FileDescriptor.ofBytes (bytes : Bytes) : FileDescriptor :=
  let fields := fieldsOf bytes
  { name := textAt 1 fields
    package := textAt 2 fields
    dependencies := textsAt 3 fields
    messages := (payloads 4 fields).map (MessageDescriptor.ofBytes nestingLimit)
    services := (payloads 6 fields).map ServiceDescriptor.ofBytes
    sourceInfo := sourceInfoOf fields }

/-- The files of a descriptor set, if the bytes are one. -/
def descriptorSet? (bytes : Bytes) : Option (List FileDescriptor) :=
  (message? .fileSet bytes).map fun fields => (payloads 1 fields).map FileDescriptor.ofBytes

end StubGen
