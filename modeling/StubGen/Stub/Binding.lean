import StubGen.FileName
import StubGen.Identifier
import StubGen.Schema
import StubGen.Text.Lines

/-!
# StubGen.Stub.Binding

Methods with the names that the generated classes give them.  A method takes two names in each
class: that of its function, and that of the attribute that holds its trace wrapper.  No two methods
of a service may take the same name; the first name that an earlier method has taken already is a
clash.
-/

namespace StubGen.Stub

open Text

/-- The expression by which generated code refers to a message type. -/
def typeReference (record : RecordType) : String :=
  FileName.moduleAlias record.fileName ++ "." ++ record.relativeName

/-- A method with all names that the stubs need. -/
structure BoundMethod where
  method : Method
  /-- The name of the client function and of the service handler. -/
  function : String
  /-- The full name of the service, which travels as routing metadata. -/
  serviceName : String
  /-- The name of the spans that are opened for the method. -/
  operation : String
  /-- The attribute that holds the trace wrapper. -/
  traceAttribute : String
  /-- References to the request and response types. -/
  inputType : String
  outputType : String
deriving DecidableEq, Repr

namespace BoundMethod

def rpcName (bound : BoundMethod) : String := bound.method.name

def shape (bound : BoundMethod) : Shape := bound.method.shape

/-- The names that the method takes in a class, in the order in which they are checked. -/
def memberNames (bound : BoundMethod) : List String :=
  [bound.function, bound.traceAttribute]

end BoundMethod

/-- The attribute for the trace wrapper of a function: the underscores at the end of the function's
name are left out. -/
def traceAttribute (function : String) : String :=
  "_" ++ dropTrailing (· == '_') function ++ "_trace"

/-- A method of a service with its names. -/
def bindMethod (service : Service) (method : Method) : BoundMethod where
  method := method
  function := Identifier.methodName method.name
  serviceName := service.fullName
  operation := service.name ++ "." ++ Identifier.methodName method.name
  traceAttribute := traceAttribute (Identifier.methodName method.name)
  inputType := typeReference method.input
  outputType := typeReference method.output

/-! ## Clashes -/

/-- Two methods of a service that take the same name. -/
structure NameClash where
  service : String
  earlier : String
  later : String
  name : String
deriving DecidableEq, Repr

def NameClash.message (clash : NameClash) : String :=
  "Methods '" ++ clash.earlier ++ "' and '" ++ clash.later ++ "' of service '" ++ clash.service ++
    "' both generate '" ++ clash.name ++ "'"

/-- The clash of a name with those of earlier methods. -/
def clashOf? (earlier : List BoundMethod) (bound : BoundMethod) (name : String) :
    Option NameClash :=
  (earlier.find? fun other => other.memberNames.contains name).map fun other =>
    { service := bound.serviceName, earlier := other.rpcName, later := bound.rpcName, name := name }

/-- The first clash among some methods that follow `earlier` ones. -/
def firstClash? (earlier : List BoundMethod) : List BoundMethod → Option NameClash
  | [] => none
  -- a method may take one name twice, since it is compared with earlier methods only
  | bound :: rest =>
    match bound.memberNames.findSome? (clashOf? earlier bound) with
    | some clash => some clash
    | none => firstClash? (earlier ++ [bound]) rest

/-- The methods of a service with their names, in order of declaration. -/
def bindMethods (service : Service) : Except NameClash (List BoundMethod) :=
  let bound := service.methods.map (bindMethod service)
  match firstClash? [] bound with
  | some clash => .error clash
  | none => .ok bound

/-- The methods of one interaction model, in order of declaration. -/
def ofShape (methods : List BoundMethod) (shape : Shape) : List BoundMethod :=
  methods.filter fun bound => bound.shape == shape

/-- A service whose methods have their names. -/
structure BoundService where
  service : Service
  methods : List BoundMethod
deriving DecidableEq, Repr

/-- A service with the names of its methods. -/
def bindService (service : Service) : Except NameClash BoundService :=
  match bindMethods service with
  | .error clash => .error clash
  | .ok methods => .ok ⟨service, methods⟩

end StubGen.Stub
