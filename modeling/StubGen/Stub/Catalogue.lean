import StubGen.Stub.Snippet

/-!
# StubGen.Stub.Catalogue

Snippets by name, with their values given by name.  A kind of snippet declares its parameters in
order, some with a value that is taken when none is given.  Naming a parameter that the kind does
not have is an error, and is reported before parameters that are left out.  So is naming the
receiver, which each kind has without being told.
-/

namespace StubGen.Stub

/-- A named value of a snippet. -/
structure Parameter where
  name : String
  fallback : Option String := none
deriving DecidableEq, Repr

/-- A kind of snippet: its name, its parameters, and the snippet for given values. -/
structure Kind where
  name : String
  parameters : List Parameter
  build : (String → String) → Snippet

/-- Why no snippet could be made. -/
inductive CatalogueError where
  /-- There is no kind of this name. -/
  | unknownKind (kind : String)
  /-- The kind has no such parameter. -/
  | unknownParameter (kind parameter : String)
  /-- The receiver was given once more. -/
  | repeatedReceiver (kind : String)
  /-- Parameters without a fallback were left out. -/
  | missingParameters (kind : String) (parameters : List String)
deriving DecidableEq, Repr

/-! ## The kinds -/

/-- Parameters that must be given. -/
def required (names : List String) : List Parameter :=
  names.map fun name => { name := name }

def CallSite.ofValues (value : String → String) : CallSite where
  function := value "python_name"
  traceAttribute := value "trace_attribute"
  serviceName := value "service_name"
  rpcName := value "rpc_name"

def Branch.ofValues (value : String → String) : Branch where
  rpcName := value "rpc_name"
  traceAttribute := value "trace_attribute"
  handler := value "python_name"
  inputType := value "input_type"

def TraceBinding.ofValues (value : String → String) : TraceBinding where
  wrapper := value "attribute"
  factory := value "factory"
  operation := value "operation"
  serviceName := value "service_name"
  role := value "role"
  serviceTag := value "service_tag"
  typeTag := value "type_tag"

def siteParameters : List String :=
  ["python_name", "trace_attribute", "service_name", "rpc_name"]

def branchParameters : List String :=
  ["rpc_name", "trace_attribute", "python_name", "input_type"]

/-- All kinds of snippets. -/
def kinds : List Kind :=
  [⟨"Template", [], fun _ => .empty⟩,
   ⟨"FileHeader", required ["source"], fun value => .fileHeader (value "source")⟩,
   ⟨"ModulePreamble", required ["source"], fun value => .modulePreamble (value "source")⟩,
   ⟨"PayloadHelpers", [], fun _ => .payloadHelpers⟩,
   ⟨"TraceBinding",
    required ["attribute", "factory", "operation", "service_name", "role"] ++
      [⟨"service_tag", some spanServiceTag⟩, ⟨"type_tag", some spanTypeTag⟩],
    fun value => .traceBinding (.ofValues value)⟩,
   ⟨"ClientHeader", required ["client_name"], fun value => .clientHeader (value "client_name")⟩,
   ⟨"FireAndForgetCall", required siteParameters,
    fun value => .fireAndForgetCall (.ofValues value)⟩,
   ⟨"SingleRequestCall", required (siteParameters ++ ["transport_call", "output_type"]),
    fun value => .singleRequestCall (.ofValues value) (value "transport_call")
      (value "output_type")⟩,
   ⟨"RequestChannelCall", required (siteParameters ++ ["output_type"]),
    fun value => .channelCall (.ofValues value) (value "output_type")⟩,
   ⟨"ServerHeader", required ["server_name"], fun value => .serverHeader (value "server_name")⟩,
   ⟨"UnimplementedDispatcher", required ["name", "parameter", "rejection"],
    fun value => .unimplementedEntry (value "name") (value "parameter") (value "rejection")⟩,
   ⟨"RoutingPreamble", required ["missing_metadata"],
    fun value => .routingPreamble (value "missing_metadata")⟩,
   ⟨"FireAndForgetCase", required branchParameters,
    fun value => .fireAndForgetCase (.ofValues value)⟩,
   ⟨"SingleRequestCase", required branchParameters,
    fun value => .singleRequestCase (.ofValues value)⟩,
   ⟨"ChannelCase", required branchParameters, fun value => .channelCase (.ofValues value)⟩,
   ⟨"RequestChannelDispatcher", [], fun _ => .channelEntry⟩,
   ⟨"MetadataPushDispatcher", [], fun _ => .metadataPushEntry⟩]

/-! ## Snippets from named values -/

/-- The parameter that stands for the snippet itself. -/
def receiver : String := "self"

namespace Kind

/-- The value of a parameter, where the last of several counts. -/
def valueOf (kind : Kind) (values : List (String × String)) (name : String) : String :=
  match values.reverse.find? fun given => given.1 == name with
  | some given => given.2
  | none => ((kind.parameters.find? fun parameter => parameter.name == name).bind
      Parameter.fallback).getD ""

/-- What is wrong with giving a value by a name. -/
def wrongName? (kind : Kind) (name : String) : Option CatalogueError :=
  if name = receiver then some (.repeatedReceiver kind.name)
  else if kind.parameters.any fun parameter => parameter.name == name then none
  else some (.unknownParameter kind.name name)

/-- The parameters that must be given and are not. -/
def missing (kind : Kind) (values : List (String × String)) : List String :=
  (kind.parameters.filter fun parameter =>
    parameter.fallback.isNone && !values.any fun given => given.1 == parameter.name).map
      Parameter.name

/-- The snippet of a kind for values given by name. -/
def instantiate (kind : Kind) (values : List (String × String)) : Except CatalogueError Snippet :=
  match values.findSome? fun given => kind.wrongName? given.1 with
  | some problem => .error problem
  | none =>
    match kind.missing values with
    | [] => .ok (kind.build (kind.valueOf values))
    | names => .error (.missingParameters kind.name names)

end Kind

/-- The snippet of the kind of a name, for values given by name. -/
def Snippet.ofValues (name : String) (values : List (String × String)) :
    Except CatalogueError Snippet :=
  match kinds.find? fun kind => kind.name == name with
  | some kind => kind.instantiate values
  | none => .error (.unknownKind name)

/-! ## Messages -/

/-- Names in an enumeration: `'a'`, then `'a' and 'b'`, then `'a', 'b', and 'c'`. -/
def enumerate (names : List String) : String :=
  match names.map fun name => "'" ++ name ++ "'" with
  | [] => ""
  | [a] => a
  | [a, b] => a ++ " and " ++ b
  | marked => ", ".intercalate marked.dropLast ++ ", and " ++ marked.getLastD ""

def CatalogueError.message : CatalogueError → String
  | .unknownKind kind => "no template is named '" ++ kind ++ "'"
  | .unknownParameter kind parameter =>
    kind ++ ".__init__() got an unexpected keyword argument '" ++ parameter ++ "'"
  | .repeatedReceiver kind =>
    kind ++ ".__init__() got multiple values for argument '" ++ receiver ++ "'"
  | .missingParameters kind names =>
    kind ++ ".__init__() missing " ++ toString names.length ++ " required positional argument" ++
      (if names.length = 1 then "" else "s") ++ ": " ++ enumerate names

end StubGen.Stub
