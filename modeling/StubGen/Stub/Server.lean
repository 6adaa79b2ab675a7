import StubGen.Comment
import StubGen.Emitter
import StubGen.Stub.Binding

/-!
# StubGen.Stub.Server

The server class of a service has one entry point per interaction model.  An entry point reads the
routing metadata of a payload and compares the method name with those of the methods of its own
shape, in order of declaration; the first that is equal takes the payload.

1. An entry point whose shape the service has no methods of rejects every payload.
2. The entry point for fire-and-forget raises its errors; those for single requests return them, and
   catch what a handler raises.
3. A channel is routed by its first payload, in a switch of its own.
-/

namespace StubGen.Stub

def serverName (service : Service) : String :=
  service.name ++ "Server"

/-- The trace wrapper of a handler, as a child of the span that arrives with the request. -/
def BoundMethod.serverTrace (bound : BoundMethod) : TraceBinding where
  wrapper := bound.traceAttribute
  factory := if bound.shape.streaming then "trace_as_child" else "trace_single_as_child"
  operation := bound.operation
  serviceName := bound.serviceName
  role := "server"

def BoundMethod.branch (bound : BoundMethod) : Branch where
  rpcName := bound.rpcName
  traceAttribute := bound.traceAttribute
  handler := bound.function
  inputType := bound.inputType

/-- The branch that routes to the handler of a method. -/
def BoundMethod.serverCase (bound : BoundMethod) : Snippet :=
  match bound.shape with
  | .fireAndForget => .fireAndForgetCase bound.branch
  | .requestChannel => .channelCase bound.branch
  | .requestResponse | .requestStream => .singleRequestCase bound.branch

/-! ## Entry points -/

/-- The name of the only parameter of an entry point. -/
def entryParameter : Shape → String
  | .requestChannel => "payloads"
  | _ => "payload"

/-- Whether an entry point raises its errors, rather than returning them. -/
def entryRaises : Shape → Bool
  | .fireAndForget => true
  | _ => false

/-- The statement by which an entry point surfaces an error. -/
def reject (shape : Shape) (error : String) : String :=
  if entryRaises shape then "raise " ++ error else "return reactivex.throw(" ++ error ++ ")"

def missingMetadataError : String :=
  "rsocket_rpc_core.MissingMetadataError(\"metadata is empty\")"

def unknownMethodError : String :=
  "rsocket_rpc_core.UnknownMethodError(f\"unknown method \x7bservice\x7d.\x7bmethod\x7d\")"

/-- The entry point of a shape that the service has no methods of. -/
def unimplemented (shape : Shape) : Snippet :=
  .unimplementedEntry shape.primitive (entryParameter shape)
    (reject shape ("NotImplementedError(\"" ++ shape.primitive ++ "() is not implemented\")"))

/-- The branches of the entry point of a shape, in order. -/
def entryCases (methods : List BoundMethod) (shape : Shape) : List Snippet :=
  (ofShape methods shape).map BoundMethod.serverCase

/-- Write the check of the metadata, the branches of a shape, and the end that no branch takes. -/
def writeRouting (methods : List BoundMethod) (shape : Shape) (out : Emitter) : Emitter :=
  let out := out.render (.routingPreamble (reject shape missingMetadataError))
  let out := out.each (entryCases methods shape) Emitter.render
  out.line (reject shape unknownMethodError)

/-- Write the entry point of a shape with single requests. -/
def writeSingleEntry (methods : List BoundMethod) (shape : Shape) (out : Emitter) : Emitter :=
  let out := out.line ("def " ++ shape.primitive ++ "(self, " ++ entryParameter shape ++ "):")
  out.indented fun out =>
    if entryRaises shape then writeRouting methods shape out
    else
      let out := out.line "try:"
      let out := out.indented (writeRouting methods shape)
      let out := out.line "except Exception as error:"
      out.indented fun out => out.line "return reactivex.throw(error)"

/-- Write the entry point for channels and the switch that it routes them by. -/
def writeChannelEntry (methods : List BoundMethod) (out : Emitter) : Emitter :=
  let out := (out.render .channelEntry).blank
  let out := out.line "def _channel_switch(self, payload, relay):"
  out.indented (writeRouting methods .requestChannel)

/-- Write the entry point of a shape. -/
def writeEntry (methods : List BoundMethod) (out : Emitter) (shape : Shape) : Emitter :=
  let out := out.blank
  if (ofShape methods shape).isEmpty then out.render (unimplemented shape)
  else if shape = .requestChannel then writeChannelEntry methods out
  else writeSingleEntry methods shape out

/-- Write the server class of a service between its comments. -/
def writeServer (comments : CommentIndex) (bound : BoundService) (out : Emitter) : Emitter :=
  let out := out.extend (comments.leadingAt bound.service.location)
  let out := out.render (.serverHeader (serverName bound.service))
  let out := out.indented fun out =>
    let out := out.indented fun out =>
      out.each bound.methods fun out method => out.render (.traceBinding method.serverTrace)
    let out := out.each Shape.all (writeEntry bound.methods)
    out.blank.render .metadataPushEntry
  out.extend (comments.trailingAt bound.service.location)

end StubGen.Stub
