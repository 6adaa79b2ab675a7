import StubGen.Comment
import StubGen.Emitter
import StubGen.Stub.Binding

/-!
# StubGen.Stub.Client

The client class of a service: the constructor binds a trace wrapper per method, and each method has
a function that sends its requests through the transport primitive of its shape.
-/

namespace StubGen.Stub

def clientName (service : Service) : String :=
  service.name ++ "Client"

/-- The trace wrapper of a client function: over the whole stream for streaming shapes, over a
single value for the others. -/
def BoundMethod.clientTrace (bound : BoundMethod) : TraceBinding where
  wrapper := bound.traceAttribute
  factory := if bound.shape.streaming then "trace" else "trace_single"
  operation := bound.operation
  serviceName := bound.serviceName
  role := "client"

def BoundMethod.callSite (bound : BoundMethod) : CallSite where
  function := bound.function
  traceAttribute := bound.traceAttribute
  serviceName := bound.serviceName
  rpcName := bound.rpcName

/-- The client function of a method. -/
def BoundMethod.clientCall (bound : BoundMethod) : Snippet :=
  match bound.shape with
  | .fireAndForget => .fireAndForgetCall bound.callSite
  | .requestChannel => .channelCall bound.callSite bound.outputType
  | .requestResponse | .requestStream =>
    .singleRequestCall bound.callSite bound.shape.primitive bound.outputType

/-- Write the client function of a method between its comments. -/
def writeCall (comments : CommentIndex) (out : Emitter) (bound : BoundMethod) : Emitter :=
  (((out.blank).extend (comments.leadingAt bound.method.location)).render bound.clientCall).extend
    (comments.trailingAt bound.method.location)

/-- Write the client class of a service between its comments. -/
def writeClient (comments : CommentIndex) (bound : BoundService) (out : Emitter) : Emitter :=
  let out := out.extend (comments.leadingAt bound.service.location)
  let out := out.render (.clientHeader (clientName bound.service))
  let out := out.indented fun out =>
    let out := out.indented fun out =>
      out.each bound.methods fun out method => out.render (.traceBinding method.clientTrace)
    out.each bound.methods (writeCall comments)
  out.extend (comments.trailingAt bound.service.location)

end StubGen.Stub
