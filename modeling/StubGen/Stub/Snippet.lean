import StubGen.Text.Lines

/-!
# StubGen.Stub.Snippet

The pieces of generated code.  A snippet is a fixed text with places that its values are put into,
as they stand; the values are all that tells two snippets of one kind apart.

The text of a snippet (`Snippet.text`) is its lines joined by line feeds, without line feeds at the
end.  A value may hold line feeds itself, so what an emitter writes are the lines of that text.
-/

namespace StubGen.Stub

/-! ## The values of snippets -/

/-- The tag under which spans carry the name of the service. -/
def spanServiceTag : String := "rsocket.rpc.service"

/-- The tag under which spans carry the role of the class that opens them. -/
def spanTypeTag : String := "rsocket.rpc.type"

/-- How a class binds the trace wrapper of one method. -/
structure TraceBinding where
  wrapper : String
  factory : String
  operation : String
  serviceName : String
  role : String
  serviceTag : String := spanServiceTag
  typeTag : String := spanTypeTag
deriving DecidableEq, Repr

/-- The names that a client function is made of: its own, that of its trace wrapper, and the two
that travel as routing metadata. -/
structure CallSite where
  function : String
  traceAttribute : String
  serviceName : String
  rpcName : String
deriving DecidableEq, Repr

/-- The names that a branch of a server entry point is made of: the method name that it compares,
its trace wrapper, the handler that it calls and the type that it reads the request as. -/
structure Branch where
  rpcName : String
  traceAttribute : String
  handler : String
  inputType : String
deriving DecidableEq, Repr

/-- A piece of generated code. -/
inductive Snippet where
  /-- No code at all. -/
  | empty
  /-- The first lines of a module. -/
  | fileHeader (source : String)
  /-- The description of a module and its imports of the runtime. -/
  | modulePreamble (source : String)
  /-- The functions and the class that the stubs of a module share. -/
  | payloadHelpers
  /-- The binding of a trace wrapper in a constructor. -/
  | traceBinding (binding : TraceBinding)
  /-- The head of a client class. -/
  | clientHeader (name : String)
  /-- A client function that sends one request and expects nothing. -/
  | fireAndForgetCall (site : CallSite)
  /-- A client function that sends one request and expects one or more responses. -/
  | singleRequestCall (site : CallSite) (primitive outputType : String)
  /-- A client function that sends a stream of requests. -/
  | channelCall (site : CallSite) (outputType : String)
  /-- The head of a server class. -/
  | serverHeader (name : String)
  /-- An entry point for a shape that the service has no methods of. -/
  | unimplementedEntry (name parameter rejection : String)
  /-- The check of the metadata of a payload, and the reading of its routing information. -/
  | routingPreamble (rejection : String)
  /-- The branch of a method that answers nothing. -/
  | fireAndForgetCase (branch : Branch)
  /-- The branch of a method with a single request. -/
  | singleRequestCase (branch : Branch)
  /-- The branch of a method with a stream of requests. -/
  | channelCase (branch : Branch)
  /-- The entry point for channels, which routes a whole channel by its first payload. -/
  | channelEntry
  /-- The entry point for metadata pushes. -/
  | metadataPushEntry
deriving DecidableEq, Repr

/-! ## The lines of snippets -/

def preambleLines (source : String) : List String :=
  ["\"\"\"RSocket RPC client and server stubs for `" ++ source ++ "`.\"\"\"",
   "",
   "from collections import deque",
   "",
   "import reactivex",
   "from reactivex import operators as ops",
   "from reactivex.disposable import CompositeDisposable",
   "from reactivex.subject import Subject",
   "from rsocket_rpc import core as rsocket_rpc_core",
   "from rsocket_rpc import frames as rsocket_rpc_frames",
   "from rsocket_rpc import tracing as rsocket_rpc_tracing"]

/-- The conversions between messages and payloads. -/
def conversionLines : List String :=
  ["def _as_bytes(data):",
   "    \"\"\"Payload data may arrive as any buffer, messages are always parsed from `bytes`.\"\"\"",
   "    return data if isinstance(data, bytes) else bytes(data)",
   "",
   "",
   "def _to_payload(message):",
   "    return rsocket_rpc_core.Payload(message.SerializeToString(), b\"\")"]

/-- The class that holds channel data back until a handler is there to take it. -/
def relayLines : List String :=
  ["class _ChannelRelay:",
   "    \"\"\"Queues inbound channel data until the handler subscribes, then forwards it.",
   "",
   "    Queued items are dropped once delivered, nothing is kept after the handler attaches.",
   "    \"\"\"",
   "",
   "    def __init__(self):",
   "        self._subject = Subject()",
   "        self._queue = deque()",
   "        self._terminal = None",
   "        self._attached = False",
   "",
   "    @property",
   "    def pending(self):",
   "        return len(self._queue)",
   "",
   "    def on_next(self, data):",
   "        if self._attached:",
   "            self._subject.on_next(data)",
   "        else:",
   "            self._queue.append(data)",
   "",
   "    def on_error(self, error):",
   "        if self._attached:",
   "            self._subject.on_error(error)",
   "        else:",
   "            self._terminal = lambda: self._subject.on_error(error)",
   "",
   "    def on_completed(self):",
   "        if self._attached:",
   "            self._subject.on_completed()",
   "        else:",
   "            self._terminal = self._subject.on_completed",
   "",
   "    def as_observable(self):",
   "        def subscribe(observer, scheduler=None):",
   "            subscription = self._subject.subscribe(observer, scheduler=scheduler)",
   "            if not self._attached:",
   "                while self._queue:",
   "                    self._subject.on_next(self._queue.popleft())",
   "                self._attached = True",
   "                if self._terminal is not None:",
   "                    self._terminal()",
   "                    self._terminal = None",
   "            return subscription",
   "",
   "        return reactivex.create(subscribe)"]

/-- A text in the double quotes of the generated language. -/
def inQuotes (text : String) : String :=
  "\"" ++ text ++ "\""

/-- A tag and its value, as a dictionary of the generated language. -/
def tagLiteral (tag value : String) : String :=
  "\x7b" ++ inQuotes tag ++ ": " ++ inQuotes value ++ "\x7d"

def TraceBinding.lines (binding : TraceBinding) : List String :=
  ["self." ++ binding.wrapper ++ " = rsocket_rpc_tracing." ++ binding.factory ++ "(",
   "    tracer, " ++ inQuotes binding.operation ++ ", " ++
     tagLiteral binding.serviceTag binding.serviceName ++ ", " ++
     tagLiteral binding.typeTag binding.role,
   ")"]

/-- The subscription that runs a trace wrapper for its own sake. -/
def traceOnly : String :=
  "(reactivex.empty()).subscribe(on_next=lambda _: None, on_error=lambda _: None)"

/-- The statement that encodes the routing metadata of a call. -/
def CallSite.encodeMetadata (site : CallSite) : String :=
  "metadata_bytes = rsocket_rpc_frames.encode_metadata(" ++ inQuotes site.serviceName ++ ", " ++
    inQuotes site.rpcName ++ ", tracing_metadata, metadata or b\"\")"

def encodeTrace : String :=
  "tracing_metadata = rsocket_rpc_tracing.map_to_bytes(trace_map)"

/-- The expression that turns response payloads into messages. -/
def readResponses (outputType : String) : String :=
  ".pipe(ops.map(lambda payload: " ++ outputType ++ ".FromString(_as_bytes(payload.data))))"

/-- The statement that traces and returns the result of a call. -/
def CallSite.returnTraced (site : CallSite) : String :=
  "return self." ++ site.traceAttribute ++ "(trace_map)(reactivex.create(subscribe))"

def CallSite.fireAndForgetLines (site : CallSite) : List String :=
  ["def " ++ site.function ++ "(self, message, metadata=None):",
   "    trace_map = \x7b\x7d",
   "    self." ++ site.traceAttribute ++ "(trace_map)" ++ traceOnly,
   "    data = message.SerializeToString()",
   "    " ++ encodeTrace,
   "    " ++ site.encodeMetadata,
   "    self._rs.fire_and_forget(rsocket_rpc_core.Payload(data, metadata_bytes))"]

/-- A client function that sends one request through the given transport primitive. -/
def CallSite.singleRequestLines (site : CallSite) (primitive outputType : String) : List String :=
  ["def " ++ site.function ++ "(self, message, metadata=None):",
   "    trace_map = \x7b\x7d",
   "",
   "    def subscribe(observer, scheduler=None):",
   "        data = message.SerializeToString()",
   "        " ++ encodeTrace,
   "        " ++ site.encodeMetadata,
   "        return (",
   "            self._rs." ++ primitive ++ "(rsocket_rpc_core.Payload(data, metadata_bytes))",
   "            " ++ readResponses outputType,
   "            .subscribe(observer, scheduler=scheduler)",
   "        )",
   "",
   "    " ++ site.returnTraced]

def CallSite.channelLines (site : CallSite) (outputType : String) : List String :=
  ["def " ++ site.function ++ "(self, messages, metadata=None):",
   "    trace_map = \x7b\x7d",
   "",
   "    def subscribe(observer, scheduler=None):",
   "        " ++ encodeTrace,
   "        " ++ site.encodeMetadata,
   "",
   "        def to_payload(message):",
   "            return rsocket_rpc_core.Payload(message.SerializeToString(), metadata_bytes)",
   "",
   "        return (",
   "            self._rs.request_channel(messages.pipe(ops.map(to_payload)))",
   "            " ++ readResponses outputType,
   "            .subscribe(observer, scheduler=scheduler)",
   "        )",
   "",
   "    " ++ site.returnTraced]

/-- The line that compares the method name of a payload with that of a branch. -/
def Branch.test (branch : Branch) : String :=
  "if method == " ++ inQuotes branch.rpcName ++ ":"

/-- The expression that calls the handler of a branch with a single request. -/
def Branch.handleSingle (branch : Branch) : String :=
  "self._service." ++ branch.handler ++ "(" ++ branch.inputType ++
    ".FromString(_as_bytes(payload.data)), payload.metadata)"

def Branch.fireAndForgetLines (branch : Branch) : List String :=
  [branch.test,
   "    self." ++ branch.traceAttribute ++ "(span_context)" ++ traceOnly,
   "    " ++ branch.handleSingle,
   "    return"]

def Branch.singleRequestLines (branch : Branch) : List String :=
  [branch.test,
   "    return self." ++ branch.traceAttribute ++ "(span_context)(",
   "        " ++ branch.handleSingle ++ ".pipe(",
   "            ops.map(_to_payload)",
   "        )",
   "    )"]

def Branch.channelLines (branch : Branch) : List String :=
  [branch.test,
   "    messages = relay.as_observable().pipe(ops.map(lambda data: " ++ branch.inputType ++
     ".FromString(_as_bytes(data))))",
   "    return self." ++ branch.traceAttribute ++ "(span_context)(",
   "        self._service." ++ branch.handler ++
     "(messages, payload.metadata).pipe(ops.map(_to_payload))",
   "    )"]

def channelEntryLines : List String :=
  ["def request_channel(self, payloads):",
   "    def subscribe(observer, scheduler=None):",
   "        relay = _ChannelRelay()",
   "        subscriptions = CompositeDisposable()",
   "        routed = False",
   "",
   "        def on_next(payload):",
   "            nonlocal routed",
   "            if not routed:",
   "                routed = True",
   "                try:",
   "                    subscriptions.add(self._channel_switch(payload, relay)" ++
     ".subscribe(observer, scheduler=scheduler))",
   "                except Exception as error:",
   "                    observer.on_error(error)",
   "            relay.on_next(payload.data)",
   "",
   "        def on_error(error):",
   "            (relay if routed else observer).on_error(error)",
   "",
   "        def on_completed():",
   "            (relay if routed else observer).on_completed()",
   "",
   "        subscriptions.add(payloads.subscribe(on_next, on_error, on_completed, " ++
     "scheduler=scheduler))",
   "        return subscriptions",
   "",
   "    return reactivex.create(subscribe)"]

namespace Snippet

/-- The lines of a snippet, as far as its values hold no line feeds. -/
def lines : Snippet → List String
  | .empty => [""]
  | .fileHeader source =>
    ["# Generated by the rsocket-rpc Python stub generator.  DO NOT EDIT!",
     "# source: " ++ source]
  | .modulePreamble source => preambleLines source
  | .payloadHelpers => conversionLines ++ ["", ""] ++ relayLines
  | .traceBinding binding => binding.lines
  | .clientHeader name =>
    ["class " ++ name ++ ":",
     "    def __init__(self, rs, tracer=None):",
     "        self._rs = rs",
     "        self._tracer = tracer"]
  | .fireAndForgetCall site => site.fireAndForgetLines
  | .singleRequestCall site primitive outputType => site.singleRequestLines primitive outputType
  | .channelCall site outputType => site.channelLines outputType
  | .serverHeader name =>
    ["class " ++ name ++ ":",
     "    def __init__(self, service, tracer=None):",
     "        self._service = service",
     "        self._tracer = tracer"]
  | .unimplementedEntry name parameter rejection =>
    ["def " ++ name ++ "(self, " ++ parameter ++ "):",
     "    " ++ rejection]
  | .routingPreamble rejection =>
    ["if not payload.metadata:",
     "    " ++ rejection,
     "service = rsocket_rpc_frames.get_service(payload.metadata)",
     "method = rsocket_rpc_frames.get_method(payload.metadata)",
     "span_context = rsocket_rpc_tracing.deserialize_trace_data(self._tracer, payload.metadata)"]
  | .fireAndForgetCase branch => branch.fireAndForgetLines
  | .singleRequestCase branch => branch.singleRequestLines
  | .channelCase branch => branch.channelLines
  | .channelEntry => channelEntryLines
  | .metadataPushEntry =>
    ["def metadata_push(self, payload):",
     "    return reactivex.throw(NotImplementedError(\"metadata_push() is not implemented\"))"]

/-- The text of a snippet, without line feeds at its end. -/
def text (snippet : Snippet) : String :=
  Text.dropTrailingNewlines (Text.joinLines snippet.lines)

end Snippet

end StubGen.Stub
