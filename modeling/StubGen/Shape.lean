/-!
# StubGen.Shape

The four interaction models of the transport, and the one that a method takes:

1. a method that accepts a stream of requests is a channel, since only the channel goes both ways;
2. otherwise a method that produces a stream of responses is a request-stream;
3. otherwise a method flagged as fire-and-forget is one;
4. any other method is a request-response.
-/

namespace StubGen

/-- An interaction model of the transport. -/
inductive Shape where
  | fireAndForget
  | requestResponse
  | requestStream
  | requestChannel
deriving DecidableEq, Repr

namespace Shape

/-- All interaction models, in the order of their entry points. -/
def all : List Shape :=
  [.fireAndForget, .requestResponse, .requestStream, .requestChannel]

/-- The name of the transport primitive, and of the entry point that serves it. -/
def primitive : Shape → String
  | .fireAndForget => "fire_and_forget"
  | .requestResponse => "request_response"
  | .requestStream => "request_stream"
  | .requestChannel => "request_channel"

/-- Whether the interaction produces a stream of responses. -/
def streaming : Shape → Bool
  | .requestStream | .requestChannel => true
  | .fireAndForget | .requestResponse => false

/-- The interaction model of a method with the given streaming flags and option. -/
def classify (clientStreaming serverStreaming fireAndForget : Bool) : Shape :=
  if clientStreaming then .requestChannel
  else if serverStreaming then .requestStream
  else if fireAndForget then .fireAndForget
  else .requestResponse

end Shape

end StubGen
