import StubGen.Descriptor.Conversion
import StubGen.Stub.Module

/-!
# StubGen.Plugin

The plugin of the schema compiler: a request with compiled files comes in as bytes, and a response
with generated modules goes out as bytes.  A failed generation is reported inside the response, and
no module goes out with it.  Bytes that are no request have no response.
-/

namespace StubGen.Plugin

open Wire

/-! ## Requests -/

/-- A request of the schema compiler. -/
structure Request where
  /-- The files to generate stubs for, in order. -/
  selected : List String := []
  parameter : String := ""
  files : List FileDescriptor := []
deriving Repr

/-- Read a request, if the bytes are one. -/
def Request.ofBytes? (bytes : Bytes) : Option Request :=
  (message? .request bytes).map fun fields =>
    { selected := textsAt 1 fields
      parameter := textAt 2 fields
      files := (payloads 15 fields).map FileDescriptor.ofBytes }

/-! ## Responses -/

/-- A response to the schema compiler: what went wrong, or all generated modules. -/
inductive Response where
  | failure (message : String)
  | modules (outputs : List Stub.Output)
deriving DecidableEq, Repr

/-- The features that the plugin supports: optional fields. -/
def supportedFeatures : Nat := 1

def encodeOutput (output : Stub.Output) : Bytes :=
  encodeText 1 output.name ++ encodeText 15 output.text

def Response.toBytes : Response → Bytes
  | .failure message => encodeText 1 message
  | .modules outputs =>
    encodeNumber 2 supportedFeatures ++
      outputs.flatMap fun output => encodePayload 15 (encodeOutput output)

/-! ## The exchange -/

/-- A response with the records on how it came about. -/
structure Exchange where
  response : Response
  log : List LogRecord
deriving DecidableEq, Repr

/-- The records on a request before its conversion. -/
def parameterLog (request : Request) : List LogRecord :=
  if request.parameter = "" then []
  else [.debug ("Ignoring plugin parameter '" ++ request.parameter ++ "'.")]

/-- A response that reports a failure, which is recorded. -/
def failed (log : List LogRecord) (message : String) : Exchange where
  response := .failure message
  log := log ++ [.error ("Stub generation failed: " ++ message)]

/-- The response to a request.  There is none where a method option is no message. -/
def respond? (request : Request) : Option Exchange :=
  let log := parameterLog request ++ conversionLog request.files (some request.selected)
  match schemaFiles request.files (some request.selected) with
  -- the other errors are reported to the compiler, this one ends the plugin
  | .error .malformedOption => none
  | .error problem => some (failed log problem.message)
  | .ok files =>
    let log := log ++ Stub.generationLog files
    match Stub.generate files with
    | .error clash => some (failed log clash.message)
    | .ok outputs => some ⟨.modules outputs, log⟩

/-- The response to the bytes of a request. -/
def exchange? (bytes : Bytes) : Option Exchange :=
  (Request.ofBytes? bytes).bind respond?

/-- What the plugin leaves behind when it ends: its exit status, the bytes that it has written, and
its records. -/
structure Reply where
  status : UInt32
  output : Bytes
  log : List LogRecord
deriving DecidableEq, Repr

/-- What the plugin makes of its input.  A failure shows in the response, not in the exit status;
without a response the plugin does not come to its end. -/
def reply? (input : Bytes) : Option Reply :=
  (exchange? input).map fun exchange =>
    { status := 0, output := exchange.response.toBytes, log := exchange.log }

end StubGen.Plugin
