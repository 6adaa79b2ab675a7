import StubGen.Plugin
import StubGen.Proofs.Conversion

/-!
# StubGen.Proofs.Refusal

What a request asks for, and when it is refused.

1. The modules of a request (`Plugin.Request.outputs`) are those of its selected files, or the first
   reason why there are none.
2. The response carries either all of these modules or the reason alone (`respond?_response`).  Only
   one kind of refusal has no response: a method option that is no message (`reply?_eq_none_iff`).
-/

namespace StubGen

/-! ## Refusals -/

/-- Why a request has no modules. -/
inductive Refusal where
  | conversion (error : ConversionError)
  | clash (found : Stub.NameClash)
deriving DecidableEq, Repr

namespace Refusal

/-- What is said about a refusal. -/
def message : Refusal → String
  | .conversion error => error.message
  | .clash found => found.message

/-- Whether a response can report a refusal. -/
def isReported : Refusal → Bool
  | .conversion .malformedOption => false
  | _ => true

end Refusal

namespace Plugin

/-- The modules of the selected files of a request. -/
def Request.outputs (request : Request) : Except Refusal (List Stub.Output) :=
  match schemaFiles request.files (some request.selected) with
  | .error error => .error (.conversion error)
  | .ok files =>
    match Stub.generate files with
    | .error clash => .error (.clash clash)
    | .ok outputs => .ok outputs

/-- The response that belongs to the modules of a request, or to their refusal. -/
def responseOf? : Except Refusal (List Stub.Output) → Option Response
  | .ok outputs => some (.modules outputs)
  | .error refusal => if refusal.isReported then some (.failure refusal.message) else none

/-- A response has all modules of its request, or none of them and the reason. -/
theorem respond?_response (request : Request) :
    (respond? request).map Exchange.response = responseOf? request.outputs := by
  unfold respond? Request.outputs
  cases schemaFiles request.files (some request.selected) with
  | error error => cases error <;> rfl
  | ok files =>
      cases hgenerate : Stub.generate files with
      | error clash => simp [hgenerate, responseOf?, Refusal.isReported, Refusal.message, failed]
      | ok outputs => simp [hgenerate, responseOf?]

/-- What the plugin leaves behind for a request is its response, with a status of zero. -/
theorem reply?_eq_some_iff {input : Bytes} {status : UInt32} {output : Bytes} :
    (∃ log, reply? input = some ⟨status, output, log⟩) ↔
      status = 0 ∧ ∃ request response, Request.ofBytes? input = some request ∧
        responseOf? request.outputs = some response ∧ output = response.toBytes := by
  constructor
  · rintro ⟨log, h⟩
    obtain ⟨exchange, hexchange, hreply⟩ := Option.map_eq_some_iff.mp h
    obtain ⟨request, hrequest, hrespond⟩ := Option.bind_eq_some_iff.mp hexchange
    have hresponse := respond?_response request
    rw [hrespond, Option.map_some] at hresponse
    injection hreply with hstatus houtput _
    exact ⟨hstatus.symm, request, exchange.response, hrequest, hresponse.symm, houtput.symm⟩
  · rintro ⟨rfl, request, response, hrequest, hresponse, rfl⟩
    rw [← respond?_response] at hresponse
    obtain ⟨exchange, hexchange, rfl⟩ := Option.map_eq_some_iff.mp hresponse
    exact ⟨exchange.log, by simp [reply?, exchange?, hrequest, hexchange]⟩

/-- There is no reply to a request exactly when its refusal cannot be reported. -/
theorem reply?_eq_none_iff {input : Bytes} {request : Request}
    (h : Request.ofBytes? input = some request) :
    reply? input = none ↔ request.outputs = .error (.conversion .malformedOption) := by
  have hresponse := respond?_response request
  have hreply : reply? input = none ↔ (respond? request).map Exchange.response = none := by
    simp [reply?, exchange?, h]
  rw [hreply, hresponse]
  cases request.outputs with
  | ok outputs => simp [responseOf?]
  | error refusal =>
      cases refusal with
      | clash found => simp [responseOf?, Refusal.isReported]
      | conversion error => cases error <;> simp [responseOf?, Refusal.isReported]

end Plugin

end StubGen
