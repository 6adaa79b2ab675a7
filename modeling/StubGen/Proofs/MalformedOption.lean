import StubGen.Proofs.Response
import StubGen.Proofs.Selection

/-!
# StubGen.Proofs.MalformedOption

When the plugin has no reply to a request.  The fire-and-forget option of a method is kept as bytes
until the method is converted; if these are no message, conversion ends in a way that no response
can report.

Conversion looks at what a selection asks for in order (`requirements`), at the types of a method
before its option.  So there is no reply exactly when the first thing that is wrong with a request
is an option that is no message (`Request.StopsAtOption`): all that was asked for before is there.
In every other case the reply is one response with a status of zero (`replies_iff`).
-/

namespace StubGen.Plugin

open Wire

/-- The first thing that is asked for and not there, in the order of the selected files and of their
methods, is that the payload of a fire-and-forget option be a message. -/
def Request.StopsAtOption (request : Request) : Prop :=
  ∃ before payload after,
    requirements request.files request.selected = before ++ .option payload :: after ∧
    (∀ requirement ∈ before, requirement.Met request.files) ∧ ¬ IsSomeMessage payload

/-- A request stops at an option if that is why its files cannot be converted. -/
theorem Request.stopsAtOption_iff {request : Request} :
    request.StopsAtOption ↔
      FirstUnmet request.files (requirements request.files request.selected) .malformedOption := by
  constructor
  · rintro ⟨before, payload, after, hsplit, hbefore, hpayload⟩
    exact ⟨before, .option payload, after, hsplit, hbefore, hpayload, rfl⟩
  · rintro ⟨before, requirement, after, hsplit, hbefore, hunmet, hfailure⟩
    cases requirement with
    | option payload => exact ⟨before, payload, after, hsplit, hbefore, hunmet⟩
    | file name | type fullName => cases hfailure

/-- A request is refused for a malformed option if it stops at one. -/
theorem outputs_eq_malformedOption_iff {request : Request} :
    request.outputs = .error (.conversion .malformedOption) ↔ request.StopsAtOption := by
  have hchecks := checks_schemaFiles request.files (some request.selected)
  rw [request.stopsAtOption_iff]
  refine Iff.trans ?_ hchecks.eq_error_iff
  rw [Request.outputs]
  cases schemaFiles request.files (some request.selected) with
  | error error => simp
  | ok files => cases hgenerate : Stub.generate files <;> simp [hgenerate]

/-- **The plugin replies to every request but one kind.**  To bytes that are a request there is a
reply, with a status of zero and a response message, exactly when the first thing that is wrong with
the request, if any, is not an option that is no message. -/
theorem replies_iff {input : Bytes} {request : Request}
    (h : Request.ofBytes? input = some request) :
    (∃ reply, reply? input = some reply ∧ reply.status = 0 ∧
      ∃ message, ResponseMessage.ofBytes? reply.output = some message) ↔
        ¬ request.StopsAtOption := by
  rw [← outputs_eq_malformedOption_iff, ← reply?_eq_none_iff h]
  constructor
  · rintro ⟨reply, hreply, _⟩ hnone
    rw [hreply] at hnone
    contradiction
  · intro hsome
    obtain ⟨reply, hreply⟩ := Option.ne_none_iff_exists'.mp hsome
    obtain ⟨hstatus, _, response, _, _, houtput⟩ := reply?_eq_some_iff.mp ⟨reply.log, hreply⟩
    exact ⟨reply, hreply, hstatus, response.toMessage, by rw [houtput, ofBytes?_toBytes]⟩

/-- A request for a file whose only method has a fire-and-forget option that breaks off. -/
def brokenInput : Bytes :=
  encodeText 1 "echo.proto" ++
    encodePayload 15 (fileBytes "echo.proto" "Echo"
      [methodBytes "Say" ++ encodePayload 4 (encodePayload flagOptionField [0x08])])

/-- The broken option does not keep the bytes from being a request, but the request from a reply. -/
theorem brokenInput_unanswered :
    (∃ request, Request.ofBytes? brokenInput = some request) ∧ reply? brokenInput = none :=
  ⟨Option.isSome_iff_exists.mp (by decide +kernel), by decide +kernel⟩

theorem replies_iff_broken :
    ∃ request, Request.ofBytes? brokenInput = some request ∧ request.StopsAtOption := by
  obtain ⟨⟨request, hrequest⟩, hnone⟩ := brokenInput_unanswered
  refine ⟨request, hrequest, ?_⟩
  by_contra hstops
  obtain ⟨reply, hreply, _⟩ := (replies_iff hrequest).mpr hstops
  rw [hnone] at hreply
  contradiction

/-- Not every request has a reply. -/
theorem replies_not_always :
    ¬ ∀ (input : Bytes) (request : Request), Request.ofBytes? input = some request →
      ∃ reply, reply? input = some reply ∧ reply.status = 0 ∧
        ∃ message, ResponseMessage.ofBytes? reply.output = some message := by
  intro hreplies
  obtain ⟨⟨request, hrequest⟩, hnone⟩ := brokenInput_unanswered
  obtain ⟨reply, hreply, _⟩ := hreplies brokenInput request hrequest
  rw [hnone] at hreply
  contradiction

end StubGen.Plugin
