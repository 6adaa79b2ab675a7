import StubGen.Proofs.Refusal
import StubGen.Proofs.Utf8
import StubGen.Proofs.WireFormat

/-!
# StubGen.Proofs.Response

The response of the plugin, as the schema compiler reads it.  A response message has an error text,
a number of supported features and files, each of which may be absent; of a field that belongs there
once the last occurrence counts.  Lengths may have any number of bytes, so that texts of any size
can be read.

What the plugin writes is read back as it was meant (`ofBytes?_toBytes`): a failure is an error and
nothing else, and modules are files in their order, with the supported features and no error.  The
answer to a request is thus all or nothing, also on the wire (`reply_all_or_nothing`).
-/

namespace StubGen.Plugin

open Wire Text

/-! ## Reading responses -/

/-- A file of a response message. -/
structure ResponseFile where
  name : Option String := none
  /-- Where in an earlier file the content belongs. -/
  insertionPoint : Option String := none
  content : Option String := none
deriving DecidableEq, Repr

/-- A response message. -/
structure ResponseMessage where
  error : Option String := none
  supportedFeatures : Option Nat := none
  files : List ResponseFile := []
deriving DecidableEq, Repr

/-- The fields of a message whose lengths may have any number of bytes. -/
def longFields? (bytes : Bytes) : Option (List Field) :=
  fieldsUpTo? bytes.length nestingLimit bytes

/-- Read a file of a response message, if the bytes are one. -/
def ResponseFile.ofBytes? (bytes : Bytes) : Option ResponseFile :=
  (longFields? bytes).map fun fields =>
    { name := (textsAt 1 fields).getLast?
      insertionPoint := (textsAt 2 fields).getLast?
      content := (textsAt 15 fields).getLast? }

/-- Read a response message, if the bytes are one. -/
def ResponseMessage.ofBytes? (bytes : Bytes) : Option ResponseMessage :=
  (longFields? bytes).bind fun fields =>
    ((payloads 15 fields).mapM ResponseFile.ofBytes?).map fun files =>
      { error := (textsAt 1 fields).getLast?
        supportedFeatures := (numbersAt 2 fields).getLast?
        files := files }

/-! ## What is meant by a response -/

/-- The file that delivers a module. -/
def ResponseFile.ofOutput (output : Stub.Output) : ResponseFile where
  name := some output.name
  content := some output.text

/-- The message that a response stands for. -/
def Response.toMessage : Response → ResponseMessage
  | .failure message => { error := some message }
  | .modules outputs =>
    { supportedFeatures := some supportedFeatures, files := outputs.map ResponseFile.ofOutput }

/-! ## Reading inverts writing -/

/-- A text is written as a field that spells it. -/
theorem spells_encodeText {limit number : Nat} {text : String} (hpos : 0 < number)
    (hnumber : number < 2 ^ 29) (hlimit : (encodeText number text).length ≤ limit) :
    Spells limit (encodeText number text) ⟨number, .bytes (encodeUtf8 text)⟩ :=
  spells_encodePayload hpos hnumber
    (Nat.le_trans (length_encodeVarint_le_encodePayload number _) hlimit)

/-- The fields of a written module are its name and its text. -/
theorem fieldsUpTo?_encodeOutput {limit depth : Nat} {output : Stub.Output}
    (h : (encodeOutput output).length ≤ limit) :
    fieldsUpTo? limit depth (encodeOutput output) =
      some [⟨1, .bytes (encodeUtf8 output.name)⟩, ⟨15, .bytes (encodeUtf8 output.text)⟩] := by
  rw [encodeOutput, List.length_append] at h
  have hname : Spells limit (encodeText 1 output.name) ⟨1, .bytes (encodeUtf8 output.name)⟩ :=
    spells_encodeText (by decide) (by decide) (by omega)
  have htext : Spells limit (encodeText 15 output.text) ⟨15, .bytes (encodeUtf8 output.text)⟩ :=
    spells_encodeText (by decide) (by decide) (by omega)
  rw [encodeOutput, fieldsUpTo?_append_of_spells hname, fieldsUpTo?_of_spells htext,
    Option.map_some]

/-- A written module is read back as its file. -/
theorem ofBytes?_encodeOutput (output : Stub.Output) :
    ResponseFile.ofBytes? (encodeOutput output) = some (ResponseFile.ofOutput output) := by
  rw [ResponseFile.ofBytes?, longFields?, fieldsUpTo?_encodeOutput (Nat.le_refl _),
    Option.map_some]
  simp [textsAt, payloads, payloadOf?, decodeUtf8_encodeUtf8, ResponseFile.ofOutput]

/-- The field of a response that delivers a module. -/
def fileField (output : Stub.Output) : Field :=
  ⟨15, .bytes (encodeOutput output)⟩

/-- The fields of a written response: an error alone, or the supported features and all modules. -/
def Response.fields : Response → List Field
  | .failure message => [⟨1, .bytes (encodeUtf8 message)⟩]
  | .modules outputs => ⟨2, .varint supportedFeatures⟩ :: outputs.map fileField

/-- A response is read back as the fields that were written. -/
theorem longFields?_toBytes (response : Response) :
    longFields? response.toBytes = some response.fields := by
  cases response with
  | failure message =>
      exact fieldsUpTo?_of_spells (spells_encodeText (by decide) (by decide) (Nat.le_refl _))
  | modules outputs =>
      rw [longFields?]
      -- Every length is part of the bytes, so that it has no more bytes than there are.
      have hfiles : ∀ output ∈ outputs,
          Spells (Response.modules outputs).toBytes.length (encodePayload 15 (encodeOutput output))
            (fileField output) := by
        intro output houtput
        obtain ⟨before, after, rfl⟩ := List.append_of_mem houtput
        apply spells_encodePayload (by decide) (by decide)
        have hlength := length_encodeVarint_le_encodePayload 15 (encodeOutput output)
        simp only [Response.toBytes, List.flatMap_append, List.flatMap_cons, List.length_append]
        omega
      have hfeatures : Spells (Response.modules outputs).toBytes.length
          (encodeNumber 2 supportedFeatures) ⟨2, .varint supportedFeatures⟩ :=
        spells_encodeNumber (by decide) (by decide) (by decide)
      generalize (Response.modules outputs).toBytes.length = limit at hfiles hfeatures ⊢
      rw [Response.toBytes, fieldsUpTo?_append_of_spells hfeatures, fieldsUpTo?_flatMap hfiles,
        Option.map_some, Response.fields]

/-- The modules of a response are all byte strings in it that have the number of files. -/
theorem payloads_map_fileField (outputs : List Stub.Output) (number : Nat) :
    payloads number (outputs.map fileField) =
      if number = 15 then outputs.map encodeOutput else [] := by
  by_cases h : number = 15
  · simp [payloads, payloadOf?, fileField, List.filterMap_map, Function.comp_def, h]
  · have hne : ¬ 15 = number := fun heq => h heq.symm
    simp [payloads, payloadOf?, fileField, h, hne]

theorem numbersAt_map_fileField (outputs : List Stub.Output) (number : Nat) :
    numbersAt number (outputs.map fileField) = [] := by
  simp [numbersAt, numberOf?, fileField]

/-- Generated modules are read back as they were written. -/
theorem mapM_ofBytes?_encodeOutput (outputs : List Stub.Output) :
    (outputs.map encodeOutput).mapM ResponseFile.ofBytes? =
      some (outputs.map ResponseFile.ofOutput) := by
  induction outputs with
  | nil => rfl
  | cons output outputs ih => simp [ih, ofBytes?_encodeOutput]

/-- A response is read back as the message that it stands for. -/
theorem ofBytes?_toBytes (response : Response) :
    ResponseMessage.ofBytes? response.toBytes = some response.toMessage := by
  rw [ResponseMessage.ofBytes?, longFields?_toBytes, Option.bind_some]
  cases response with
  | failure message =>
      simp [Response.fields, Response.toMessage, textsAt, payloads, payloadOf?, numbersAt,
        numberOf?, decodeUtf8_encodeUtf8]
  | modules outputs =>
      have hpayloads : ∀ number, payloads number (Response.modules outputs).fields =
          if number = 15 then outputs.map encodeOutput else [] :=
        fun number => payloads_map_fileField outputs number
      have hnumbers : numbersAt 2 (Response.modules outputs).fields = [supportedFeatures] :=
        congrArg (supportedFeatures :: ·) (numbersAt_map_fileField outputs 2)
      have hfiles : (payloads 15 (Response.modules outputs).fields).mapM ResponseFile.ofBytes? =
          some (outputs.map ResponseFile.ofOutput) := by
        rw [hpayloads, if_pos rfl, mapM_ofBytes?_encodeOutput]
      rw [hfiles, hnumbers, textsAt, hpayloads, if_neg (by decide)]
      rfl

/-! ## The reply to a request -/

/-- **All or nothing.**  Whenever the plugin comes to its end, its status is zero, and what it has
written is read either as the reason why the request has no modules and nothing else, or as all
modules of the request, in order, with the supported features and no error. -/
theorem reply_all_or_nothing {input : Bytes} {reply : Reply} (h : reply? input = some reply) :
    reply.status = 0 ∧ ∃ request, Request.ofBytes? input = some request ∧
      ((∃ refusal, request.outputs = .error refusal ∧ refusal.isReported = true ∧
          ResponseMessage.ofBytes? reply.output =
            some { error := some refusal.message, supportedFeatures := none, files := [] }) ∨
        ∃ outputs, request.outputs = .ok outputs ∧
          ResponseMessage.ofBytes? reply.output =
            some { error := none, supportedFeatures := some 1,
                   files := outputs.map ResponseFile.ofOutput }) := by
  obtain ⟨hstatus, request, response, hrequest, hresponse, houtput⟩ :=
    reply?_eq_some_iff.mp ⟨reply.log, h⟩
  have hread : ResponseMessage.ofBytes? reply.output = some response.toMessage := by
    rw [houtput, ofBytes?_toBytes]
  refine ⟨hstatus, request, hrequest, ?_⟩
  cases houtputs : request.outputs with
  | ok outputs =>
      rw [houtputs, responseOf?] at hresponse
      obtain rfl := Option.some.inj hresponse
      exact .inr ⟨outputs, rfl, hread⟩
  | error refusal =>
      rw [houtputs, responseOf?] at hresponse
      by_cases hreported : refusal.isReported = true
      · rw [if_pos hreported] at hresponse
        obtain rfl := Option.some.inj hresponse
        exact .inl ⟨refusal, rfl, hreported, hread⟩
      · rw [if_neg hreported] at hresponse
        contradiction

/-- A compiled method from texts to texts. -/
def methodBytes (name : String) : Bytes :=
  encodeText 1 name ++ encodeText 2 ".Text" ++ encodeText 3 ".Text"

/-- A compiled file with the texts that the methods of its only service exchange. -/
def fileBytes (name service : String) (methods : List Bytes) : Bytes :=
  encodeText 1 name ++ encodePayload 4 (encodeText 1 "Text") ++
    encodePayload 6 (encodeText 1 service ++ methods.flatMap (encodePayload 2))

/-- A request for two files.  The first could be generated; two methods of the second clash. -/
def clashingInput : Bytes :=
  encodeText 1 "größe.proto" ++ encodeText 1 "echo.proto" ++
    encodePayload 15 (fileBytes "größe.proto" "Scale" [methodBytes "Weigh"]) ++
    encodePayload 15 (fileBytes "echo.proto" "Echo" [methodBytes "Say", methodBytes "say"])

theorem reply_all_or_nothing_clash :
    ∃ reply, reply? clashingInput = some reply ∧ reply.status = 0 ∧
      ResponseMessage.ofBytes? reply.output =
        some { error := some "Methods 'Say' and 'say' of service 'Echo' both generate 'say'" } := by
  have hrefused : (Request.ofBytes? clashingInput).map Request.outputs =
      some (.error (.clash ⟨"Echo", "Say", "say", "say"⟩)) := by decide +kernel
  obtain ⟨reply, hreply⟩ : ∃ reply, reply? clashingInput = some reply :=
    Option.isSome_iff_exists.mp (by decide +kernel)
  obtain ⟨hstatus, request, hrequest, hanswer⟩ := reply_all_or_nothing hreply
  rw [hrequest, Option.map_some] at hrefused
  refine ⟨reply, hreply, hstatus, ?_⟩
  rcases hanswer with ⟨refusal, hrefusal, _, hread⟩ | ⟨outputs, houtputs, _⟩
  · rw [hrefusal] at hrefused
    cases hrefused
    exact hread
  · rw [houtputs] at hrefused
    cases hrefused

end StubGen.Plugin
