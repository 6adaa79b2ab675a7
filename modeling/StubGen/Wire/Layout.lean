import StubGen.Wire.Field

/-!
# StubGen.Wire.Layout

Which fields of compiled schemas hold messages, texts that are read, or numbers packed into a byte
string.  A byte string in such a field must itself be well formed, however deep it lies; a byte
string in any other field is not looked into.  Messages and groups together nest at most a hundred
deep.
-/

namespace StubGen.Wire

/-- The kinds of messages in compiled schemas and plugin requests. -/
inductive MessageKind where
  | fileSet
  | file
  | message
  | extensionRange
  | extensionRangeOptions
  | field
  | oneof
  | enum
  | enumValue
  | service
  | method
  | fileOptions
  | messageOptions
  | fieldOptions
  | oneofOptions
  | enumOptions
  | enumValueOptions
  | serviceOptions
  | methodOptions
  | uninterpretedOption
  | sourceInfo
  | sourceLocation
  | request
  /-- A message without fields that hold messages. -/
  | plain
deriving DecidableEq, Repr

/-- What the byte strings of a field hold. -/
inductive Content where
  | message (kind : MessageKind)
  | text
  | packed
deriving DecidableEq, Repr

/-- The fields of all kinds of options: their features at the given number, and options that were
not interpreted. -/
def optionContent? (features number : Nat) : Option Content :=
  if number = features then some (.message .plain)
  else if number = 999 then some (.message .uninterpretedOption)
  else none

/-- What the byte strings in a field of a kind of message hold, if they must be well formed. -/
def MessageKind.content? : MessageKind → Nat → Option Content
  | .fileSet, 1 => some (.message .file)
  | .file, 1 => some .text
  | .file, 2 => some .text
  | .file, 3 => some .text
  | .file, 4 => some (.message .message)
  | .file, 5 => some (.message .enum)
  | .file, 6 => some (.message .service)
  | .file, 7 => some (.message .field)
  | .file, 8 => some (.message .fileOptions)
  | .file, 9 => some (.message .sourceInfo)
  | .file, 10 => some .packed
  | .file, 11 => some .packed
  | .message, 1 => some .text
  | .message, 2 => some (.message .field)
  | .message, 3 => some (.message .message)
  | .message, 4 => some (.message .enum)
  | .message, 5 => some (.message .extensionRange)
  | .message, 6 => some (.message .field)
  | .message, 7 => some (.message .messageOptions)
  | .message, 8 => some (.message .oneof)
  | .message, 9 => some (.message .plain)
  | .extensionRange, 3 => some (.message .extensionRangeOptions)
  | .extensionRangeOptions, 2 => some (.message .plain)
  | .extensionRangeOptions, number => optionContent? 50 number
  | .field, 8 => some (.message .fieldOptions)
  | .oneof, 2 => some (.message .oneofOptions)
  | .enum, 2 => some (.message .enumValue)
  | .enum, 3 => some (.message .enumOptions)
  | .enum, 4 => some (.message .plain)
  | .enumValue, 3 => some (.message .enumValueOptions)
  | .service, 1 => some .text
  | .service, 2 => some (.message .method)
  | .service, 3 => some (.message .serviceOptions)
  | .method, 1 => some .text
  | .method, 2 => some .text
  | .method, 3 => some .text
  | .method, 4 => some (.message .methodOptions)
  | .fileOptions, number => optionContent? 50 number
  | .messageOptions, number => optionContent? 12 number
  | .fieldOptions, 19 => some .packed
  | .fieldOptions, 20 => some (.message .plain)
  | .fieldOptions, 22 => some (.message .plain)
  | .fieldOptions, number => optionContent? 21 number
  | .oneofOptions, number => optionContent? 1 number
  | .enumOptions, number => optionContent? 7 number
  | .enumValueOptions, 4 => some (.message .plain)
  | .enumValueOptions, number => optionContent? 2 number
  | .serviceOptions, number => optionContent? 34 number
  | .methodOptions, number => optionContent? 35 number
  | .uninterpretedOption, 2 => some (.message .plain)
  | .sourceInfo, 1 => some (.message .sourceLocation)
  | .sourceLocation, 1 => some .packed
  | .sourceLocation, 2 => some .packed
  | .sourceLocation, 3 => some .text
  | .sourceLocation, 4 => some .text
  | .sourceLocation, 6 => some .text
  | .request, 1 => some .text
  | .request, 2 => some .text
  | .request, 3 => some (.message .plain)
  | .request, 15 => some (.message .file)
  | .request, 17 => some (.message .file)
  | _, _ => none

/-- Whether a byte string is what a field is to hold, where `isMessage` tells messages. -/
def Content.accepts (isMessage : MessageKind → Bytes → Bool) (payload : Bytes) : Content → Bool
  | .message kind => isMessage kind payload
  | .text => Text.isUtf8 payload
  | .packed => (words payload).isSome

/-- Whether a field of a kind of message holds what it is to hold. -/
def MessageKind.accepts (isMessage : MessageKind → Bytes → Bool) (kind : MessageKind)
    (field : Field) : Bool :=
  match field.value, kind.content? field.number with
  | .bytes payload, some content => content.accepts isMessage payload
  | _, _ => true

/-- Whether bytes are a message of a kind, with at most `depth` messages and groups inside one
another, itself among them. -/
def isWellFormed : (depth : Nat) → MessageKind → Bytes → Bool
  | 0, _, _ => false
  | depth + 1, kind, bytes =>
    -- groups count towards the depth as messages do
    match fieldsUpTo? shortLimit depth bytes with
    | none => false
    | some fields => fields.all (kind.accepts (isWellFormed depth))

/-- The fields of a message of a kind, if the bytes are one. -/
def message? (kind : MessageKind) (bytes : Bytes) : Option (List Field) :=
  if isWellFormed (nestingLimit + 1) kind bytes then fields? bytes else none

end StubGen.Wire
