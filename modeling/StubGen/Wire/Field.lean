import StubGen.Wire.Varint

/-!
# StubGen.Wire.Field

Messages of the wire format.  A message is a sequence of tokens, each with a field number:

1. a tag is a number of 32 bits in at most five bytes; its low three bits are the kind of the
   token, the others the field number, which is not zero;
2. a token is a number, a fixed string of eight or four bytes, a string of bytes behind its length,
   or one end of a group; a reader is told how many bytes a length may have;
3. the ends of groups match like brackets, by field number;
4. groups and messages nest at most a hundred deep in the outermost message.

The fields of a message are its tokens outside of groups.
-/

namespace StubGen.Wire

/-! ## Tokens -/

/-- The value of a field. -/
inductive Value where
  | varint (n : Nat)
  | fixed64 (bytes : Bytes)
  | bytes (payload : Bytes)
  | fixed32 (bytes : Bytes)
deriving DecidableEq, Repr

/-- A field with its number. -/
structure Field where
  number : Nat
  value : Value
deriving DecidableEq, Repr

/-- A field, or one end of a group. -/
inductive Token where
  | field (field : Field)
  | openGroup (number : Nat)
  | closeGroup (number : Nat)
deriving DecidableEq, Repr

/-- Read `n` bytes from the front. -/
def takeBytes (n : Nat) (bytes : Bytes) : Option (Bytes × Bytes) :=
  if (bytes.take n).length = n then some (bytes.take n, bytes.drop n) else none

/-- The most bytes that a tag may have, and the length of a string of bytes in a schema. -/
def shortLimit : Nat := 5

/-- Read a string of bytes behind its length, which has at most `limit` bytes, from the front. -/
def takePayload (limit : Nat) (bytes : Bytes) : Option (Bytes × Bytes) :=
  (takeVarint limit bytes).bind fun (length, rest) => takeBytes length rest

/-- Read the value of a token of the given number and kind from the front. -/
def takeValue (limit number kind : Nat) (bytes : Bytes) : Option (Token × Bytes) :=
  match kind with
  | 0 => (takeWord bytes).map fun (n, rest) => (.field ⟨number, .varint n⟩, rest)
  | 1 => (takeBytes 8 bytes).map fun (fixed, rest) => (.field ⟨number, .fixed64 fixed⟩, rest)
  | 2 =>
    (takePayload limit bytes).map fun (payload, rest) => (.field ⟨number, .bytes payload⟩, rest)
  | 3 => some (.openGroup number, bytes)
  | 4 => some (.closeGroup number, bytes)
  | 5 => (takeBytes 4 bytes).map fun (fixed, rest) => (.field ⟨number, .fixed32 fixed⟩, rest)
  | _ => none

/-- Read a token from the front. -/
def takeToken (limit : Nat) (bytes : Bytes) : Option (Token × Bytes) :=
  (takeVarint shortLimit bytes).bind fun (tag, rest) =>
    if tag < 0x100000000 ∧ tag / 8 ≠ 0 then takeValue limit (tag / 8) (tag % 8) rest else none

/-! ## Reading consumes its input -/

theorem length_le_of_takeBytes {n : Nat} {bytes taken rest : Bytes}
    (h : takeBytes n bytes = some (taken, rest)) : rest.length ≤ bytes.length := by
  unfold takeBytes at h
  split at h
  · simp only [Option.some.injEq, Prod.mk.injEq] at h
    rw [← h.2, List.length_drop]
    omega
  · cases h

theorem length_le_of_takePayload {limit : Nat} {bytes taken rest : Bytes}
    (h : takePayload limit bytes = some (taken, rest)) : rest.length ≤ bytes.length := by
  obtain ⟨⟨n, after⟩, hn, hp⟩ := Option.bind_eq_some_iff.1 h
  have hlt := length_lt_of_takeVarint hn
  have hle := length_le_of_takeBytes hp
  omega

theorem length_le_of_takeValue {limit number kind : Nat} {bytes rest : Bytes} {token : Token}
    (h : takeValue limit number kind bytes = some (token, rest)) : rest.length ≤ bytes.length := by
  unfold takeValue at h
  split at h
  · obtain ⟨⟨_, _⟩, ht, heq⟩ := Option.map_eq_some_iff.1 h
    have := length_lt_of_takeWord ht
    grind
  · obtain ⟨⟨_, _⟩, ht, heq⟩ := Option.map_eq_some_iff.1 h
    have := length_le_of_takeBytes ht
    grind
  · obtain ⟨⟨_, _⟩, ht, heq⟩ := Option.map_eq_some_iff.1 h
    have := length_le_of_takePayload ht
    grind
  · grind
  · grind
  · obtain ⟨⟨_, _⟩, ht, heq⟩ := Option.map_eq_some_iff.1 h
    have := length_le_of_takeBytes ht
    grind
  · cases h

/-- What follows a token is shorter. -/
theorem length_lt_of_takeToken {limit : Nat} {bytes rest : Bytes} {token : Token}
    (h : takeToken limit bytes = some (token, rest)) : rest.length < bytes.length := by
  obtain ⟨⟨tag, after⟩, ht, hv⟩ := Option.bind_eq_some_iff.1 h
  have hlt := length_lt_of_takeVarint ht
  simp only at hv
  split at hv
  · have hle := length_le_of_takeValue hv
    omega
  · cases hv

/-! ## Messages -/

/-- The tokens that some bytes consist of. -/
def tokens (limit : Nat) (bytes : Bytes) : Option (List Token) :=
  match bytes with
  | [] => some []
  | b :: tail =>
    match _ : takeToken limit (b :: tail) with
    | none => none
    | some (token, rest) => (tokens limit rest).map (token :: ·)
termination_by bytes.length
decreasing_by exact length_lt_of_takeToken (by assumption)

/-- The depth to which groups and messages may nest. -/
def nestingLimit : Nat := 100

/-- The fields outside of groups, which nest at most `depth` deep, where `opened` are the groups
that are open, the innermost first. -/
def outerFields (depth : Nat) (opened : List Nat) : List Token → Option (List Field)
  | [] => if opened.isEmpty then some [] else none
  | .field field :: rest =>
    -- what stands inside a group has to be well formed, but is not kept
    if opened.isEmpty then (outerFields depth opened rest).map (field :: ·)
    else outerFields depth opened rest
  | .openGroup number :: rest =>
    if opened.length < depth then outerFields depth (number :: opened) rest else none
  | .closeGroup number :: rest =>
    match opened with
    | [] => none
    | innermost :: outer => if innermost = number then outerFields depth outer rest else none

/-- The fields of a message whose lengths have at most `limit` bytes and whose groups nest at most
`depth` deep, if the bytes are one. -/
def fieldsUpTo? (limit depth : Nat) (bytes : Bytes) : Option (List Field) :=
  (tokens limit bytes).bind (outerFields depth [])

/-- The fields of an outermost message of a schema, if the bytes are one. -/
def fields? (bytes : Bytes) : Option (List Field) :=
  fieldsUpTo? shortLimit nestingLimit bytes

/-- The fields of a message that is known to be one. -/
def fieldsOf (bytes : Bytes) : List Field :=
  (fields? bytes).getD []

/-! ## Looking fields up -/

/-- The byte string of a field, if it has this number and holds one. -/
def payloadOf? (number : Nat) (field : Field) : Option Bytes :=
  match field.value with
  | .bytes payload => if field.number = number then some payload else none
  | _ => none

def payloads (number : Nat) (fields : List Field) : List Bytes :=
  fields.filterMap (payloadOf? number)

theorem payloadOf?_eq_some_iff {number : Nat} {field : Field} {payload : Bytes} :
    payloadOf? number field = some payload ↔ field = ⟨number, .bytes payload⟩ := by
  obtain ⟨other, value⟩ := field
  cases value <;> simp [payloadOf?, and_comm]

def textsAt (number : Nat) (fields : List Field) : List String :=
  (payloads number fields).map Text.decodeUtf8

/-- The text of a field number: the last counts, and none is empty. -/
def textAt (number : Nat) (fields : List Field) : String :=
  (textsAt number fields).getLastD ""

/-- The number in a field, if it has this number and holds one. -/
def numberOf? (number : Nat) (field : Field) : Option Nat :=
  match field.value with
  | .varint n => if field.number = number then some n else none
  | _ => none

def numbersAt (number : Nat) (fields : List Field) : List Nat :=
  fields.filterMap (numberOf? number)

theorem numberOf?_eq_some_iff {number n : Nat} {field : Field} :
    numberOf? number field = some n ↔ field = ⟨number, .varint n⟩ := by
  obtain ⟨other, value⟩ := field
  cases value <;> simp [numberOf?]

/-- The flag of a field number: the last counts, and none is unset. -/
def flagAt (number : Nat) (fields : List Field) : Bool :=
  (numbersAt number fields).getLastD 0 != 0

/-- The numbers of a repeated field number, each alone or several packed into a byte string. -/
def repeatedAt (number : Nat) (fields : List Field) : List Nat :=
  fields.flatMap fun field =>
    if field.number = number then
      match field.value with
      | .varint n => [n]
      | .bytes payload => (words payload).getD []
      | _ => []
    else []

/-! ## Writing -/

def encodeNumber (number n : Nat) : Bytes :=
  encodeVarint (number * 8) ++ encodeVarint n

def encodePayload (number : Nat) (payload : Bytes) : Bytes :=
  encodeVarint (number * 8 + 2) ++ encodeVarint payload.length ++ payload

def encodeText (number : Nat) (text : String) : Bytes :=
  encodePayload number (Text.encodeUtf8 text)

end StubGen.Wire
