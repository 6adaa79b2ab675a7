import Mathlib.Algebra.Group.Nat.Defs
import StubGen.Wire.Field

/-!
# StubGen.Proofs.WireFormat

Reading inverts writing in the wire format.  What is written for a number, a tag, a string of bytes
or a field is read back from the front of any bytes (`takeVarint_encodeVarint_append`,
`takePayload_append`), provided that its length fits the reader's limit, and what follows is left
over.

A field that is *spelled* by some bytes (`Spells`) is the next field of a message that goes on with
these bytes, so a message that is written field by field has exactly the fields that were written
(`fieldsUpTo?_flatMap`).
-/

namespace StubGen.Wire

/-! ## Numbers -/

theorem encodeVarint_of_lt {n : Nat} (h : n < 128) : encodeVarint n = [UInt8.ofNat n] := by
  rw [encodeVarint, if_pos h]

theorem encodeVarint_of_ge {n : Nat} (h : 128 ≤ n) :
    encodeVarint n = UInt8.ofNat (n % 128 + 128) :: encodeVarint (n / 128) := by
  rw [encodeVarint, if_neg (by omega)]

theorem encodeVarint_ne_nil (n : Nat) : encodeVarint n ≠ [] := by
  rw [encodeVarint]
  split <;> simp

/-- A number below `128 ^ count` has at most `count` bytes. -/
theorem length_encodeVarint_le {count n : Nat} (h : n < 128 ^ (count + 1)) :
    (encodeVarint n).length ≤ count + 1 := by
  induction count generalizing n with
  | zero =>
      rw [encodeVarint_of_lt (by omega)]
      exact Nat.le_refl 1
  | succ count ih =>
      by_cases hsmall : n < 128
      · rw [encodeVarint_of_lt hsmall, List.length_singleton]
        omega
      · have hrest : n / 128 < 128 ^ (count + 1) := by
          rw [Nat.pow_succ] at h
          exact Nat.div_lt_of_lt_mul (by omega)
        rw [encodeVarint_of_ge (by omega), List.length_cons]
        have := ih hrest
        omega

/-- A number is read back from the front of any bytes, if the reader takes as many bytes as the
number has. -/
theorem takeVarint_encodeVarint_append {limit n : Nat} (h : (encodeVarint n).length ≤ limit)
    (rest : Bytes) : takeVarint limit (encodeVarint n ++ rest) = some (n, rest) := by
  induction limit generalizing n with
  | zero =>
      have hpos := List.length_pos_iff.mpr (encodeVarint_ne_nil n)
      omega
  | succ limit ih =>
      by_cases hsmall : n < 128
      · have hbyte : (UInt8.ofNat n).toNat = n := by
          simp only [UInt8.toNat_ofNat', Nat.reducePow]
          omega
        rw [encodeVarint_of_lt hsmall, List.singleton_append, takeVarint, hbyte, if_pos hsmall]
      · have hbyte : (UInt8.ofNat (n % 128 + 128)).toNat = n % 128 + 128 := by
          simp only [UInt8.toNat_ofNat', Nat.reducePow]
          omega
        have hvalue : n % 128 + 128 - 128 + 128 * (n / 128) = n := by omega
        rw [encodeVarint_of_ge (by omega), List.length_cons] at h
        rw [encodeVarint_of_ge (by omega), List.cons_append, takeVarint, hbyte,
          if_neg (by omega), ih (by omega), Option.map_some]
        simp only [hvalue]

/-- A number of 64 bits is read back from the front of any bytes. -/
theorem takeWord_encodeVarint_append {n : Nat} (h : n < 2 ^ 64) (rest : Bytes) :
    takeWord (encodeVarint n ++ rest) = some (n, rest) := by
  have hlength : (encodeVarint n).length ≤ varintLimit :=
    length_encodeVarint_le (Nat.lt_of_lt_of_le h (by decide))
  rw [takeWord, takeVarint_encodeVarint_append hlength, Option.map_some]
  exact congrArg (fun value => some (value, rest)) (Nat.mod_eq_of_lt h)

/-! ## Strings of bytes -/

/-- A payload is taken off the front by its length. -/
theorem takeBytes_append (payload rest : Bytes) :
    takeBytes payload.length (payload ++ rest) = some (payload, rest) := by
  rw [takeBytes, List.take_left', List.drop_left', if_pos] <;> rfl

/-- A string of bytes is read back from the front of any bytes, if its length fits. -/
theorem takePayload_append {limit : Nat} {payload : Bytes}
    (h : (encodeVarint payload.length).length ≤ limit) (rest : Bytes) :
    takePayload limit (encodeVarint payload.length ++ payload ++ rest) = some (payload, rest) := by
  rw [takePayload, List.append_assoc, takeVarint_encodeVarint_append h, Option.bind_some]
  exact takeBytes_append payload rest

/-! ## Fields -/

/-- Bytes that are read as a field from the front of any bytes. -/
def Spells (limit : Nat) (bytes : Bytes) (field : Field) : Prop :=
  ∀ rest, takeToken limit (bytes ++ rest) = some (.field field, rest)

/-- A tag is read back, and the value behind it is read by its kind. -/
theorem takeToken_tag_append {number : Nat} (limit kind : Nat) (hpos : 0 < number)
    (hnumber : number < 2 ^ 29) (hkind : kind < 8) (rest : Bytes) :
    takeToken limit (encodeVarint (number * 8 + kind) ++ rest) =
      takeValue limit number kind rest := by
  have htag : number * 8 + kind < 2 ^ 32 := by omega
  have hlength : (encodeVarint (number * 8 + kind)).length ≤ shortLimit :=
    length_encodeVarint_le (Nat.lt_of_lt_of_le htag (by decide))
  have hdiv : (number * 8 + kind) / 8 = number := by omega
  have hmod : (number * 8 + kind) % 8 = kind := by omega
  rw [takeToken, takeVarint_encodeVarint_append hlength, Option.bind_some]
  simp only [hdiv, hmod]
  rw [if_pos ⟨htag, by omega⟩]

/-- A number is written as a field that holds it. -/
theorem spells_encodeNumber {limit number n : Nat} (hpos : 0 < number) (hnumber : number < 2 ^ 29)
    (hn : n < 2 ^ 64) : Spells limit (encodeNumber number n) ⟨number, .varint n⟩ := by
  intro rest
  have htag := takeToken_tag_append limit 0 hpos hnumber (by decide) (encodeVarint n ++ rest)
  rw [Nat.add_zero] at htag
  rw [encodeNumber, List.append_assoc, htag, takeValue, takeWord_encodeVarint_append hn,
    Option.map_some]

/-- A payload is written as a field that holds it. -/
theorem spells_encodePayload {limit number : Nat} {payload : Bytes} (hpos : 0 < number)
    (hnumber : number < 2 ^ 29) (hlimit : (encodeVarint payload.length).length ≤ limit) :
    Spells limit (encodePayload number payload) ⟨number, .bytes payload⟩ := by
  intro rest
  have hbytes : encodePayload number payload ++ rest =
      encodeVarint (number * 8 + 2) ++ (encodeVarint payload.length ++ payload ++ rest) := by
    simp only [encodePayload, List.append_assoc]
  rw [hbytes, takeToken_tag_append limit 2 hpos hnumber (by decide), takeValue,
    takePayload_append hlimit, Option.map_some]

/-- The length of a string of bytes has no more bytes than the field that holds the string. -/
theorem length_encodeVarint_le_encodePayload (number : Nat) (payload : Bytes) :
    (encodeVarint payload.length).length ≤ (encodePayload number payload).length := by
  simp only [encodePayload, List.length_append]
  omega

/-! ## Messages -/

theorem tokens_nil (limit : Nat) : tokens limit [] = some [] := by
  rw [tokens]

/-- The tokens of bytes from whose front a token can be read. -/
theorem tokens_of_takeToken {limit : Nat} {bytes rest : Bytes} {token : Token}
    (h : takeToken limit bytes = some (token, rest)) :
    tokens limit bytes = (tokens limit rest).map (token :: ·) := by
  cases bytes with
  | nil =>
      have := length_lt_of_takeToken h
      simp at this
  | cons b tail =>
      rw [tokens]
      split
      · next hnone => rw [h] at hnone; contradiction
      · next other after hsome =>
          rw [h] at hsome
          obtain ⟨rfl, rfl⟩ := Prod.mk.inj (Option.some.inj hsome)
          rfl

theorem fieldsUpTo?_nil (limit depth : Nat) : fieldsUpTo? limit depth [] = some [] := by
  rw [fieldsUpTo?, tokens_nil]
  rfl

/-- A message that goes on with a spelled field has that field before the others. -/
theorem fieldsUpTo?_append_of_spells {limit depth : Nat} {bytes : Bytes} {field : Field}
    (h : Spells limit bytes field) (rest : Bytes) :
    fieldsUpTo? limit depth (bytes ++ rest) =
      (fieldsUpTo? limit depth rest).map (field :: ·) := by
  rw [fieldsUpTo?, tokens_of_takeToken (h rest), fieldsUpTo?]
  cases tokens limit rest with
  | none => rfl
  | some others => rfl

/-- A message that is one spelled field. -/
theorem fieldsUpTo?_of_spells {limit depth : Nat} {bytes : Bytes} {field : Field}
    (h : Spells limit bytes field) : fieldsUpTo? limit depth bytes = some [field] := by
  rw [← List.append_nil bytes, fieldsUpTo?_append_of_spells h, fieldsUpTo?_nil, Option.map_some]

/-- A message has exactly the fields that were written, in order. -/
theorem fieldsUpTo?_flatMap {limit depth : Nat} {write : α → Bytes} {field : α → Field}
    {elements : List α} (h : ∀ element ∈ elements, Spells limit (write element) (field element)) :
    fieldsUpTo? limit depth (elements.flatMap write) = some (elements.map field) := by
  induction elements with
  | nil => rw [List.flatMap_nil, fieldsUpTo?_nil, List.map_nil]
  | cons element elements ih =>
      have hfirst := h element List.mem_cons_self
      have hrest := ih fun other hother => h other (List.mem_cons_of_mem _ hother)
      rw [List.flatMap_cons, fieldsUpTo?_append_of_spells hfirst, hrest, Option.map_some,
        List.map_cons]

end StubGen.Wire
