import Mathlib.Data.List.Forall2
import StubGen.Proofs.Utf8
import StubGen.Proofs.WireFormat
import StubGen.Wire.Layout

/-!
# StubGen.Proofs.WireGrammar

The messages of the wire format as a grammar, without a reader.

1. A number is written with seven bits a byte (`IsNumber`), a token with a tag and what its kind
   asks for (`IsToken`), each in one way or more.
2. Tokens nest if every group that is opened is closed again by the same field number, and no group
   lies deeper than allowed (`Nests`); the fields are the tokens outside of all groups.
3. A message is written as tokens that nest (`IsMessage`).

The reader takes exactly the front of its input that the grammar allows (`takeVarint_eq_some_iff`,
`takeToken_eq_some_iff`), so it reads exactly the messages (`fieldsUpTo?_eq_some_iff`), and each in
one way (`IsMessage.unique`).  Messages put together are a message (`IsMessage.append`), also of the
same kind (`message?_append`).  The texts in a message of a kind are read without loss
(`map_encodeUtf8_textsAt`).
-/

namespace StubGen.Wire

/-! ## Numbers -/

/-- Bytes that write a number with at most `limit` bytes.  The last byte is below 128, and need not
be the highest that counts. -/
inductive IsNumber : (limit n : Nat) → Bytes → Prop
  | last {limit : Nat} {b : UInt8} (h : b.toNat < 128) : IsNumber (limit + 1) b.toNat [b]
  | more {limit n : Nat} {b : UInt8} {bytes : Bytes} (h : 128 ≤ b.toNat)
      (hrest : IsNumber limit n bytes) :
      IsNumber (limit + 1) (b.toNat - 128 + 128 * n) (b :: bytes)

/-- A number is taken if the bytes start with one that is not too long. -/
theorem takeVarint_eq_some_iff {limit n : Nat} {bytes rest : Bytes} :
    takeVarint limit bytes = some (n, rest) ↔
      ∃ front, bytes = front ++ rest ∧ IsNumber limit n front := by
  constructor
  · intro h
    -- the limit goes down with each byte that is followed by another
    induction limit generalizing n bytes with
    | zero => simp [takeVarint] at h
    | succ limit ih =>
        cases bytes with
        | nil => simp [takeVarint] at h
        | cons b tail =>
            rw [takeVarint] at h
            split at h
            next hlast =>
              obtain ⟨rfl, rfl⟩ := Prod.mk.inj (Option.some.inj h)
              exact ⟨[b], rfl, .last hlast⟩
            next hmore =>
              obtain ⟨⟨m, after⟩, hm, heq⟩ := Option.map_eq_some_iff.mp h
              obtain ⟨rfl, rfl⟩ := Prod.mk.inj heq
              obtain ⟨front, rfl, hfront⟩ := ih hm
              exact ⟨b :: front, rfl, .more (by omega) hfront⟩
  · rintro ⟨front, rfl, hnumber⟩
    induction hnumber with
    | last h => rw [List.singleton_append, takeVarint, if_pos h]
    | more h _ ih => rw [List.cons_append, takeVarint, if_neg (by omega), ih, Option.map_some]

/-! ## Tokens -/

/-- Bytes that write the value of a token of a number, by the kind of the token. -/
inductive IsValue (limit number : Nat) : (kind : Nat) → Token → Bytes → Prop
  | varint {n : Nat} {bytes : Bytes} (h : IsNumber varintLimit n bytes) :
      IsValue limit number 0 (.field ⟨number, .varint (n % 0x10000000000000000)⟩) bytes
  | fixed64 {bytes : Bytes} (h : bytes.length = 8) :
      IsValue limit number 1 (.field ⟨number, .fixed64 bytes⟩) bytes
  | bytes {length payload : Bytes} (h : IsNumber limit payload.length length) :
      IsValue limit number 2 (.field ⟨number, .bytes payload⟩) (length ++ payload)
  | openGroup : IsValue limit number 3 (.openGroup number) []
  | closeGroup : IsValue limit number 4 (.closeGroup number) []
  | fixed32 {bytes : Bytes} (h : bytes.length = 4) :
      IsValue limit number 5 (.field ⟨number, .fixed32 bytes⟩) bytes

/-- Bytes that write a token: a tag of 32 bits, whose field number is not zero, and the value. -/
def IsToken (limit : Nat) (token : Token) (bytes : Bytes) : Prop :=
  ∃ tag head value, bytes = head ++ value ∧ IsNumber shortLimit tag head ∧
    tag < 0x100000000 ∧ tag / 8 ≠ 0 ∧ IsValue limit (tag / 8) (tag % 8) token value

/-- Bytes are taken if there are enough. -/
theorem takeBytes_eq_some_iff {n : Nat} {bytes taken rest : Bytes} :
    takeBytes n bytes = some (taken, rest) ↔ bytes = taken ++ rest ∧ taken.length = n := by
  constructor
  · intro h
    unfold takeBytes at h
    split at h
    next hlength =>
      obtain ⟨rfl, rfl⟩ := Prod.mk.inj (Option.some.inj h)
      exact ⟨(List.take_append_drop n bytes).symm, hlength⟩
    next => contradiction
  · rintro ⟨rfl, rfl⟩
    exact takeBytes_append taken rest

/-- A payload is taken if the bytes start with its length and go on with all of it. -/
theorem takePayload_eq_some_iff {limit : Nat} {bytes payload rest : Bytes} :
    takePayload limit bytes = some (payload, rest) ↔
      ∃ length, bytes = length ++ payload ++ rest ∧ IsNumber limit payload.length length := by
  simp only [takePayload, Option.bind_eq_some_iff, Prod.exists, takeVarint_eq_some_iff,
    takeBytes_eq_some_iff]
  constructor
  · rintro ⟨_, _, ⟨length, rfl, hnumber⟩, rfl, rfl⟩
    exact ⟨length, (List.append_assoc ..).symm, hnumber⟩
  · rintro ⟨length, rfl, hnumber⟩
    exact ⟨_, payload ++ rest, ⟨length, List.append_assoc .., hnumber⟩, rfl, rfl⟩

/-- A word keeps the lower 64 bits of a number. -/
theorem takeWord_eq_some_iff {bytes rest : Bytes} {word : Nat} :
    takeWord bytes = some (word, rest) ↔
      ∃ n front, bytes = front ++ rest ∧ IsNumber varintLimit n front ∧
        word = n % 0x10000000000000000 := by
  simp only [takeWord, Option.map_eq_some_iff, Prod.exists, takeVarint_eq_some_iff, Prod.mk.injEq]
  constructor
  · rintro ⟨n, _, ⟨front, rfl, hnumber⟩, rfl, rfl⟩
    exact ⟨n, front, rfl, hnumber, rfl⟩
  · rintro ⟨n, front, rfl, hnumber, rfl⟩
    exact ⟨n, rest, ⟨front, rfl, hnumber⟩, rfl, rfl⟩

/-- A value is taken if the bytes start with one of the right kind. -/
theorem takeValue_eq_some_iff {limit number kind : Nat} {bytes rest : Bytes} {token : Token} :
    takeValue limit number kind bytes = some (token, rest) ↔
      ∃ front, bytes = front ++ rest ∧ IsValue limit number kind token front := by
  constructor
  · intro h
    unfold takeValue at h
    split at h
    · obtain ⟨⟨n, after⟩, hword, heq⟩ := Option.map_eq_some_iff.mp h
      obtain ⟨rfl, rfl⟩ := Prod.mk.inj heq
      obtain ⟨m, front, rfl, hnumber, rfl⟩ := takeWord_eq_some_iff.mp hword
      exact ⟨front, rfl, .varint hnumber⟩
    · obtain ⟨⟨fixed, after⟩, hfixed, heq⟩ := Option.map_eq_some_iff.mp h
      obtain ⟨rfl, rfl⟩ := Prod.mk.inj heq
      obtain ⟨rfl, hlength⟩ := takeBytes_eq_some_iff.mp hfixed
      exact ⟨fixed, rfl, .fixed64 hlength⟩
    · obtain ⟨⟨payload, after⟩, hpayload, heq⟩ := Option.map_eq_some_iff.mp h
      obtain ⟨rfl, rfl⟩ := Prod.mk.inj heq
      obtain ⟨length, rfl, hlength⟩ := takePayload_eq_some_iff.mp hpayload
      exact ⟨length ++ payload, rfl, .bytes hlength⟩
    · obtain ⟨rfl, rfl⟩ := Prod.mk.inj (Option.some.inj h)
      exact ⟨[], rfl, .openGroup⟩
    · obtain ⟨rfl, rfl⟩ := Prod.mk.inj (Option.some.inj h)
      exact ⟨[], rfl, .closeGroup⟩
    · obtain ⟨⟨fixed, after⟩, hfixed, heq⟩ := Option.map_eq_some_iff.mp h
      obtain ⟨rfl, rfl⟩ := Prod.mk.inj heq
      obtain ⟨rfl, hlength⟩ := takeBytes_eq_some_iff.mp hfixed
      exact ⟨fixed, rfl, .fixed32 hlength⟩
    · contradiction
  · rintro ⟨front, rfl, hvalue⟩
    cases hvalue with
    | varint h => rw [takeValue, takeWord_eq_some_iff.mpr ⟨_, _, rfl, h, rfl⟩, Option.map_some]
    | fixed64 h => rw [takeValue, takeBytes_eq_some_iff.mpr ⟨rfl, h⟩, Option.map_some]
    | bytes h => rw [takeValue, takePayload_eq_some_iff.mpr ⟨_, rfl, h⟩, Option.map_some]
    | openGroup => rfl
    | closeGroup => rfl
    | fixed32 h => rw [takeValue, takeBytes_eq_some_iff.mpr ⟨rfl, h⟩, Option.map_some]

/-- The reader takes exactly the tokens that the grammar allows. -/
theorem takeToken_eq_some_iff {limit : Nat} {bytes rest : Bytes} {token : Token} :
    takeToken limit bytes = some (token, rest) ↔
      ∃ front, bytes = front ++ rest ∧ IsToken limit token front := by
  simp only [takeToken, Option.bind_eq_some_iff, Prod.exists, takeVarint_eq_some_iff]
  constructor
  · rintro ⟨tag, _, ⟨head, rfl, hhead⟩, h⟩
    split at h
    next htag =>
      obtain ⟨value, rfl, hvalue⟩ := takeValue_eq_some_iff.mp h
      exact ⟨head ++ value, (List.append_assoc ..).symm, tag, head, value, rfl, hhead, htag.1,
        htag.2, hvalue⟩
    next => contradiction
  · rintro ⟨_, rfl, tag, head, value, rfl, hhead, htag, hnumber, hvalue⟩
    refine ⟨tag, value ++ rest, ⟨head, List.append_assoc .., hhead⟩, ?_⟩
    rw [if_pos ⟨htag, hnumber⟩]
    exact takeValue_eq_some_iff.mpr ⟨value, rfl, hvalue⟩

/-- Bytes that write some tokens one after the other. -/
inductive AreTokens (limit : Nat) : List Token → Bytes → Prop
  | nil : AreTokens limit [] []
  | cons {token : Token} {tokens : List Token} {first rest : Bytes}
      (htoken : IsToken limit token first) (hrest : AreTokens limit tokens rest) :
      AreTokens limit (token :: tokens) (first ++ rest)

/-- **Bytes are read as tokens if they write these tokens.** -/
theorem tokens_eq_some_iff {limit : Nat} {bytes : Bytes} {read : List Token} :
    tokens limit bytes = some read ↔ AreTokens limit read bytes := by
  constructor
  · intro h
    fun_induction tokens limit bytes generalizing read with
    | case1 =>
        rw [← Option.some.inj h]
        exact .nil
    | case2 => contradiction
    | case3 b tail token rest htake ih =>
        obtain ⟨others, hothers, rfl⟩ := Option.map_eq_some_iff.mp h
        obtain ⟨first, hbytes, htoken⟩ := takeToken_eq_some_iff.mp htake
        rw [hbytes]
        exact .cons htoken (ih hothers)
  · intro h
    induction h with
    | nil => exact tokens_nil limit
    | cons htoken _ ih =>
        rw [tokens_of_takeToken (takeToken_eq_some_iff.mpr ⟨_, rfl, htoken⟩), ih, Option.map_some]

/-! ## Groups -/

/-- Tokens whose groups nest at most `depth` deep, with the fields outside of groups. -/
inductive Nests : (depth : Nat) → List Token → List Field → Prop
  | nil {depth : Nat} : Nests depth [] []
  | field {depth : Nat} {field : Field} {tokens : List Token} {fields : List Field}
      (h : Nests depth tokens fields) : Nests depth (.field field :: tokens) (field :: fields)
  | group {depth number : Nat} {inner tokens : List Token} {hidden fields : List Field}
      (hinner : Nests depth inner hidden) (h : Nests (depth + 1) tokens fields) :
      Nests (depth + 1) (.openGroup number :: (inner ++ .closeGroup number :: tokens)) fields

/-- Tokens that close the groups which are open, the innermost first, and go on from there. -/
inductive Closes (depth : Nat) : (opened : List Nat) → List Token → List Field → Prop
  | outside {tokens : List Token} {fields : List Field} (h : Nests depth tokens fields) :
      Closes depth [] tokens fields
  | inside {number : Nat} {opened : List Nat} {inner tokens : List Token}
      {hidden fields : List Field} (hinner : Nests (depth - (opened.length + 1)) inner hidden)
      (h : Closes depth opened tokens fields) :
      Closes depth (number :: opened) (inner ++ .closeGroup number :: tokens) fields

section

variable {depth number : Nat} {opened : List Nat} {tokens : List Token} {fields : List Field}

/-- A field inside of a group does not matter. -/
theorem Closes.cons_field {field : Field} (h : Closes depth (number :: opened) tokens fields) :
    Closes depth (number :: opened) (.field field :: tokens) fields := by
  obtain _ | ⟨hinner, hrest⟩ := h
  exact .inside (.field hinner) hrest

/-- A group that is opened and closed again is part of what lies around it. -/
theorem Closes.cons_openGroup (hdepth : opened.length < depth)
    (h : Closes depth (number :: opened) tokens fields) :
    Closes depth opened (.openGroup number :: tokens) fields := by
  obtain _ | @⟨_, _, inner, _, _, _, hinner, hrest⟩ := h
  cases hrest with
  | outside hnests =>
      obtain ⟨inside, rfl⟩ := Nat.exists_eq_succ_of_ne_zero (Nat.ne_of_gt hdepth)
      exact .outside (.group hinner hnests)
  | @inside outer opened other rest hidden _ hother hrest =>
      have hlevel : depth - (opened.length + 1) = depth - ((outer :: opened).length + 1) + 1 := by
        simp only [List.length_cons] at hdepth ⊢
        omega
      have hgroup : Nests (depth - (opened.length + 1))
          (.openGroup number :: (inner ++ .closeGroup number :: other)) hidden := by
        rw [hlevel] at hother ⊢
        exact .group hinner hother
      simpa using Closes.inside hgroup hrest

/-- The fields are found only if the groups that are open get closed, the innermost first. -/
theorem closes_of_outerFields (hdepth : opened.length ≤ depth)
    (h : outerFields depth opened tokens = some fields) : Closes depth opened tokens fields := by
  -- each token may change the open groups, so these are generalized
  induction tokens generalizing opened fields with
  | nil =>
      cases opened with
      | nil =>
          rw [← Option.some.inj h]
          exact .outside .nil
      | cons => contradiction
  | cons token tokens ih =>
      cases token with
      | field field =>
          cases opened with
          | nil =>
              obtain ⟨others, hothers, rfl⟩ := Option.map_eq_some_iff.mp h
              obtain ⟨hnests⟩ := ih hdepth hothers
              exact .outside (.field hnests)
          | cons => exact (ih hdepth h).cons_field
      | openGroup number =>
          rw [outerFields] at h
          split at h
          next hlevel =>
            have hopened : (number :: opened).length ≤ depth := hlevel
            exact (ih hopened h).cons_openGroup hlevel
          next => contradiction
      | closeGroup number =>
          cases opened with
          | nil => contradiction
          | cons innermost outer =>
              rw [outerFields] at h
              split at h
              next hnumber =>
                rw [← hnumber]
                exact .inside .nil (ih (Nat.le_of_succ_le hdepth) h)
              next => contradiction

/-- Inside of a group, tokens that nest are passed over. -/
theorem outerFields_append_of_nests {inside : Nat} {inner : List Token} {hidden : List Field}
    (h : Nests inside inner hidden) (hopened : opened ≠ [])
    (hdepth : opened.length + inside ≤ depth) (rest : List Token) :
    outerFields depth opened (inner ++ rest) = outerFields depth opened rest := by
  induction h generalizing opened rest with
  | nil => rfl
  | field _ ih =>
      rw [List.cons_append, outerFields, if_neg (by simpa using hopened), ih hopened hdepth]
  | group _ _ ihinner ih =>
      rw [List.cons_append, outerFields, if_pos (by omega), List.append_assoc,
        ihinner (by simp) (by simp only [List.length_cons]; omega), List.cons_append, outerFields,
        if_pos rfl, ih hopened hdepth]

/-- The fields are found if groups nest. -/
theorem outerFields_of_nests (h : Nests depth tokens fields) :
    outerFields depth [] tokens = some fields := by
  induction h with
  | nil => rfl
  | field _ ih => rw [outerFields, if_pos List.isEmpty_nil, ih, Option.map_some]
  | @group inside number _ _ _ _ hinner _ _ ih =>
      have hlevel : [number].length + inside ≤ inside + 1 := by simp [Nat.add_comm]
      rw [outerFields, if_pos (by simp), outerFields_append_of_nests hinner (by simp) hlevel,
        outerFields, if_pos rfl, ih]

/-- The fields outside of groups are found if groups nest, and not too deep. -/
theorem outerFields_eq_some_iff : outerFields depth [] tokens = some fields ↔
    Nests depth tokens fields := by
  constructor
  · intro h
    obtain ⟨hnests⟩ := closes_of_outerFields (Nat.zero_le depth) h
    exact hnests
  · exact outerFields_of_nests

end

/-! ## Messages -/

/-- Bytes that write a message with some fields. -/
def IsMessage (limit depth : Nat) (bytes : Bytes) (fields : List Field) : Prop :=
  ∃ tokens, AreTokens limit tokens bytes ∧ Nests depth tokens fields

/-- **Bytes are read as a message if they are one.** -/
theorem fieldsUpTo?_eq_some_iff {limit depth : Nat} {bytes : Bytes} {fields : List Field} :
    fieldsUpTo? limit depth bytes = some fields ↔ IsMessage limit depth bytes fields := by
  simp only [fieldsUpTo?, Option.bind_eq_some_iff, tokens_eq_some_iff, outerFields_eq_some_iff,
    IsMessage]

/-- Bytes write one message at most. -/
theorem IsMessage.unique {limit depth : Nat} {bytes : Bytes} {fields others : List Field}
    (h : IsMessage limit depth bytes fields) (hother : IsMessage limit depth bytes others) :
    fields = others := by
  rw [← fieldsUpTo?_eq_some_iff] at h hother
  rw [h] at hother
  exact Option.some.inj hother

/-! ## Messages put together -/

section

variable {limit depth : Nat} {first second : Bytes} {fields others : List Field}

/-- Tokens may be written in two goes. -/
theorem AreTokens.append {tokens rest : List Token} (h : AreTokens limit tokens first)
    (hrest : AreTokens limit rest second) : AreTokens limit (tokens ++ rest) (first ++ second) := by
  induction h with
  | nil => exact hrest
  | cons htoken _ ih =>
      rw [List.append_assoc]
      exact .cons htoken ih

/-- Groups that nest do so one after the other. -/
theorem Nests.append {tokens rest : List Token} (h : Nests depth tokens fields)
    (hrest : Nests depth rest others) : Nests depth (tokens ++ rest) (fields ++ others) := by
  induction h with
  | nil => exact hrest
  | field _ ih => exact .field (ih hrest)
  | group hinner _ _ ih =>
      rw [List.cons_append, List.append_assoc, List.cons_append]
      exact .group hinner (ih hrest)

/-- A message behind another is one message, with the fields of both. -/
theorem IsMessage.append (h : IsMessage limit depth first fields)
    (hother : IsMessage limit depth second others) :
    IsMessage limit depth (first ++ second) (fields ++ others) := by
  obtain ⟨tokens, htokens, hnests⟩ := h
  obtain ⟨rest, hrest, hrestNests⟩ := hother
  exact ⟨tokens ++ rest, htokens.append hrest, hnests.append hrestNests⟩

theorem isMessage_nil : IsMessage limit depth [] [] :=
  ⟨[], .nil, .nil⟩

end

/-- Parts that are messages are one message together, with the fields of all. -/
theorem isMessage_flatten {limit depth : Nat} {parts : List Bytes}
    {contents : List (List Field)} (h : List.Forall₂ (IsMessage limit depth) parts contents) :
    IsMessage limit depth parts.flatten contents.flatten := by
  induction h with
  | nil => exact isMessage_nil
  | cons hpart _ ih => exact hpart.append ih

/-- Messages written one after the other are read as one message. -/
theorem fieldsUpTo?_append {limit depth : Nat} {first second : Bytes}
    {fields others : List Field} (h : fieldsUpTo? limit depth first = some fields)
    (hother : fieldsUpTo? limit depth second = some others) :
    fieldsUpTo? limit depth (first ++ second) = some (fields ++ others) := by
  rw [fieldsUpTo?_eq_some_iff] at h hother ⊢
  exact h.append hother

/-! ## Messages of a kind -/

/-- A message of a kind is a message each of whose fields holds what it is to hold. -/
theorem isWellFormed_succ_iff {depth : Nat} {kind : MessageKind} {bytes : Bytes} :
    isWellFormed (depth + 1) kind bytes = true ↔
      ∃ fields, fieldsUpTo? shortLimit depth bytes = some fields ∧
        fields.all (kind.accepts (isWellFormed depth)) = true := by
  rw [isWellFormed]
  cases fieldsUpTo? shortLimit depth bytes <;> simp

/-- Well-formed messages make a well-formed one together. -/
theorem isWellFormed_append {depth : Nat} {kind : MessageKind} {first second : Bytes}
    (h : isWellFormed depth kind first = true) (hother : isWellFormed depth kind second = true) :
    isWellFormed depth kind (first ++ second) = true := by
  cases depth with
  | zero => simp [isWellFormed] at h
  | succ depth =>
      obtain ⟨fields, hfields, hall⟩ := isWellFormed_succ_iff.mp h
      obtain ⟨others, hothers, hallOthers⟩ := isWellFormed_succ_iff.mp hother
      refine isWellFormed_succ_iff.mpr ⟨_, fieldsUpTo?_append hfields hothers, ?_⟩
      rw [List.all_append, hall, hallOthers, Bool.and_self]

/-- A message is read if its bytes are well-formed all the way down, and has the fields in them. -/
theorem message?_eq_some_iff {kind : MessageKind} {bytes : Bytes} {fields : List Field} :
    message? kind bytes = some fields ↔
      isWellFormed (nestingLimit + 1) kind bytes = true ∧ fields? bytes = some fields := by
  rw [message?, Option.ite_none_right_eq_some]

/-- A message of a kind behind another is one message of that kind, with the fields of both. -/
theorem message?_append {kind : MessageKind} {first second : Bytes}
    {fields others : List Field} (h : message? kind first = some fields)
    (hother : message? kind second = some others) :
    message? kind (first ++ second) = some (fields ++ others) := by
  rw [message?_eq_some_iff] at h hother ⊢
  exact ⟨isWellFormed_append h.1 hother.1, fieldsUpTo?_append h.2 hother.2⟩

/-- The texts of a message of a kind are read without loss: no byte of them is replaced. -/
theorem map_encodeUtf8_textsAt {kind : MessageKind} {bytes : Bytes} {fields : List Field}
    {number : Nat} (h : message? kind bytes = some fields)
    (htext : kind.content? number = some .text) :
    (textsAt number fields).map Text.encodeUtf8 = payloads number fields := by
  obtain ⟨hformed, hfields⟩ := message?_eq_some_iff.mp h
  obtain ⟨others, hothers, hall⟩ := isWellFormed_succ_iff.mp hformed
  rw [fields?, hothers] at hfields
  obtain rfl := Option.some.inj hfields
  have hpayloads : ∀ payload ∈ payloads number others,
      Text.encodeUtf8 (Text.decodeUtf8 payload) = payload := by
    intro payload hpayload
    obtain ⟨field, hfield, hvalue⟩ := List.mem_filterMap.mp hpayload
    obtain rfl : field = ⟨number, .bytes payload⟩ := payloadOf?_eq_some_iff.mp hvalue
    have haccepts := List.all_eq_true.mp hall _ hfield
    simp only [MessageKind.accepts, htext, Content.accepts] at haccepts
    obtain ⟨text, rfl⟩ := Text.isUtf8_iff.mp haccepts
    rw [Text.decodeUtf8_encodeUtf8]
  rw [textsAt, List.map_map]
  exact (List.map_congr_left hpayloads).trans (List.map_id' _)

end StubGen.Wire
