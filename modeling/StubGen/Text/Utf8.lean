/-!
# StubGen.Text.Utf8

Texts as bytes.  Writing takes each character to its one to four bytes.  Reading is total: where
the bytes are no character, the longest run of bytes that could have begun one is read as a single
replacement character, and reading goes on behind it.  Bytes are those of a text if nothing was
replaced, so that writing what was read gives them back.
-/

namespace StubGen

abbrev Bytes := List UInt8

namespace Text

/-- The bytes of a text. -/
def encodeUtf8 (text : String) : Bytes :=
  text.toList.flatMap String.utf8EncodeChar

/-- The character that stands for bytes that are none. -/
def replacementChar : Char := Char.ofNat 0xfffd

/-- How a character of more than one byte goes on behind its first byte: the bounds of the second
byte, and the number of bytes that follow the second. -/
structure Continuation where
  least : Nat
  greatest : Nat
  further : Nat

/-- What must follow a first byte from `0x80` on, if it can be a first byte. -/
def continuation? (first : Nat) : Option Continuation :=
  -- small second bytes behind `0xe0` and `0xf0` would spell characters that have a shorter form,
  -- and large ones behind `0xed` and `0xf4` would spell surrogates and what is no character
  if 0xc2 ≤ first && first ≤ 0xdf then some ⟨0x80, 0xbf, 0⟩
  else if first = 0xe0 then some ⟨0xa0, 0xbf, 1⟩
  else if first = 0xed then some ⟨0x80, 0x9f, 1⟩
  else if 0xe1 ≤ first && first ≤ 0xef then some ⟨0x80, 0xbf, 1⟩
  else if first = 0xf0 then some ⟨0x90, 0xbf, 2⟩
  else if 0xf1 ≤ first && first ≤ 0xf3 then some ⟨0x80, 0xbf, 2⟩
  else if first = 0xf4 then some ⟨0x80, 0x8f, 2⟩
  else none

/-- The payload of a first byte in a character of `further + 2` bytes. -/
def leadBits (first further : Nat) : Nat :=
  first % (32 >>> further)

/-- Read a text.  `owed` is the character under way, if any: its bits so far, the bounds of the next
byte, and the number of bytes after that one. -/
def decodeUtf8From (owed : Option (Nat × Continuation)) : Bytes → List Char
  | [] => if owed.isSome then [replacementChar] else []
  | b :: rest =>
    let start (before : List Char) : List Char :=
      if b.toNat < 0x80 then before ++ Char.ofNat b.toNat :: decodeUtf8From none rest
      else match continuation? b.toNat with
        | some next => before ++ decodeUtf8From (some (leadBits b.toNat next.further, next)) rest
        | none => before ++ replacementChar :: decodeUtf8From none rest
    match owed with
    | none => start []
    | some (bits, next) =>
      if next.least ≤ b.toNat && b.toNat ≤ next.greatest then
        let bits := bits * 64 + b.toNat % 64
        match next.further with
        | 0 => Char.ofNat bits :: decodeUtf8From none rest
        | further + 1 => decodeUtf8From (some (bits, ⟨0x80, 0xbf, further⟩)) rest
      -- the character under way is none, and this byte may begin another
      else start [replacementChar]

/-- The text of some bytes. -/
def decodeUtf8 (bytes : Bytes) : String :=
  String.ofList (decodeUtf8From none bytes)

/-- Whether some bytes are those of a text. -/
def isUtf8 (bytes : Bytes) : Bool :=
  encodeUtf8 (decodeUtf8 bytes) == bytes

end Text

end StubGen
