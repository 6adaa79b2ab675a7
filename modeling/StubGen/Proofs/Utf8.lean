import StubGen.Text.Utf8

/-!
# StubGen.Proofs.Utf8

Texts survive as bytes: reading the bytes of a text gives the text back (`decodeUtf8_encodeUtf8`),
so that no other bytes pass for a text (`isUtf8_iff`).

The reader takes one byte at a time, so a character of several bytes is followed through the reader
by what each byte does to the character under way: the first byte opens it (`decodeUtf8From_open`),
a byte in the middle adds its bits (`decodeUtf8From_middle`), and the last one ends it
(`decodeUtf8From_last`).  What remains is that the bytes of a character lie within the bounds that
its first byte sets (`continuation?_of_three`, `continuation?_of_four`).
-/

namespace StubGen.Text

/-! ## One byte -/

/-- A byte below `0x80` is a character of its own. -/
theorem decodeUtf8From_single {n : Nat} (h : n < 0x80) (rest : Bytes) :
    decodeUtf8From none (UInt8.ofNat n :: rest) = Char.ofNat n :: decodeUtf8From none rest := by
  have hbyte : (UInt8.ofNat n).toNat = n := UInt8.toNat_ofNat_of_lt (Nat.lt_trans h (by decide))
  simp only [decodeUtf8From, hbyte]
  rw [if_pos h, List.nil_append]

/-- A first byte opens a character. -/
theorem decodeUtf8From_open {n : Nat} {next : Continuation} (hlow : 0x80 ≤ n) (hhigh : n < 256)
    (h : continuation? n = some next) (rest : Bytes) :
    decodeUtf8From none (UInt8.ofNat n :: rest) =
      decodeUtf8From (some (leadBits n next.further, next)) rest := by
  have hbyte : (UInt8.ofNat n).toNat = n := UInt8.toNat_ofNat_of_lt hhigh
  have hnot : ¬ n < 0x80 := by omega
  simp only [decodeUtf8From, hbyte, h]
  rw [if_neg hnot, List.nil_append]

/-- A byte within its bounds adds its bits to a character that goes on. -/
theorem decodeUtf8From_middle {n bits least greatest further : Nat} (hleast : least ≤ n)
    (hgreatest : n ≤ greatest) (hhigh : n < 256) (rest : Bytes) :
    decodeUtf8From (some (bits, ⟨least, greatest, further + 1⟩)) (UInt8.ofNat n :: rest) =
      decodeUtf8From (some (bits * 64 + n % 64, ⟨0x80, 0xbf, further⟩)) rest := by
  have hbyte : (UInt8.ofNat n).toNat = n := UInt8.toNat_ofNat_of_lt hhigh
  simp only [decodeUtf8From, hbyte]
  rw [if_pos (by simp [hleast, hgreatest])]

/-- A byte within its bounds ends a character of which no other byte is owed. -/
theorem decodeUtf8From_last {n bits least greatest : Nat} (hleast : least ≤ n)
    (hgreatest : n ≤ greatest) (hhigh : n < 256) (rest : Bytes) :
    decodeUtf8From (some (bits, ⟨least, greatest, 0⟩)) (UInt8.ofNat n :: rest) =
      Char.ofNat (bits * 64 + n % 64) :: decodeUtf8From none rest := by
  have hbyte : (UInt8.ofNat n).toNat = n := UInt8.toNat_ofNat_of_lt hhigh
  simp only [decodeUtf8From, hbyte]
  rw [if_pos (by simp [hleast, hgreatest])]

/-! ## The bounds of the second byte -/

theorem continuation?_of_two {v : Nat} (hlow : 0x80 ≤ v) (hhigh : v ≤ 0x7ff) :
    continuation? (v / 64 % 0x20 + 0xc0) = some ⟨0x80, 0xbf, 0⟩ := by
  have hleast : 0xc2 ≤ v / 64 % 0x20 + 0xc0 := by omega
  have hgreatest : v / 64 % 0x20 + 0xc0 ≤ 0xdf := by omega
  simp [continuation?, hleast, hgreatest]

/-- The second of three bytes is within its bounds: an overlong form or half of a surrogate pair
would lie outside. -/
theorem continuation?_of_three {v : Nat} (hlow : 0x7ff < v) (hhigh : v ≤ 0xffff)
    (hvalid : v < 0xd800 ∨ 0xdfff < v) :
    ∃ least greatest, continuation? (v / 4096 % 0x10 + 0xe0) = some ⟨least, greatest, 1⟩ ∧
      least ≤ v / 64 % 0x40 + 0x80 ∧ v / 64 % 0x40 + 0x80 ≤ greatest := by
  have hnot : ¬ (v / 4096 % 0x10 + 0xe0 ≤ 0xdf) := by omega
  by_cases hfirst : v / 4096 = 0
  · exact ⟨0xa0, 0xbf, by simp [continuation?, hfirst], by omega, by omega⟩
  · by_cases hsurrogate : v / 4096 = 13
    · exact ⟨0x80, 0x9f, by simp [continuation?, hsurrogate], by omega, by omega⟩
    · have he0 : v / 4096 % 0x10 ≠ 0 := by omega
      have hed : v / 4096 % 0x10 + 0xe0 ≠ 0xed := by omega
      have hleast : 0xe1 ≤ v / 4096 % 0x10 + 0xe0 := by omega
      have hgreatest : v / 4096 % 0x10 + 0xe0 ≤ 0xef := by omega
      refine ⟨0x80, 0xbf, ?_, by omega, by omega⟩
      simp [continuation?, hnot, he0, hed, hleast, hgreatest]

/-- The second of four bytes is within its bounds: an overlong form or a number beyond all
characters would lie outside. -/
theorem continuation?_of_four {v : Nat} (hlow : 0xffff < v) (hhigh : v < 0x110000) :
    ∃ least greatest, continuation? (v / 262144 % 0x08 + 0xf0) = some ⟨least, greatest, 2⟩ ∧
      least ≤ v / 4096 % 0x40 + 0x80 ∧ v / 4096 % 0x40 + 0x80 ≤ greatest := by
  by_cases hfirst : v / 262144 = 0
  · exact ⟨0x90, 0xbf, by simp [continuation?, hfirst], by omega, by omega⟩
  · by_cases hlast : v / 262144 = 4
    · exact ⟨0x80, 0x8f, by simp [continuation?, hlast], by omega, by omega⟩
    · have hvalue : v / 262144 = 1 ∨ v / 262144 = 2 ∨ v / 262144 = 3 := by omega
      refine ⟨0x80, 0xbf, ?_, by omega, by omega⟩
      rcases hvalue with h | h | h <;> simp [continuation?, h]

/-! ## Characters and texts -/

/-- The bytes of a character are read as this character. -/
theorem decodeUtf8From_utf8EncodeChar (c : Char) (rest : Bytes) :
    decodeUtf8From none (String.utf8EncodeChar c ++ rest) = c :: decodeUtf8From none rest := by
  have hchar : Char.ofNat c.val.toNat = c := Char.ofNat_toNat c
  have hvalid : c.val.toNat < 0xd800 ∨ (0xdfff < c.val.toNat ∧ c.val.toNat < 0x110000) := c.valid
  unfold String.utf8EncodeChar
  generalize c.val.toNat = v at hchar hvalid
  -- the cases are the lengths of the encoding, from one byte to four
  by_cases hone : v ≤ 0x7f
  · rw [if_pos hone, List.cons_append, List.nil_append, decodeUtf8From_single (by omega), hchar]
  · rw [if_neg hone]
    by_cases htwo : v ≤ 0x7ff
    · have hbits : leadBits (v / 64 % 0x20 + 0xc0) 0 * 64 + (v % 0x40 + 0x80) % 64 = v := by
        simp only [leadBits, Nat.reduceShiftRight]
        omega
      rw [if_pos htwo]
      simp only [List.cons_append, List.nil_append]
      rw [decodeUtf8From_open (by omega) (by omega) (continuation?_of_two (by omega) htwo),
        decodeUtf8From_last (by omega) (by omega) (by omega), hbits, hchar]
    · rw [if_neg htwo]
      by_cases hthree : v ≤ 0xffff
      · obtain ⟨least, greatest, hnext, hleast, hgreatest⟩ :=
          continuation?_of_three (by omega) hthree (by omega)
        have hbits : (leadBits (v / 4096 % 0x10 + 0xe0) 1 * 64 + (v / 64 % 0x40 + 0x80) % 64) * 64 +
            (v % 0x40 + 0x80) % 64 = v := by
          simp only [leadBits, Nat.reduceShiftRight]
          omega
        rw [if_pos hthree]
        simp only [List.cons_append, List.nil_append]
        rw [decodeUtf8From_open (by omega) (by omega) hnext,
          decodeUtf8From_middle hleast hgreatest (by omega),
          decodeUtf8From_last (by omega) (by omega) (by omega), hbits, hchar]
      · obtain ⟨least, greatest, hnext, hleast, hgreatest⟩ :=
          continuation?_of_four (v := v) (by omega) (by omega)
        have hbits : ((leadBits (v / 262144 % 0x08 + 0xf0) 2 * 64 +
            (v / 4096 % 0x40 + 0x80) % 64) * 64 + (v / 64 % 0x40 + 0x80) % 64) * 64 +
            (v % 0x40 + 0x80) % 64 = v := by
          simp only [leadBits, Nat.reduceShiftRight]
          omega
        rw [if_neg hthree]
        simp only [List.cons_append, List.nil_append]
        rw [decodeUtf8From_open (by omega) (by omega) hnext,
          decodeUtf8From_middle hleast hgreatest (by omega),
          decodeUtf8From_middle (by omega) (by omega) (by omega),
          decodeUtf8From_last (by omega) (by omega) (by omega), hbits, hchar]

/-- The bytes of a text are read as this text. -/
theorem decodeUtf8_encodeUtf8 (text : String) : decodeUtf8 (encodeUtf8 text) = text := by
  have hchars : ∀ chars : List Char,
      decodeUtf8From none (chars.flatMap String.utf8EncodeChar) = chars := by
    intro chars
    induction chars with
    | nil => rfl
    | cons c chars ih => rw [List.flatMap_cons, decodeUtf8From_utf8EncodeChar, ih]
  rw [decodeUtf8, encodeUtf8, hchars, String.ofList_toList]

/-- Bytes pass for a text exactly if they are those of some text. -/
theorem isUtf8_iff {bytes : Bytes} : isUtf8 bytes = true ↔ ∃ text, bytes = encodeUtf8 text := by
  rw [isUtf8, beq_iff_eq]
  constructor
  · intro h
    exact ⟨decodeUtf8 bytes, h.symm⟩
  · rintro ⟨text, rfl⟩
    rw [decodeUtf8_encodeUtf8]

end StubGen.Text
