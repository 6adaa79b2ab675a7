import StubGen.Text.Utf8

/-!
# StubGen.Wire.Varint

Numbers of the wire format: seven bits a byte, the lowest first, where every byte but the last has
its high bit set.  A reader is told how many bytes a number may have.
-/

namespace StubGen.Wire

def encodeVarint (n : Nat) : Bytes :=
  if n < 128 then [UInt8.ofNat n] else UInt8.ofNat (n % 128 + 128) :: encodeVarint (n / 128)
termination_by n
decreasing_by omega

/-- Read a number of at most `limit` bytes from the front. -/
def takeVarint : (limit : Nat) → Bytes → Option (Nat × Bytes)
  | 0, _ => none
  | _ + 1, [] => none
  | limit + 1, b :: rest =>
    if b.toNat < 128 then some (b.toNat, rest)
    else (takeVarint limit rest).map fun (n, rest) => (b.toNat - 128 + 128 * n, rest)

/-- What follows a number is shorter. -/
theorem length_lt_of_takeVarint {limit n : Nat} {bytes rest : Bytes}
    (h : takeVarint limit bytes = some (n, rest)) : rest.length < bytes.length := by
  induction limit generalizing bytes n rest with
  | zero => simp [takeVarint] at h
  | succ limit ih =>
    cases bytes with
    | nil => simp [takeVarint] at h
    | cons b tail =>
      simp only [takeVarint] at h
      split at h
      · simp only [Option.some.injEq, Prod.mk.injEq] at h
        simp [h.2]
      · obtain ⟨⟨m, after⟩, hm, heq⟩ := Option.map_eq_some_iff.1 h
        simp only [Prod.mk.injEq] at heq
        have hlt := ih hm
        simp only [List.length_cons, ← heq.2]
        omega

/-- The most bytes that a number of 64 bits may have. -/
def varintLimit : Nat := 10

/-- Read a number of 64 bits from the front; bits beyond these are dropped. -/
def takeWord (bytes : Bytes) : Option (Nat × Bytes) :=
  (takeVarint varintLimit bytes).map fun (n, rest) => (n % 0x10000000000000000, rest)

/-- What follows a number of 64 bits is shorter. -/
theorem length_lt_of_takeWord {n : Nat} {bytes rest : Bytes}
    (h : takeWord bytes = some (n, rest)) : rest.length < bytes.length := by
  obtain ⟨⟨m, after⟩, hm, heq⟩ := Option.map_eq_some_iff.1 h
  simp only [Prod.mk.injEq] at heq
  exact heq.2 ▸ length_lt_of_takeVarint hm

/-- The numbers of 64 bits that some bytes consist of. -/
def words (bytes : Bytes) : Option (List Nat) :=
  match bytes with
  | [] => some []
  | b :: tail =>
    match _ : takeWord (b :: tail) with
    | none => none
    | some (n, rest) => (words rest).map (n :: ·)
termination_by bytes.length
decreasing_by exact length_lt_of_takeWord (by assumption)

/-- The low 32 bits of a number, read as a signed number. -/
def toSigned32 (n : Nat) : Int :=
  (n : Int).bmod 0x100000000

end StubGen.Wire
