import NestedStore.WriteBatch.Codec
import NestedStore.Bytes.Crc32

/-!
Log records. A record is the magic `NKVB`, the length of its payload, the CRC-32 of its payload
and the payload itself. Reading one hands back the batch and what follows the record; replaying a
log reads records from the front until one is torn or corrupt.
-/

namespace NestedStore.Log

/-- The bytes that open every record. -/
def magic : Bytes := [0x4e, 0x4b, 0x56, 0x42]

/-- The width of the length and of the checksum. -/
def fieldWidth : Nat := 4

/-- The bytes in front of a payload. -/
def headerSize : Nat := 12

/-- The record that holds a payload. -/
def encodeRecord (payload : Bytes) : Bytes :=
  magic ++ LittleEndian.encode fieldWidth payload.length
    ++ LittleEndian.encode fieldWidth (Crc32.checksum payload).toNat ++ payload

/-- The record of a batch. -/
def record (batch : WriteBatch) : Bytes := encodeRecord batch.encode

/-- The payload length and the checksum that a header states, and what follows the header. -/
def readHeader? (bytes : Bytes) : Option (Nat × Nat × Bytes) := do
  let (opening, rest) ← WriteBatch.takeExactly? magic.length bytes
  let (length, rest) ← WriteBatch.takeExactly? fieldWidth rest
  let (checksum, rest) ← WriteBatch.takeExactly? fieldWidth rest
  if opening = magic then
    some (LittleEndian.decode length, LittleEndian.decode checksum, rest)
  else none

/-- The batch of the first record, and what follows that record. -/
def readRecord? (bytes : Bytes) : Option (WriteBatch × Bytes) := do
  let (length, checksum, rest) ← readHeader? bytes
  let (payload, rest) ← WriteBatch.takeExactly? length rest
  if (Crc32.checksum payload).toNat = checksum then
    let batch ← WriteBatch.decode? payload
    some (batch, rest)
  else none

/-- What a log holds. -/
structure Replay where
  /-- The batches of its valid records, in order. -/
  batches : List WriteBatch
  /-- The bytes that those records take up. -/
  validLength : Nat
  deriving DecidableEq

theorem length_of_takeExactly? {count : Nat} {bytes front rest : Bytes}
    (h : WriteBatch.takeExactly? count bytes = some (front, rest)) :
    count + rest.length = bytes.length := by
  simp only [WriteBatch.takeExactly?, Option.ite_none_right_eq_some, Option.some.injEq,
    Prod.mk.injEq, List.length_take] at h
  obtain ⟨hc, -, rfl⟩ := h
  simp only [List.length_drop]
  omega

theorem readHeader?_length {bytes rest : Bytes} {length checksum : Nat}
    (h : readHeader? bytes = some (length, checksum, rest)) :
    headerSize + rest.length = bytes.length := by
  simp only [readHeader?, bind, Option.bind_eq_some_iff, Prod.exists] at h
  obtain ⟨_, r₁, h₁, _, r₂, h₂, _, r₃, h₃, h⟩ := h
  split at h
  · have e₁ := length_of_takeExactly? h₁
    have e₂ := length_of_takeExactly? h₂
    have e₃ := length_of_takeExactly? h₃
    simp only [Option.some.injEq, Prod.mk.injEq] at h
    obtain ⟨-, -, rfl⟩ := h
    simp only [magic, fieldWidth, headerSize, List.length_cons, List.length_nil] at *
    omega
  · simp at h

/-- Reading a record leaves fewer bytes, by a header at least. -/
theorem readRecord?_length {bytes rest : Bytes} {batch : WriteBatch}
    (h : readRecord? bytes = some (batch, rest)) : headerSize + rest.length ≤ bytes.length := by
  simp only [readRecord?, bind, Option.bind_eq_some_iff, Prod.exists] at h
  obtain ⟨_, _, r₁, h₁, _, r₂, h₂, h⟩ := h
  have e₁ := readHeader?_length h₁
  have e₂ := length_of_takeExactly? h₂
  split at h
  · simp only [Option.bind_eq_some_iff, Option.some.injEq, Prod.mk.injEq] at h
    obtain ⟨_, -, -, rfl⟩ := h
    omega
  · simp at h

/-- The batches of the leading valid records, and what follows the last of them. -/
def readRecords (bytes : Bytes) : List WriteBatch × Bytes :=
  match _read : readRecord? bytes with
  | none => ([], bytes)
  | some (batch, rest) =>
    let (batches, tail) := readRecords rest
    (batch :: batches, tail)
termination_by bytes.length
decreasing_by
  have := readRecord?_length _read
  simp only [headerSize] at this
  omega

/-- The valid records of a log. -/
def replay (bytes : Bytes) : Replay :=
  let (batches, tail) := readRecords bytes
  ⟨batches, bytes.length - tail.length⟩

end NestedStore.Log
