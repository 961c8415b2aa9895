import NestedStore.WriteBatch
import NestedStore.Bytes.LittleEndian

/-!
The stored form of a write batch: the number of operations, then each operation as a kind byte and
its chunks, a chunk being its length and its bytes. All numbers are four bytes wide, so larger
ones lose their high part. A reader takes a chunk off the front and hands back what follows it;
a batch is accepted only when nothing follows its last operation.
-/

namespace NestedStore.WriteBatch

/-- The width of the counts and lengths. -/
def lengthWidth : Nat := 4

/-- The kind byte of a put. -/
def putKind : UInt8 := 1

/-- The kind byte of a delete. -/
def deleteKind : UInt8 := 2

/-- A chunk of bytes behind its length. -/
def encodeChunk (bytes : Bytes) : Bytes :=
  LittleEndian.encode lengthWidth bytes.length ++ bytes

/-- One operation. -/
def encodeOp : BatchOp → Bytes
  | .put key value => putKind :: (encodeChunk key ++ encodeChunk value)
  | .delete key => deleteKind :: encodeChunk key

/-- The stored form of a batch. -/
def encode (batch : WriteBatch) : Bytes :=
  LittleEndian.encode lengthWidth batch.ops.length ++ batch.ops.flatMap encodeOp

/-- The first `count` bytes and the rest, when there are that many. -/
def takeExactly? (count : Nat) (bytes : Bytes) : Option (Bytes × Bytes) :=
  let front := bytes.take count
  if front.length = count then some (front, bytes.drop count) else none

/-- A number off the front. -/
def takeNumber? (bytes : Bytes) : Option (Nat × Bytes) := do
  let (digits, rest) ← takeExactly? lengthWidth bytes
  return (LittleEndian.decode digits, rest)

/-- A chunk off the front. -/
def takeChunk? (bytes : Bytes) : Option (Bytes × Bytes) := do
  let (length, rest) ← takeNumber? bytes
  takeExactly? length rest

/-- An operation off the front. -/
def takeOp? : Bytes → Option (BatchOp × Bytes)
  | [] => none
  | kind :: bytes =>
    if kind = putKind then do
      let (key, rest) ← takeChunk? bytes
      let (value, rest) ← takeChunk? rest
      return (.put key value, rest)
    else if kind = deleteKind then do
      let (key, rest) ← takeChunk? bytes
      return (.delete key, rest)
    else none

/-- As many operations as said off the front. -/
def takeOps? : Nat → Bytes → Option (List BatchOp × Bytes)
  | 0, bytes => some ([], bytes)
  | count + 1, bytes => do
    let (op, rest) ← takeOp? bytes
    let (ops, rest) ← takeOps? count rest
    return (op :: ops, rest)

/-- The batch whose stored form is given. -/
def decode? (bytes : Bytes) : Option WriteBatch := do
  let (count, rest) ← takeNumber? bytes
  let (ops, rest) ← takeOps? count rest
  if rest.isEmpty then some ⟨ops⟩ else none

end NestedStore.WriteBatch
