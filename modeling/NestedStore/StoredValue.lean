import NestedStore.Error

/-!
Stored values: a tag byte, then either a payload of bytes or the eight bytes of a map instance.
No bytes at all stand for the absence of a value.
-/

namespace NestedStore

/-- The kinds of stored values. -/
inductive ValueTag where
  | bytes
  | mapRef
  deriving DecidableEq

namespace ValueTag

/-- The byte that opens a stored value. -/
def byte : ValueTag → UInt8
  | bytes => 0x01
  | mapRef => 0x02

/-- The tag that a byte stands for. -/
def ofByte? (b : UInt8) : Option ValueTag :=
  [bytes, mapRef].find? fun tag => tag.byte = b

/-- The name of the tag. -/
def name : ValueTag → String
  | bytes => "Bytes"
  | mapRef => "MapRef"

end ValueTag

/-- What a table item or a map entry holds. -/
inductive StoredValue where
  | bytes (payload : Bytes)
  | reference (id : InstanceId)
  deriving DecidableEq

namespace StoredValue

/-- The stored form. -/
def encode : StoredValue → Bytes
  | bytes payload => ValueTag.bytes.byte :: payload
  | reference id => ValueTag.mapRef.byte :: id.encode

/-- The value that stored bytes stand for, `none` when there are no bytes. -/
def decode : Bytes → Except DecodeFault (Option StoredValue)
  | [] => .ok none
  | tag :: payload =>
    match ValueTag.ofByte? tag with
    | some .bytes => .ok (some (bytes payload))
    | some .mapRef =>
      match InstanceId.decode? payload with
      | some id => .ok (some (reference id))
      | none => .error (.referenceWidth payload.length)
    | none => .error (.unknownTag tag)

end StoredValue

end NestedStore
