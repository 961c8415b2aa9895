import NestedStore.Bytes

/-!
The CRC-32 checksum that guards log records: reflected polynomial `0xEDB88320`, the register
starting at all ones and inverted at the end.
-/

namespace NestedStore.Crc32

/-- One shift of the register, folding the polynomial in when a one falls out. -/
def shift (register : UInt32) : UInt32 :=
  if register &&& 1 = 1 then (register >>> 1) ^^^ 0xEDB88320 else register >>> 1

/-- The register after one more byte. -/
def update (register : UInt32) (byte : UInt8) : UInt32 :=
  let mixed := register ^^^ byte.toUInt32
  shift (shift (shift (shift (shift (shift (shift (shift mixed)))))))

/-- The checksum of a byte string. -/
def checksum (bytes : Bytes) : UInt32 :=
  bytes.foldl update 0xFFFFFFFF ^^^ 0xFFFFFFFF

end NestedStore.Crc32
