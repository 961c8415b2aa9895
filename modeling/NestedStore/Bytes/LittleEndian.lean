import NestedStore.Bytes

/-!
Fixed-width little-endian numbers. `decode_encode` and `encode_decode` say that the numbers
below `limit width` and the byte strings of that width are the same thing.
-/

namespace NestedStore.LittleEndian

/-- The first number that does not fit into `width` bytes. -/
def limit : Nat → Nat
  | 0 => 1
  | width + 1 => 256 * limit width

/-- The `width` low bytes of `n`, least significant first. -/
def encode : Nat → Nat → Bytes
  | 0, _ => []
  | width + 1, n => UInt8.ofNat n :: encode width (n / 256)

/-- The number whose bytes, least significant first, are given. -/
def decode : Bytes → Nat
  | [] => 0
  | b :: rest => b.toNat + 256 * decode rest

@[simp] theorem length_encode (width n : Nat) : (encode width n).length = width := by
  induction width generalizing n with
  | zero => rfl
  | succ width ih => simp [encode, ih]

theorem decode_lt (bytes : Bytes) : decode bytes < limit bytes.length := by
  induction bytes with
  | nil => simp [decode, limit]
  | cons b rest ih =>
    have hb := b.toNat_lt
    simp only [decode, List.length_cons, limit]
    omega

theorem decode_encode (width n : Nat) : decode (encode width n) = n % limit width := by
  induction width generalizing n with
  | zero => simp [encode, decode, limit, Nat.mod_one]
  | succ width ih => simp [encode, decode, limit, ih, Nat.mod_mul]

theorem encode_decode (bytes : Bytes) : encode bytes.length (decode bytes) = bytes := by
  induction bytes with
  | nil => rfl
  | cons b rest ih =>
    have hb := b.toNat_lt
    have low : UInt8.ofNat (b.toNat + 256 * decode rest) = b := by
      apply UInt8.toNat_inj.mp
      rw [UInt8.toNat_ofNat']
      omega
    have high : (b.toNat + 256 * decode rest) / 256 = decode rest := by omega
    simp [encode, decode, low, high, ih]

end NestedStore.LittleEndian
