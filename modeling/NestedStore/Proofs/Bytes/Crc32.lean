import NestedStore.Bytes.Crc32
import NestedStore.Bytes.LittleEndian
import Mathlib.Algebra.Group.Nat.Defs
import Mathlib.Logic.Function.Conjugate
import Mathlib.Logic.Function.Iterate

/-! # Bursts that a checksum sees

The register of the checksum shifts one bit at a time. A shift is linear in the register
(`shift_xor`) and loses nothing (`shift_injective`), for the polynomial puts a one at the top
whenever a one falls out at the bottom. Up to four bytes can be mixed into the register at once,
before it shifts past them (`foldl_update_short`), so that what they were is read off the register
behind them. Hence two byte strings that differ in a window of at most four bytes and agree around
it have different checksums (`checksum_burst_inj`). -/
namespace NestedStore.Crc32

/-! ## One shift -/

/-- The reflected polynomial. -/
def polynomial : UInt32 := 0xEDB88320

/-- What a shift folds in for the bit that falls out. -/
def feedback (register : UInt32) : UInt32 :=
  if register.toNat % 2 = 1 then polynomial else 0

theorem and_one_eq_one_iff (register : UInt32) : register &&& 1 = 1 ↔ register.toNat % 2 = 1 := by
  rw [← UInt32.toNat_inj, UInt32.toNat_and]
  exact Eq.congr_left (Nat.and_one_is_mod register.toNat)

theorem shift_eq (register : UInt32) : shift register = register >>> 1 ^^^ feedback register := by
  unfold shift feedback
  simp only [and_one_eq_one_iff]
  split
  · rfl
  · rw [UInt32.xor_zero]

theorem feedback_xor (first second : UInt32) :
    feedback (first ^^^ second) = feedback first ^^^ feedback second := by
  have bits : (first ^^^ second).toNat % 2 = first.toNat % 2 ^^^ second.toNat % 2 := by
    rw [UInt32.toNat_xor]
    exact Nat.xor_mod_two_pow (n := 1)
  unfold feedback
  rw [bits]
  rcases Nat.mod_two_eq_zero_or_one first.toNat with even | odd <;>
    rcases Nat.mod_two_eq_zero_or_one second.toNat with even' | odd' <;>
      simp [*]

/-- A shift is linear. -/
theorem shift_xor (first second : UInt32) :
    shift (first ^^^ second) = shift first ^^^ shift second := by
  rw [shift_eq, shift_eq, shift_eq, UInt32.shiftRight_xor, feedback_xor]
  ac_rfl

theorem toNat_shiftRight_one (register : UInt32) : (register >>> 1).toNat = register.toNat / 2 := by
  rw [UInt32.toNat_shiftRight, Nat.shiftRight_eq_div_pow]
  rfl

/-- Nothing but zero is shifted to zero: a bit that falls out comes back as the top bit of the
polynomial, where the shifted register has none. -/
theorem eq_zero_of_shift {register : UInt32} (h : shift register = 0) : register = 0 := by
  rw [shift_eq, UInt32.xor_eq_zero_iff] at h
  have halves : register.toNat / 2 = (feedback register).toNat := by
    rw [← h, toNat_shiftRight_one]
  have below := register.toNat_lt
  unfold feedback at halves
  split at halves
  · have top : polynomial.toNat = 0xEDB88320 := rfl
    omega
  · have none : (0 : UInt32).toNat = 0 := rfl
    rw [← UInt32.toNat_inj]
    omega

theorem shift_injective : Function.Injective shift := by
  intro first second same
  have zero : shift (first ^^^ second) = 0 := by rw [shift_xor, same, UInt32.xor_self]
  exact UInt32.xor_eq_zero_iff.mp (eq_zero_of_shift zero)

/-! ## Many shifts -/

theorem iterate_shift_xor (count : Nat) (first second : UInt32) :
    shift^[count] (first ^^^ second) = shift^[count] first ^^^ shift^[count] second :=
  Function.Semiconj₂.iterate shift_xor count first second

theorem shift_ofNat_double {n : Nat} (h : 2 * n < UInt32.size) :
    shift (UInt32.ofNat (2 * n)) = UInt32.ofNat n := by
  have double : (UInt32.ofNat (2 * n)).toNat = 2 * n := UInt32.toNat_ofNat_of_lt' h
  have single : (UInt32.ofNat n).toNat = n := UInt32.toNat_ofNat_of_lt' (by omega)
  have even : ¬ (UInt32.ofNat (2 * n)).toNat % 2 = 1 := by omega
  rw [shift_eq, feedback, if_neg even, UInt32.xor_zero, ← UInt32.toNat_inj, toNat_shiftRight_one,
    double, single]
  omega

/-- As long as no one falls out, shifting halves the number in the register. -/
theorem iterate_shift_ofNat {count n : Nat} (h : 2 ^ count * n < UInt32.size) :
    shift^[count] (UInt32.ofNat (2 ^ count * n)) = UInt32.ofNat n := by
  induction count with
  | zero => rw [Nat.pow_zero, Nat.one_mul, Function.iterate_zero_apply]
  | succ count ih =>
    have double : 2 ^ (count + 1) * n = 2 * (2 ^ count * n) := by rw [Nat.pow_succ', Nat.mul_assoc]
    rw [double] at h ⊢
    rw [Function.iterate_succ_apply, shift_ofNat_double h, ih (by omega)]

/-! ## Bytes -/

/-- A byte is mixed into the low end of the register, which then shifts past it. -/
theorem update_eq (register : UInt32) (byte : UInt8) :
    update register byte = shift^[8] (register ^^^ byte.toUInt32) := rfl

theorem update_injective (byte : UInt8) : Function.Injective (update · byte) := by
  intro first second same
  simp only [update_eq] at same
  exact (UInt32.xor_left_inj _).mp (shift_injective.iterate 8 same)

theorem foldl_update_injective (bytes : Bytes) :
    Function.Injective fun register => bytes.foldl update register := by
  induction bytes with
  | nil => exact fun _ _ same => same
  | cons byte bytes ih => exact fun _ _ same => update_injective byte (ih same)

theorem low_add_eq_xor {low : Nat} (h : low < 2 ^ 8) (high : Nat) :
    low + 2 ^ 8 * high = low ^^^ 2 ^ 8 * high := by
  have lower : (low ^^^ 2 ^ 8 * high) % 2 ^ 8 = low := by
    rw [Nat.xor_mod_two_pow, Nat.mod_eq_of_lt h, Nat.mul_mod_right, Nat.xor_zero]
  have upper : (low ^^^ 2 ^ 8 * high) / 2 ^ 8 = high := by
    rw [Nat.xor_div_two_pow, Nat.div_eq_of_lt h, Nat.mul_div_cancel_left high (by decide),
      Nat.zero_xor]
  omega

theorem ofNat_decode_cons (byte : UInt8) (bytes : Bytes) :
    UInt32.ofNat (LittleEndian.decode (byte :: bytes)) =
      byte.toUInt32 ^^^ UInt32.ofNat (2 ^ 8 * LittleEndian.decode bytes) := by
  have split : LittleEndian.decode (byte :: bytes) =
      byte.toNat ^^^ 2 ^ 8 * LittleEndian.decode bytes := low_add_eq_xor byte.toNat_lt _
  rw [split, UInt32.ofNat_xor, UInt32.ofNat_uInt8ToNat]

theorem decode_lt_pow (bytes : Bytes) : LittleEndian.decode bytes < 256 ^ bytes.length := by
  induction bytes with
  | nil => exact Nat.one_pos
  | cons byte bytes ih =>
    have below := byte.toNat_lt
    rw [LittleEndian.decode, List.length_cons, Nat.pow_succ]
    omega

/-- Up to four bytes are mixed into the register at once, before it shifts past them. The later
ones stand higher, and the shifts that pass the earlier ones bring them down to the low end. -/
theorem foldl_update_short {bytes : Bytes} (short : bytes.length ≤ 4) (register : UInt32) :
    bytes.foldl update register =
      shift^[8 * bytes.length] (register ^^^ UInt32.ofNat (LittleEndian.decode bytes)) := by
  induction bytes generalizing register with
  | nil => exact (UInt32.xor_zero).symm
  | cons byte bytes ih =>
    rw [List.length_cons] at short
    have fits : 2 ^ 8 * LittleEndian.decode bytes < UInt32.size := by
      have below := decode_lt_pow bytes
      have wide : 256 ^ bytes.length ≤ 256 ^ 3 := Nat.pow_le_pow_right (by decide) (by omega)
      have size : UInt32.size = 2 ^ 8 * 256 ^ 3 := rfl
      omega
    calc (byte :: bytes).foldl update register
        = shift^[8 * bytes.length]
            (update register byte ^^^ UInt32.ofNat (LittleEndian.decode bytes)) := ih (by omega) _
      _ = shift^[8 * bytes.length] (shift^[8] (register ^^^ byte.toUInt32
            ^^^ UInt32.ofNat (2 ^ 8 * LittleEndian.decode bytes))) := by
          rw [update_eq, ← iterate_shift_ofNat fits, ← iterate_shift_xor]
      _ = shift^[8 * (bytes.length + 1)]
            (register ^^^ UInt32.ofNat (LittleEndian.decode (byte :: bytes))) := by
          rw [← Function.iterate_add_apply, UInt32.xor_assoc, ← ofNat_decode_cons, Nat.mul_succ]

/-! ## Windows -/

/-- Short strings of one length that leave the same register behind are the same. -/
theorem foldl_update_short_inj {old new : Bytes} (short : old.length ≤ 4)
    (lengths : new.length = old.length) {register : UInt32}
    (same : new.foldl update register = old.foldl update register) : new = old := by
  rw [foldl_update_short short, foldl_update_short (lengths ▸ short), lengths] at same
  have words := (UInt32.xor_right_inj register).mp (shift_injective.iterate _ same)
  have fits (bytes : Bytes) (few : bytes.length ≤ 4) :
      LittleEndian.decode bytes < UInt32.size :=
    Nat.lt_of_lt_of_le (decode_lt_pow bytes) (Nat.pow_le_pow_right (by decide) few)
  have numbers := congrArg UInt32.toNat words
  rw [UInt32.toNat_ofNat_of_lt' (fits new (lengths ▸ short)),
    UInt32.toNat_ofNat_of_lt' (fits old short)] at numbers
  rw [← LittleEndian.encode_decode new, numbers, lengths, LittleEndian.encode_decode]

/-- Where two byte strings agree around a window of at most four bytes, their checksums are equal
only when the windows are. -/
theorem checksum_burst_inj {front old new back : Bytes} (short : old.length ≤ 4)
    (lengths : new.length = old.length)
    (same : checksum (front ++ new ++ back) = checksum (front ++ old ++ back)) : new = old := by
  simp only [checksum, List.foldl_append, UInt32.xor_left_inj] at same
  exact foldl_update_short_inj short lengths (foldl_update_injective back same)

end NestedStore.Crc32
