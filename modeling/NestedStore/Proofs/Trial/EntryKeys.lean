import NestedStore.Trial.Workload
import NestedStore.Proofs.Bytes.Text
import Mathlib.Data.List.Basic

/-! # Keys of their own

A padded number is read back from its digits however far it exceeds its width, and the hyphen
between two of them is no digit. So the key of an entry tells its writer and its index
(`Workload.entryKey_inj`). -/
namespace NestedStore

/-! ## Padded numbers -/

namespace Trial

theorem toList_padded (width n : Nat) : (padded width n).toList =
    List.replicate (width - (Nat.toDigits 10 n).length) '0' ++ Nat.toDigits 10 n := by
  simp [padded]

/-- The zeros in front add nothing to a number. -/
theorem ofDigitChars_padded (width n : Nat) :
    Nat.ofDigitChars 10 (padded width n).toList 0 = n := by
  rw [toList_padded, Nat.ofDigitChars_append, Nat.ofDigitChars_replicate_zero, Nat.mul_zero,
    Nat.ofDigitChars_toDigits (by decide) (by decide)]

theorem padded_inj {width n m : Nat} (same : (padded width n).toList = (padded width m).toList) :
    n = m := by
  rw [← ofDigitChars_padded width n, same, ofDigitChars_padded]

theorem hyphen_notMem_padded (width n : Nat) : '-' ∉ (padded width n).toList := by
  rw [toList_padded, List.mem_append, List.mem_replicate]
  rintro (⟨-, zero⟩ | digit)
  · cases zero
  · cases Nat.isDigit_of_mem_toDigits (by decide) (by decide) digit

end Trial

/-- **No two writers share an entry key**, nor does one use a key for two indices. -/
theorem Workload.entryKey_inj {writer writer' index index' : Nat}
    (same : entryKey writer index = entryKey writer' index') :
    writer = writer' ∧ index = index' := by
  have text := congrArg String.toList (Bytes.ofText_inj same)
  simp only [String.toList_append, List.append_assoc] at text
  have behind := List.append_cancel_left text
  obtain ⟨writers, -, indices⟩ :=
    (List.append_cons_inj_of_notMem (Trial.hyphen_notMem_padded 2 writer')
      (Trial.hyphen_notMem_padded 8 index')).mp behind.symm
  exact ⟨(Trial.padded_inj writers).symm, (Trial.padded_inj indices).symm⟩

end NestedStore
