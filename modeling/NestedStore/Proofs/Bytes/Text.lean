import NestedStore.Bytes

/-! # Texts as bytes

The bytes of a text are those of its characters, one character after the other (`Bytes.ofText_eq`).
A character of ASCII is a byte of its own; any other is written in bytes that are not ASCII, and the
first of them opens a character (`wide_encoding`). So no byte of a text can be taken for an ASCII
character that is not there. -/
namespace NestedStore.Bytes

/-! ## The bytes of a text -/

/-- What is listed from a place on follows what was collected before. -/
theorem toList_loop (array : ByteArray) (place : Nat) (before : List UInt8) :
    ByteArray.toList.loop array place before = before.reverse ++ array.data.toList.drop place := by
  induction place, before using ByteArray.toList.loop.induct array with
  | case1 place before within ih =>
    have inside : place < array.data.toList.length := by simpa using within
    have here : array.get! place = array.data.toList[place] := by
      simp only [ByteArray.get!, Array.getElem_toList]
      exact getElem!_pos array.data place (by simpa using within)
    rw [ByteArray.toList.loop, if_pos within, ih, List.drop_eq_getElem_cons inside, here]
    simp
  | case2 place before past =>
    rw [ByteArray.toList.loop, if_neg past]
    have nothing : array.data.toList.length ≤ place := by simpa using past
    simp [List.drop_eq_nil_of_le nothing]

theorem ofText_eq_data (text : String) : ofText text = text.toUTF8.data.toList := by
  unfold ofText ByteArray.toList
  rw [toList_loop]
  simp

/-- Texts with the same encoding are the same. -/
theorem ofText_inj {text other : String} (same : ofText text = ofText other) :
    text = other := by
  rw [ofText_eq_data, ofText_eq_data] at same
  have data : text.toUTF8.data = other.toUTF8.data := by simpa using same
  exact String.toByteArray_inj.mp (ByteArray.ext data)

theorem ofText_eq (text : String) : ofText text = text.toList.flatMap String.utf8EncodeChar := by
  have encoded : text.toUTF8 = text.toList.utf8Encode := String.utf8Encode_toList.symm
  rw [ofText_eq_data, encoded, List.utf8Encode, List.toList_data_toByteArray]

/-! ## The bytes of a character -/

/-- A byte that a character begins with. -/
def opens (byte : UInt8) : Bool := byte < 0x80 || 0xc0 ≤ byte

theorem ascii_encoding {c : Char} (ascii : c.toNat < 0x80) :
    String.utf8EncodeChar c = [UInt8.ofNat c.toNat] := by
  have low : c.val.toNat ≤ 0x7f := Nat.le_of_lt_succ ascii
  rw [String.utf8EncodeChar, if_pos low]
  rfl

/-- A character that is not ASCII takes two bytes at least, none of them ASCII. -/
theorem wide_encoding {c : Char} (wide : 0x80 ≤ c.toNat) :
    ∃ first second rest, String.utf8EncodeChar c = first :: second :: rest ∧
      0xc0 ≤ first ∧ 0x80 ≤ second := by
  fun_cases String.utf8EncodeChar c with
  | case1 _ low => exact absurd low (Nat.not_le_of_lt wide)
  | case2 | case3 | case4 =>
    refine ⟨_, _, _, rfl, ?_, ?_⟩
    all_goals
      simp only [UInt8.le_iff_toNat_le, UInt8.toNat_ofNat']
      simp only [UInt8.toNat_ofNat]
      omega

/-- Behind a character, the next one begins or the text ends. -/
theorem opens_of_head? {chars : List Char} {byte : UInt8}
    (first : (chars.flatMap String.utf8EncodeChar).head? = some byte) : opens byte = true := by
  cases chars with
  | nil => cases first
  | cons c rest =>
    rw [List.flatMap_cons] at first
    by_cases ascii : c.toNat < 0x80
    · rw [ascii_encoding ascii] at first
      cases first
      simp [opens, UInt8.lt_iff_toNat_lt]
      omega
    · obtain ⟨first', second, others, encoding, high, -⟩ := wide_encoding (Nat.le_of_not_lt ascii)
      rw [encoding] at first
      cases first
      simp [opens, high]

end NestedStore.Bytes
