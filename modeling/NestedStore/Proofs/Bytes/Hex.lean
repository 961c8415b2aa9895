import Mathlib.Data.List.Basic
import NestedStore.Report.Error
import NestedStore.Proofs.Bytes.Text

/-! # What is read as hexadecimal

A pair is read as a numeral, and a numeral may have a sign. So what is read is not only hexadecimal
text, but every text that becomes one when a zero is put in place of each sign that opens a pair
(`Hex.decodeChars?_spec`); what is written is always hexadecimal and is read back
(`Hex.decode?_encode`). It does not matter that pairs are cut out of the bytes of a text, where two
bytes need not be two characters (`Hex.decode?_eq_byOffsets`). -/
namespace NestedStore

namespace Hex

/-! ## Digits -/

/-- A hexadecimal digit of either case. -/
def IsDigit (c : Char) : Prop :=
  ('0' ≤ c ∧ c ≤ '9') ∨ ('a' ≤ c ∧ c ≤ 'f') ∨ ('A' ≤ c ∧ c ≤ 'F')

instance (c : Char) : Decidable (IsDigit c) := inferInstanceAs (Decidable (_ ∨ _ ∨ _))

theorem digitValue?_eq_none_iff {c : Char} : digitValue? c = none ↔ ¬ IsDigit c := by
  unfold digitValue? IsDigit
  split
  · simp_all
  · split
    · simp_all
    · split <;> simp_all

theorem IsDigit.ascii {c : Char} (h : IsDigit c) : c.toNat < 0x80 := by
  have bound : ∀ {top : Char}, top.toNat < 0x80 → c ≤ top → c.toNat < 0x80 :=
    fun small below => Nat.lt_of_le_of_lt below small
  obtain ⟨-, below⟩ | ⟨-, below⟩ | ⟨-, below⟩ := h
  · exact bound (by decide) below
  · exact bound (by decide) below
  · exact bound (by decide) below

/-- The value of a digit is written as that digit, in lower case. -/
theorem digit_of_digitValue? {c : Char} {value : Nat} (h : digitValue? c = some value) :
    value < 16 ∧ digit value = c.toLower := by
  have table : ∀ n < 0x80, ∀ value ∈ digitValue? (Char.ofNat n),
      value < 16 ∧ digit value = (Char.ofNat n).toLower := by decide
  have isDigit : IsDigit c := by
    by_contra other
    rw [digitValue?_eq_none_iff.mpr other] at h
    cases h
  have own := table c.toNat isDigit.ascii value
  rw [Char.ofNat_toNat] at own
  exact own h

theorem digitValue?_digit {value : Nat} (small : value < 16) :
    digitValue? (digit value) = some value ∧ digit value ≠ '+' := by
  have table : ∀ value < 16, digitValue? (digit value) = some value ∧ digit value ≠ '+' := by decide
  exact table value small

/-! ## Pairs -/

/-- The first character of a pair, a sign being taken for a zero. -/
def unsign (high : Char) : Char := if high = '+' then '0' else high

theorem pairValue?_eq (high low : Char) :
    pairValue? high low = (digitValue? (unsign high)).bind fun high =>
      (digitValue? low).map fun low => UInt8.ofNat (16 * high + low) := by
  unfold pairValue? unsign
  split
  · cases digitValue? low <;> rfl
  · cases digitValue? high <;> cases digitValue? low <;> rfl

theorem pairValue?_eq_none_iff {high low : Char} :
    pairValue? high low = none ↔ ¬ (IsDigit (unsign high) ∧ IsDigit low) := by
  rw [pairValue?_eq]
  cases first : digitValue? (unsign high) with
  | none => simp [digitValue?_eq_none_iff.mp first]
  | some value =>
    have isDigit : IsDigit (unsign high) := by
      by_contra other
      rw [digitValue?_eq_none_iff.mpr other] at first
      cases first
    simp [isDigit, digitValue?_eq_none_iff]

/-- A pair that is read is written with a zero for its sign and in lower case. -/
theorem pair_of_pairValue? {high low : Char} {byte : UInt8}
    (h : pairValue? high low = some byte) :
    pair byte = [(unsign high).toLower, low.toLower] := by
  rw [pairValue?_eq] at h
  obtain ⟨first, hf, h⟩ := Option.bind_eq_some_iff.mp h
  obtain ⟨second, hs, rfl⟩ := Option.map_eq_some_iff.mp h
  obtain ⟨small, written⟩ := digit_of_digitValue? hf
  obtain ⟨small', written'⟩ := digit_of_digitValue? hs
  have value : (UInt8.ofNat (16 * first + second)).toNat = 16 * first + second := by
    rw [UInt8.toNat_ofNat', Nat.mod_eq_of_lt (by omega)]
  rw [pair, value, ← written, ← written']
  congr 3 <;> omega

theorem pairValue?_pair (byte : UInt8) :
    pairValue? (digit (byte.toNat / 16)) (digit (byte.toNat % 16)) = some byte := by
  have size := byte.toNat_lt
  obtain ⟨high, noSign⟩ := digitValue?_digit (show byte.toNat / 16 < 16 by omega)
  obtain ⟨low, -⟩ := digitValue?_digit (show byte.toNat % 16 < 16 by omega)
  have whole : 16 * (byte.toNat / 16) + byte.toNat % 16 = byte.toNat := Nat.div_add_mod _ _
  rw [pairValue?_eq, unsign, if_neg noSign, high, low, Option.bind_some, Option.map_some, whole,
    UInt8.ofNat_toNat]

/-! ## Texts -/

/-- Pairs of digits. -/
def IsHex (chars : List Char) : Prop := chars.length % 2 = 0 ∧ ∀ c ∈ chars, IsDigit c

instance (chars : List Char) : Decidable (IsHex chars) :=
  @instDecidableAnd _ _ _ (List.decidableBAll IsDigit chars)

/-- A zero for each sign that opens a pair. -/
def unsigned : List Char → List Char
  | high :: low :: rest => unsign high :: low :: unsigned rest
  | chars => chars

theorem isHex_nil : IsHex [] := by decide

theorem not_isHex_singleton (c : Char) : ¬ IsHex [c] := fun ⟨even, _⟩ => by simp at even

theorem isHex_cons {high low : Char} {rest : List Char} :
    IsHex (high :: low :: rest) ↔ (IsDigit high ∧ IsDigit low) ∧ IsHex rest := by
  simp only [IsHex, List.length_cons, List.forall_mem_cons]
  constructor
  · rintro ⟨even, first, second, others⟩
    exact ⟨⟨first, second⟩, by omega, others⟩
  · rintro ⟨⟨first, second⟩, even, others⟩
    exact ⟨by omega, first, second, others⟩

/-- **What is read is what is hexadecimal without its signs**, and reads as what is written of its
bytes does, but for the case. -/
theorem decodeChars?_spec (chars : List Char) :
    (∃ bytes, decodeChars? chars = some bytes ∧
        bytes.flatMap pair = (unsigned chars).map Char.toLower) ∧ IsHex (unsigned chars) ∨
      decodeChars? chars = none ∧ ¬ IsHex (unsigned chars) := by
  induction chars using decodeChars?.induct with
  | case1 => exact .inl ⟨⟨[], rfl, rfl⟩, isHex_nil⟩
  | case2 c => exact .inr ⟨rfl, not_isHex_singleton c⟩
  | case3 high low rest ih =>
    rw [decodeChars?, unsigned, isHex_cons]
    cases read : pairValue? high low with
    | none =>
      refine .inr ⟨rfl, fun ⟨digits, _⟩ => ?_⟩
      exact pairValue?_eq_none_iff.mp read digits
    | some byte =>
      have digits : IsDigit (unsign high) ∧ IsDigit low := by
        by_contra other
        rw [pairValue?_eq_none_iff.mpr other] at read
        cases read
      obtain ⟨⟨bytes, decoded, written⟩, hex⟩ | ⟨failed, noHex⟩ := ih
      · refine .inl ⟨⟨byte :: bytes, ?_, ?_⟩, digits, hex⟩
        · rw [decoded]
          rfl
        · rw [List.flatMap_cons, pair_of_pairValue? read, written]
          rfl
      · refine .inr ⟨?_, fun ⟨_, hex⟩ => noHex hex⟩
        rw [failed]
        rfl

theorem decodeChars?_pairs (bytes : Bytes) : decodeChars? (bytes.flatMap pair) = some bytes := by
  induction bytes with
  | nil => rfl
  | cons byte bytes ih =>
    rw [List.flatMap_cons, pair, List.cons_append, List.singleton_append, decodeChars?,
      pairValue?_pair, ih]
    rfl

theorem isHex_pairs (bytes : Bytes) : IsHex (bytes.flatMap pair) := by
  induction bytes with
  | nil => exact isHex_nil
  | cons byte bytes ih =>
    have size := byte.toNat_lt
    have written {value : Nat} (small : value < 16) : IsDigit (digit value) := by
      by_contra other
      rw [← digitValue?_eq_none_iff, (digitValue?_digit small).1] at other
      cases other
    rw [List.flatMap_cons, pair, List.cons_append, List.singleton_append, isHex_cons]
    exact ⟨⟨written (by omega), written (by omega)⟩, ih⟩

/-- Digits have no sign to lose. -/
theorem unsigned_of_notMem {chars : List Char} (noSign : '+' ∉ chars) : unsigned chars = chars := by
  induction chars using unsigned.induct with
  | case1 high low rest ih =>
    simp only [List.mem_cons, not_or] at noSign
    obtain ⟨first, -, others⟩ := noSign
    rw [unsigned, unsign, if_neg (Ne.symm first), ih others]
  | case2 chars short =>
    unfold unsigned
    split
    · exact absurd rfl (short _ _ _)
    · rfl

theorem IsHex.noSign {chars : List Char} (h : IsHex chars) : '+' ∉ chars := by
  intro sign
  have digit := h.2 '+' sign
  revert digit
  decide

/-! ## Pairs of bytes

A text may be read by offsets into its bytes as well, two bytes at a time. Two bytes can be part of
a character, or of two. -/

/-- Whether a character begins at the offset, or the text ends there. -/
def isBoundary (encoded : Bytes) (offset : Nat) : Bool :=
  match encoded[offset]? with
  | some byte => Bytes.opens byte
  | none => offset = encoded.length

/-- The two bytes from an offset on, if they are characters of the text. -/
def twoBytes? (encoded : Bytes) (offset : Nat) : Option Bytes :=
  if isBoundary encoded offset ∧ isBoundary encoded (offset + 2) then
    some ((encoded.drop offset).take 2)
  else none

/-- The value of a numeral of two bytes. -/
def numeral? : Bytes → Option UInt8
  | [high, low] => pairValue? (Char.ofNat high.toNat) (Char.ofNat low.toNat)
  | _ => none

/-- The value of the numeral at an offset. -/
def readAt? (encoded : Bytes) (offset : Nat) : Option UInt8 :=
  (twoBytes? encoded offset).bind numeral?

/-- The values of the numerals from an offset on; `none` when a byte is left. -/
def decodeFrom? (encoded : Bytes) (offset : Nat) : Option Bytes :=
  if (encoded.length - offset) % 2 = 0 then
    (List.range' offset ((encoded.length - offset) / 2) 2).mapM (readAt? encoded)
  else none

/-- The bytes that a text spells, two bytes each. -/
def byOffsets? (text : String) : Option Bytes := decodeFrom? (Bytes.ofText text) 0

theorem decodeFrom?_end (before : Bytes) : decodeFrom? before before.length = some [] := by
  simp [decodeFrom?]

theorem decodeFrom?_single (before : Bytes) (byte : UInt8) :
    decodeFrom? (before ++ [byte]) before.length = none := by
  simp [decodeFrom?]

theorem isBoundary_append (before after : Bytes) :
    isBoundary (before ++ after) before.length = after.head?.all Bytes.opens := by
  cases after with
  | nil => simp [isBoundary]
  | cons byte after => simp [isBoundary]

/-- Two bytes are read where a character begins, if the next one begins behind them. -/
theorem readAt?_append (before : Bytes) (high low : UInt8) (after : Bytes) :
    readAt? (before ++ high :: low :: after) before.length =
      if Bytes.opens high ∧ after.head?.all Bytes.opens then numeral? [high, low] else none := by
  have here := isBoundary_append before (high :: low :: after)
  have behind := isBoundary_append (before ++ [high, low]) after
  simp only [List.append_assoc, List.cons_append, List.nil_append, List.length_append,
    List.length_cons, List.length_nil] at behind
  rw [readAt?, twoBytes?, here, behind]
  simp only [List.head?_cons, Option.all_some, List.drop_left]
  split
  · rfl
  · rfl

theorem decodeFrom?_step (before : Bytes) (high low : UInt8) (after : Bytes) :
    decodeFrom? (before ++ high :: low :: after) before.length =
      (readAt? (before ++ high :: low :: after) before.length).bind fun byte =>
        (decodeFrom? (before ++ high :: low :: after) (before.length + 2)).map (byte :: ·) := by
  have left : (before ++ high :: low :: after).length - before.length = after.length + 2 := by
    simp
  have less : (before ++ high :: low :: after).length - (before.length + 2) = after.length := by
    rw [← Nat.sub_sub, left, Nat.add_sub_cancel]
  unfold decodeFrom?
  rw [left, less]
  by_cases even : after.length % 2 = 0
  · have half : (after.length + 2) / 2 = after.length / 2 + 1 := by omega
    rw [if_pos (by omega), if_pos even, half, List.range'_succ, List.mapM_cons]
    cases readAt? (before ++ high :: low :: after) before.length with
    | none => rfl
    | some byte =>
      cases (List.range' (before.length + 2) (after.length / 2) 2).mapM
        (readAt? (before ++ high :: low :: after)) <;> rfl
  · rw [if_neg (by omega), if_neg even]
    cases readAt? (before ++ high :: low :: after) before.length <;> rfl

/-- Outside ASCII there are no digits. -/
theorem pairValue?_wide {high low : Char} (wide : 0x80 ≤ high.toNat ∨ 0x80 ≤ low.toNat) :
    pairValue? high low = none := by
  refine pairValue?_eq_none_iff.mpr fun ⟨first, second⟩ => ?_
  obtain wide | wide := wide
  · have noSign : high ≠ '+' := by
      rintro rfl
      revert wide
      decide
    rw [unsign, if_neg noSign] at first
    exact absurd first.ascii (Nat.not_lt_of_le wide)
  · exact absurd second.ascii (Nat.not_lt_of_le wide)

theorem numeral?_wide {high low : UInt8} (wide : 0x80 ≤ high ∨ 0x80 ≤ low) :
    numeral? [high, low] = none := by
  have same (byte : UInt8) : (Char.ofNat byte.toNat).toNat = byte.toNat := by
    have size := byte.toNat_lt
    rw [Char.ofNat, dif_pos (.inl (by omega))]
    rfl
  refine pairValue?_wide ?_
  rw [same, same]
  exact wide

theorem numeral?_ascii {high low : Char} (first : high.toNat < 0x80) (second : low.toNat < 0x80) :
    numeral? [UInt8.ofNat high.toNat, UInt8.ofNat low.toNat] = pairValue? high low := by
  have same {c : Char} (ascii : c.toNat < 0x80) : Char.ofNat (UInt8.ofNat c.toNat).toNat = c := by
    rw [UInt8.toNat_ofNat', Nat.mod_eq_of_lt (by omega), Char.ofNat_toNat]
  rw [numeral?, same first, same second]

/-- Nothing is read where one of two bytes is not ASCII. -/
theorem decodeFrom?_wide {high low : UInt8} (wide : 0x80 ≤ high ∨ 0x80 ≤ low)
    (before after : Bytes) : decodeFrom? (before ++ high :: low :: after) before.length = none := by
  rw [decodeFrom?_step, readAt?_append, numeral?_wide wide, ite_self]
  rfl

/-- Two characters of ASCII are read, and then what follows them. -/
theorem decodeFrom?_ascii {high low : Char} (first : high.toNat < 0x80) (second : low.toNat < 0x80)
    (before : Bytes) (rest : List Char) :
    decodeFrom? (before ++ (high :: low :: rest).flatMap String.utf8EncodeChar) before.length =
      (pairValue? high low).bind fun byte =>
        (decodeFrom? (before ++ [UInt8.ofNat high.toNat, UInt8.ofNat low.toNat] ++
            rest.flatMap String.utf8EncodeChar)
          (before ++ [UInt8.ofNat high.toNat, UInt8.ofNat low.toNat]).length).map (byte :: ·) := by
  have begins : Bytes.opens (UInt8.ofNat high.toNat) = true := by
    refine @Bytes.opens_of_head? [high] _ ?_
    rw [List.flatMap_singleton, Bytes.ascii_encoding first]
    rfl
  have ends : (rest.flatMap String.utf8EncodeChar).head?.all Bytes.opens = true :=
    (Option.all_eq_true _ _).mpr fun byte next => Bytes.opens_of_head? next
  rw [List.flatMap_cons, List.flatMap_cons, Bytes.ascii_encoding first,
    Bytes.ascii_encoding second, List.singleton_append, List.singleton_append, decodeFrom?_step,
    readAt?_append, if_pos ⟨begins, ends⟩, numeral?_ascii first second, List.append_assoc,
    List.length_append]
  rfl

/-- Wherever the pairs come to stand, the characters and the bytes of a text spell the same. -/
theorem decodeFrom?_eq (before : Bytes) (chars : List Char) :
    decodeFrom? (before ++ chars.flatMap String.utf8EncodeChar) before.length =
      decodeChars? chars := by
  induction chars using decodeChars?.induct generalizing before with
  | case1 =>
    rw [List.flatMap_nil, List.append_nil]
    exact decodeFrom?_end before
  | case2 c =>
    rw [List.flatMap_singleton]
    by_cases ascii : c.toNat < 0x80
    · rw [Bytes.ascii_encoding ascii]
      exact decodeFrom?_single before _
    · obtain ⟨first, second, rest, encoding, -, wide⟩ :=
        Bytes.wide_encoding (Nat.le_of_not_lt ascii)
      rw [encoding]
      exact decodeFrom?_wide (.inr wide) before rest
  | case3 high low rest ih =>
    rw [decodeChars?]
    by_cases ascii : high.toNat < 0x80
    · by_cases ascii' : low.toNat < 0x80
      · rw [decodeFrom?_ascii ascii ascii', ih]
        cases pairValue? high low <;> cases decodeChars? rest <;> rfl
      · have wide := Nat.le_of_not_lt ascii'
        obtain ⟨first, second, others, encoding, above, -⟩ := Bytes.wide_encoding wide
        rw [List.flatMap_cons, List.flatMap_cons, Bytes.ascii_encoding ascii, encoding,
          pairValue?_wide (.inr wide)]
        exact decodeFrom?_wide (.inr (UInt8.le_trans (by decide) above)) before _
    · have wide := Nat.le_of_not_lt ascii
      obtain ⟨first, second, others, encoding, -, above⟩ := Bytes.wide_encoding wide
      rw [List.flatMap_cons, encoding, pairValue?_wide (.inl wide)]
      exact decodeFrom?_wide (.inr above) before _

theorem decode?_eq_byOffsets (text : String) : decode? text = byOffsets? text := by
  rw [byOffsets?, Bytes.ofText_eq]
  exact (decodeFrom?_eq [] text.toList).symm

/-- A text with a zero for each sign that opens a pair. -/
def withoutSigns (text : String) : String := String.ofList (unsigned text.toList)

theorem toList_withoutSigns (text : String) :
    (withoutSigns text).toList = unsigned text.toList := String.toList_ofList

theorem toList_toLower (text : String) : text.toLower.toList = text.toList.map Char.toLower :=
  String.toList_map

theorem toList_encode (bytes : Bytes) : (encode bytes).toList = bytes.flatMap pair :=
  String.toList_ofList

theorem decode?_encode (bytes : Bytes) : decode? (encode bytes) = some bytes := by
  rw [decode?, toList_encode]
  exact decodeChars?_pairs bytes

theorem isHex_iff {text : String} :
    IsHex text.toList ↔ IsHex (withoutSigns text).toList ∧ '+' ∉ text.toList := by
  rw [toList_withoutSigns]
  constructor
  · intro hex
    rw [unsigned_of_notMem hex.noSign]
    exact ⟨hex, hex.noSign⟩
  · intro ⟨hex, noSign⟩
    rwa [unsigned_of_notMem noSign] at hex

end Hex

/-- **A hexadecimal argument is read exactly when it is hexadecimal but for signs**: with a zero in
place of each sign that opens a pair it is what is written of its bytes, in lower case. Whatever is
not is refused with the argument as it was given. -/
theorem hex_arguments_are_read (text : String) :
    ((∃ bytes, readHexArgument text = .ok bytes ∧
          Hex.encode bytes = (Hex.withoutSigns text).toLower) ∧
        Hex.IsHex (Hex.withoutSigns text).toList ∨
      readHexArgument text = .error (.invalidHex text) ∧
        ¬ Hex.IsHex (Hex.withoutSigns text).toList) ∧
    (Hex.IsHex text.toList ↔ Hex.IsHex (Hex.withoutSigns text).toList ∧ '+' ∉ text.toList) ∧
    (Hex.withoutSigns text = text ∨ '+' ∈ text.toList) ∧
    (readHexArgument text).toOption = Hex.byOffsets? text ∧
    ∀ bytes, Hex.IsHex (Hex.encode bytes).toList ∧
      readHexArgument (Hex.encode bytes) = .ok bytes := by
  refine ⟨?_, Hex.isHex_iff, ?_, ?_, fun bytes => ⟨?_, ?_⟩⟩
  · rw [Hex.toList_withoutSigns]
    obtain ⟨⟨bytes, decoded, written⟩, hex⟩ | ⟨failed, noHex⟩ := Hex.decodeChars?_spec text.toList
    · refine .inl ⟨⟨bytes, ?_, ?_⟩, hex⟩
      · rw [readHexArgument, Hex.decode?, decoded]
      · rw [← String.toList_inj, Hex.toList_encode, written, Hex.toList_toLower,
          Hex.toList_withoutSigns]
    · refine .inr ⟨?_, noHex⟩
      rw [readHexArgument, Hex.decode?, failed]
  · by_cases sign : '+' ∈ text.toList
    · exact .inr sign
    · refine .inl ?_
      rw [Hex.withoutSigns, Hex.unsigned_of_notMem sign, String.ofList_toList]
  · rw [← Hex.decode?_eq_byOffsets, readHexArgument]
    cases Hex.decode? text <;> rfl
  · rw [Hex.toList_encode]
    exact Hex.isHex_pairs bytes
  · rw [readHexArgument, Hex.decode?_encode]

/-- A sign and a digit are read as a byte, which is not written so. -/
theorem signed_pair_is_read :
    readHexArgument "+f" = .ok [0x0f] ∧ ¬ Hex.IsHex "+f".toList ∧
      Hex.encode [0x0f] ≠ "+f".toLower ∧ readHexArgument "+f" = readHexArgument "0f" := by
  refine ⟨by decide, by decide, ?_, by decide⟩
  rw [ne_eq, ← String.toList_inj, Hex.toList_toLower]
  decide

end NestedStore
