import NestedStore.Log.Record

/-! # What a log gives back

A batch whose stored form is short enough for its length fields is read back from its record as
it was written, whatever follows the record (`readRecord?_record_append`), and no part of a record
that lacks its last byte is read as anything (`readRecord?_take_record`). Reading never looks past
the record it reads, so the valid front of any log is a log of its own (`whole_take_valid`), to which
records may be appended (`Whole.append`), and a log that is cut anywhere gives back the records in
front of the cut (`replay_take_records`). -/
namespace NestedStore
namespace WriteBatch

/-! ## Taking off the front what was written there -/

theorem takeExactly?_eq_some_iff {count : Nat} {bytes front rest : Bytes} :
    takeExactly? count bytes = some (front, rest) ↔ bytes = front ++ rest ∧ front.length = count := by
  constructor
  · intro h
    simp only [takeExactly?, Option.ite_none_right_eq_some, Option.some.injEq, Prod.mk.injEq] at h
    obtain ⟨hc, rfl, rfl⟩ := h
    exact ⟨(List.take_append_drop count bytes).symm, hc⟩
  · rintro ⟨rfl, rfl⟩
    simp [takeExactly?]

theorem takeExactly?_append {count : Nat} {front : Bytes} (h : front.length = count)
    (rest : Bytes) : takeExactly? count (front ++ rest) = some (front, rest) :=
  takeExactly?_eq_some_iff.mpr ⟨rfl, h⟩

/-- Where the numbers end that a length field can hold. -/
def lengthLimit : Nat := UInt32.size

theorem limit_lengthWidth : LittleEndian.limit lengthWidth = lengthLimit := rfl

theorem takeNumber?_append {n : Nat} (h : n < lengthLimit) (rest : Bytes) :
    takeNumber? (LittleEndian.encode lengthWidth n ++ rest) = some (n, rest) := by
  simp only [takeNumber?, takeExactly?_append (LittleEndian.length_encode lengthWidth n), bind,
    Option.bind_some, pure]
  rw [LittleEndian.decode_encode, limit_lengthWidth, Nat.mod_eq_of_lt h]

theorem takeChunk?_append {bytes : Bytes} (h : bytes.length < lengthLimit) (rest : Bytes) :
    takeChunk? (encodeChunk bytes ++ rest) = some (bytes, rest) := by
  rw [encodeChunk, List.append_assoc]
  simp only [takeChunk?, takeNumber?_append h, bind, Option.bind_some]
  exact takeExactly?_append rfl rest

/-- The key and the value of an operation are short enough for their length fields. -/
def Fits (op : BatchOp) : Prop :=
  op.key.length < lengthLimit ∧ ∀ value, op.value? = some value → value.length < lengthLimit

theorem takeOp?_append {op : BatchOp} (h : Fits op) (rest : Bytes) :
    takeOp? (encodeOp op ++ rest) = some (op, rest) := by
  have hc : deleteKind ≠ putKind := by decide
  cases op with
  | put key value =>
    have hk : key.length < lengthLimit := h.1
    have hv : value.length < lengthLimit := h.2 value rfl
    simp only [encodeOp, List.cons_append, List.append_assoc, takeOp?, if_true,
      takeChunk?_append hk, takeChunk?_append hv, bind, Option.bind_some, pure]
  | delete key =>
    have hk : key.length < lengthLimit := h.1
    simp only [encodeOp, List.cons_append, takeOp?, if_neg hc, if_true, takeChunk?_append hk, bind,
      Option.bind_some, pure]

theorem takeOps?_append {ops : List BatchOp} (h : ∀ op ∈ ops, Fits op) (rest : Bytes) :
    takeOps? ops.length (ops.flatMap encodeOp ++ rest) = some (ops, rest) := by
  induction ops with
  | nil => rfl
  | cons op ops ih =>
    have hop := h op List.mem_cons_self
    have hops := ih fun other ho => h other (List.mem_cons_of_mem op ho)
    simp only [List.length_cons, List.flatMap_cons, List.append_assoc, takeOps?,
      takeOp?_append hop, hops, bind, Option.bind_some, pure]

/-- The stored form of the batch is short enough for the length field of a record. -/
def Short (batch : WriteBatch) : Prop := batch.encode.length < lengthLimit

instance (batch : WriteBatch) : Decidable batch.Short := inferInstanceAs (Decidable (_ < _))

theorem length_encodeChunk (bytes : Bytes) :
    (encodeChunk bytes).length = lengthWidth + bytes.length := by
  rw [encodeChunk, List.length_append, LittleEndian.length_encode]

theorem fits_of_length {op : BatchOp} (h : (encodeOp op).length < lengthLimit) : Fits op := by
  cases op with
  | put key value =>
    simp only [encodeOp, List.length_cons, List.length_append, length_encodeChunk] at h
    refine ⟨?_, ?_⟩
    · simp only [BatchOp.key]
      omega
    · intro other ho
      cases ho
      omega
  | delete key =>
    simp only [encodeOp, List.length_cons, length_encodeChunk] at h
    refine ⟨?_, ?_⟩
    · simp only [BatchOp.key]
      omega
    · intro other ho
      cases ho

theorem length_encodeOp_pos (op : BatchOp) : 0 < (encodeOp op).length := by
  cases op <;> exact Nat.succ_pos _

theorem length_le_length_flatMap (ops : List BatchOp) :
    ops.length ≤ (ops.flatMap encodeOp).length := by
  induction ops with
  | nil => exact Nat.le_refl 0
  | cons op ops ih =>
    have := length_encodeOp_pos op
    simp only [List.length_cons, List.flatMap_cons, List.length_append]
    omega

theorem length_encodeOp_le {op : BatchOp} {ops : List BatchOp} (h : op ∈ ops) :
    (encodeOp op).length ≤ (ops.flatMap encodeOp).length := by
  obtain ⟨before, after, rfl⟩ := List.append_of_mem h
  simp only [List.flatMap_append, List.flatMap_cons, List.length_append]
  omega

theorem length_encode (batch : WriteBatch) :
    batch.encode.length = lengthWidth + (batch.ops.flatMap encodeOp).length := by
  rw [encode, List.length_append, LittleEndian.length_encode]

/-- A batch is read back from its stored form. -/
theorem decode?_encode {batch : WriteBatch} (h : batch.Short) :
    decode? batch.encode = some batch := by
  have hl := length_encode batch
  have hb : batch.encode.length < lengthLimit := h
  have hcount : batch.ops.length < lengthLimit := by
    have := length_le_length_flatMap batch.ops
    omega
  have hfits : ∀ op ∈ batch.ops, Fits op := by
    intro op ho
    have := length_encodeOp_le ho
    exact fits_of_length (by omega)
  have hops := takeOps?_append hfits []
  rw [List.append_nil] at hops
  simp only [decode?, encode, takeNumber?_append hcount, hops, bind, Option.bind_some,
    List.isEmpty_nil, if_true]

end WriteBatch

namespace Log
open WriteBatch (takeExactly?_append takeExactly?_eq_some_iff)

/-! ## Records -/

theorem readHeader?_append (payload rest : Bytes) :
    readHeader? (encodeRecord payload ++ rest) =
      some (payload.length % WriteBatch.lengthLimit, (Crc32.checksum payload).toNat,
        payload ++ rest) := by
  have hm : magic.length = 4 := rfl
  have hw := LittleEndian.length_encode fieldWidth
  have hl : LittleEndian.limit fieldWidth = WriteBatch.lengthLimit := rfl
  have hc : (Crc32.checksum payload).toNat % WriteBatch.lengthLimit
      = (Crc32.checksum payload).toNat := Nat.mod_eq_of_lt (UInt32.toNat_lt _)
  simp only [readHeader?, encodeRecord, List.append_assoc, takeExactly?_append rfl,
    takeExactly?_append (hw _), bind, Option.bind_some, if_true, LittleEndian.decode_encode, hl, hc]

/-- The record of a short batch is read back, whatever follows it. -/
theorem readRecord?_record_append {batch : WriteBatch} (h : batch.Short) (rest : Bytes) :
    readRecord? (record batch ++ rest) = some (batch, rest) := by
  have hl : batch.encode.length % WriteBatch.lengthLimit = batch.encode.length :=
    Nat.mod_eq_of_lt h
  simp only [readRecord?, record, readHeader?_append, hl, takeExactly?_append rfl, bind,
    Option.bind_some, if_true, WriteBatch.decode?_encode h]

theorem readHeader?_front {bytes rest : Bytes} {length checksum : Nat}
    (h : readHeader? bytes = some (length, checksum, rest)) :
    ∃ front, bytes = front ++ rest ∧
      ∀ tail, readHeader? (front ++ tail) = some (length, checksum, tail) := by
  simp only [readHeader?, bind, Option.bind_eq_some_iff, Prod.exists] at h
  obtain ⟨opening, r₁, h₁, digits, r₂, h₂, sum, r₃, h₃, h⟩ := h
  obtain ⟨rfl, l₁⟩ := takeExactly?_eq_some_iff.mp h₁
  obtain ⟨rfl, l₂⟩ := takeExactly?_eq_some_iff.mp h₂
  obtain ⟨rfl, l₃⟩ := takeExactly?_eq_some_iff.mp h₃
  split at h
  · next hm =>
    simp only [Option.some.injEq, Prod.mk.injEq] at h
    obtain ⟨rfl, rfl, rfl⟩ := h
    refine ⟨opening ++ digits ++ sum, by simp only [List.append_assoc], ?_⟩
    intro tail
    simp only [readHeader?, List.append_assoc, takeExactly?_append l₁, takeExactly?_append l₂,
      takeExactly?_append l₃, bind, Option.bind_some, if_pos hm]
  · cases h

/-- Reading a record looks at nothing behind it. -/
theorem readRecord?_front {bytes rest : Bytes} {batch : WriteBatch}
    (h : readRecord? bytes = some (batch, rest)) :
    ∃ front, bytes = front ++ rest ∧
      ∀ tail, readRecord? (front ++ tail) = some (batch, tail) := by
  simp only [readRecord?, bind, Option.bind_eq_some_iff, Prod.exists] at h
  obtain ⟨length, checksum, body, hh, payload, behind, hp, h⟩ := h
  obtain ⟨header, rfl, header_reads⟩ := readHeader?_front hh
  obtain ⟨rfl, hl⟩ := takeExactly?_eq_some_iff.mp hp
  split at h
  · next hc =>
    simp only [Option.bind_eq_some_iff, Option.some.injEq, Prod.mk.injEq] at h
    obtain ⟨_, hd, rfl, rfl⟩ := h
    refine ⟨header ++ payload, by rw [List.append_assoc], ?_⟩
    intro tail
    simp only [readRecord?, List.append_assoc, header_reads, takeExactly?_append hl, if_pos hc, hd,
      bind, Option.bind_some]
  · cases h

/-- A record that lacks its end is not read. -/
theorem readRecord?_take_record {batch : WriteBatch} (h : batch.Short) {count : Nat}
    (hc : count < (record batch).length) : readRecord? ((record batch).take count) = none := by
  cases hr : readRecord? ((record batch).take count) with
  | none => rfl
  | some read =>
    obtain ⟨other, rest⟩ := read
    obtain ⟨front, hf, reads⟩ := readRecord?_front hr
    have whole : readRecord? (record batch) = some (other, rest ++ (record batch).drop count) := by
      rw [← reads, ← List.append_assoc, ← hf, List.take_append_drop]
    have again := readRecord?_record_append h []
    rw [List.append_nil, whole, Option.some.injEq, Prod.mk.injEq] at again
    have gone := congrArg List.length again.2
    simp only [List.length_append, List.length_drop, List.length_nil] at gone
    omega

/-! ## Logs -/

theorem readRecords_of_none {bytes : Bytes} (h : readRecord? bytes = none) :
    readRecords bytes = ([], bytes) := by
  rw [readRecords]
  split
  · rfl
  · next hs => rw [h] at hs; cases hs

theorem readRecords_of_some {bytes rest : Bytes} {batch : WriteBatch}
    (h : readRecord? bytes = some (batch, rest)) :
    readRecords bytes = (batch :: (readRecords rest).1, (readRecords rest).2) := by
  rw [readRecords]
  split
  · next hs => rw [h] at hs; cases hs
  · next hs =>
    rw [h] at hs
    cases hs
    rfl

/-- The content is the records of the batches and nothing else. -/
def Whole (content : Bytes) (batches : List WriteBatch) : Prop :=
  readRecords content = (batches, [])

theorem whole_nil : Whole [] [] := readRecords_of_none rfl

theorem Whole.eq_nil {content : Bytes} (h : Whole content []) : content = [] := by
  unfold Whole at h
  cases hr : readRecord? content with
  | none =>
    rw [readRecords_of_none hr] at h
    exact congrArg Prod.snd h
  | some read =>
    rw [readRecords_of_some hr] at h
    cases h

theorem whole_record {batch : WriteBatch} (h : batch.Short) : Whole (record batch) [batch] := by
  have hr := readRecord?_record_append h []
  rw [List.append_nil] at hr
  have hn : readRecords [] = ([], []) := whole_nil
  rw [Whole, readRecords_of_some hr, hn]

theorem Whole.readRecords_append {content : Bytes} {batches : List WriteBatch}
    (h : Whole content batches) (tail : Bytes) :
    readRecords (content ++ tail) = (batches ++ (readRecords tail).1, (readRecords tail).2) := by
  unfold Whole at h
  fun_induction readRecords content generalizing batches with
  | case1 content hr =>
    cases h
    rfl
  | case2 content batch rest hr later behind hl ih =>
    simp only [Prod.mk.injEq] at h
    obtain ⟨rfl, rfl⟩ := h
    obtain ⟨front, rfl, reads⟩ := readRecord?_front hr
    rw [List.append_assoc, readRecords_of_some (reads (rest ++ tail)), ih hl, List.cons_append]

theorem Whole.append {a b : Bytes} {first second : List WriteBatch} (ha : Whole a first)
    (hb : Whole b second) : Whole (a ++ b) (first ++ second) := by
  have hb' : readRecords b = (second, []) := hb
  rw [Whole, ha.readRecords_append, hb']

theorem whole_records {batches : List WriteBatch} (h : ∀ batch ∈ batches, batch.Short) :
    Whole (batches.flatMap record) batches := by
  induction batches with
  | nil => exact whole_nil
  | cons batch batches ih =>
    have later := ih fun other ho => h other (List.mem_cons_of_mem batch ho)
    exact (whole_record (h batch List.mem_cons_self)).append later

/-- What follows the last valid record is what is left of the log. -/
theorem exists_whole_append (bytes : Bytes) : ∃ front,
    bytes = front ++ (readRecords bytes).2 ∧ Whole front (readRecords bytes).1 := by
  fun_induction readRecords bytes with
  | case1 bytes hr => exact ⟨[], rfl, whole_nil⟩
  | case2 bytes batch rest hr later behind hl ih =>
    obtain ⟨front, hf, hw⟩ := ih
    obtain ⟨own, rfl, reads⟩ := readRecord?_front hr
    rw [hl] at hf hw
    have hw' : readRecords front = (later, []) := hw
    refine ⟨own ++ front, by rw [List.append_assoc, ← hf], ?_⟩
    rw [Whole, readRecords_of_some (reads front), hw']

theorem Whole.replay_append {content tail : Bytes} {batches : List WriteBatch}
    (h : Whole content batches) (ht : readRecord? tail = none) :
    replay (content ++ tail) = ⟨batches, content.length⟩ := by
  simp only [replay, h.readRecords_append, readRecords_of_none ht, List.append_nil,
    List.length_append, Nat.add_sub_cancel]

theorem Whole.replay_eq {content : Bytes} {batches : List WriteBatch} (h : Whole content batches) :
    replay content = ⟨batches, content.length⟩ := by
  have hn : readRecord? [] = none := rfl
  have := h.replay_append hn
  rwa [List.append_nil] at this

/-- The valid front of a log is a log of its own. -/
theorem whole_take_valid (bytes : Bytes) :
    Whole (bytes.take (replay bytes).validLength) (replay bytes).batches := by
  obtain ⟨front, hf, hw⟩ := exists_whole_append bytes
  have hl : (replay bytes).validLength = front.length := by
    have := congrArg List.length hf
    simp only [replay, List.length_append] at this ⊢
    omega
  have ht : bytes.take front.length = front := by
    rw [hf, List.take_left]
  rw [hl, ht]
  exact hw

/-- A log whose last record lacks its end gives back the records before it. -/
theorem Whole.replay_torn {content : Bytes} {batches : List WriteBatch} {batch : WriteBatch}
    (h : Whole content batches) (hs : batch.Short) {count : Nat}
    (hc : count < (record batch).length) :
    replay (content ++ (record batch).take count) = ⟨batches, content.length⟩ :=
  h.replay_append (readRecord?_take_record hs hc)

/-! ## Cut logs -/

/-- How many of the records of the batches end at or before a place. -/
def recordsWithin : List WriteBatch → Nat → Nat
  | [], _ => 0
  | batch :: later, place =>
    if (record batch).length ≤ place then
      recordsWithin later (place - (record batch).length) + 1
    else 0

theorem recordsWithin_le (batches : List WriteBatch) (place : Nat) :
    recordsWithin batches place ≤ batches.length := by
  induction batches generalizing place with
  | nil => exact Nat.le_refl 0
  | cons batch later ih =>
    rw [recordsWithin, List.length_cons]
    split
    · exact Nat.succ_le_succ (ih _)
    · exact Nat.zero_le _

/-- The records counted end at or before the place, and the next one ends behind it. -/
theorem recordsWithin_spec (batches : List WriteBatch) (place : Nat) :
    ((batches.take (recordsWithin batches place)).flatMap record).length ≤ place ∧
      (recordsWithin batches place < batches.length →
        place < ((batches.take (recordsWithin batches place + 1)).flatMap record).length) := by
  induction batches generalizing place with
  | nil => exact ⟨Nat.zero_le place, fun h => absurd h (Nat.lt_irrefl 0)⟩
  | cons batch later ih =>
    obtain ⟨ends, next⟩ := ih (place - (record batch).length)
    simp only [recordsWithin]
    split
    · simp only [List.take_succ_cons, List.flatMap_cons, List.length_append, List.length_cons]
      refine ⟨by omega, ?_⟩
      intro hl
      have := next (by omega)
      omega
    · simp only [List.take_zero, List.flatMap_nil, List.length_nil, Nat.zero_add,
        List.take_succ_cons, List.flatMap_cons, List.length_append]
      exact ⟨Nat.zero_le place, fun _ => by omega⟩

theorem exists_take_records (batches : List WriteBatch) (place : Nat) :
    ∃ tail, (batches.flatMap record).take place =
        (batches.take (recordsWithin batches place)).flatMap record ++ tail ∧
      (tail = [] ∨ ∃ batch ∈ batches, ∃ count < (record batch).length,
        tail = (record batch).take count) := by
  induction batches generalizing place with
  | nil => exact ⟨[], by simp only [List.flatMap_nil, List.take_nil, List.append_nil], .inl rfl⟩
  | cons batch later ih =>
    obtain ⟨tail, ht, short⟩ := ih (place - (record batch).length)
    simp only [recordsWithin, List.flatMap_cons, List.take_append]
    split
    · next hb =>
      refine ⟨tail, ?_, ?_⟩
      · rw [ht, List.take_of_length_le hb, List.take_succ_cons, List.flatMap_cons, List.append_assoc]
      · rcases short with hn | ⟨other, ho, count, hc, he⟩
        · exact .inl hn
        · exact .inr ⟨other, List.mem_cons_of_mem batch ho, count, hc, he⟩
    · next hb =>
      have hz : place - (record batch).length = 0 := by omega
      refine ⟨(record batch).take place, ?_, ?_⟩
      · rw [hz, List.take_zero, List.append_nil, List.take_zero, List.flatMap_nil, List.nil_append]
      · exact .inr ⟨batch, List.mem_cons_self, place, by omega, rfl⟩

/-- A log that is cut anywhere gives back the records that end at or before the cut. -/
theorem replay_take_records {batches : List WriteBatch} (h : ∀ batch ∈ batches, batch.Short)
    (place : Nat) : replay ((batches.flatMap record).take place) =
      ⟨batches.take (recordsWithin batches place),
        ((batches.take (recordsWithin batches place)).flatMap record).length⟩ := by
  have front := whole_records fun batch (hb : batch ∈ batches.take (recordsWithin batches place)) =>
    h batch (List.mem_of_mem_take hb)
  obtain ⟨tail, ht, rfl | ⟨batch, hb, count, hc, rfl⟩⟩ := exists_take_records batches place
  · rw [ht, List.append_nil, front.replay_eq]
  · rw [ht, front.replay_torn (h batch hb) hc]

end Log
end NestedStore
