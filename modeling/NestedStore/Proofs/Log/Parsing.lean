import NestedStore.Proofs.Log.Replay

/-! # The valid front of a log

What the readers take off the front of bytes is what the writers put there, byte for byte: a batch
is read where its stored form stands (`decode?_eq_some_iff`), and a record where that of a batch
which its length field can hold stands (`readRecord?_eq_some_iff`). So the bytes that a replay
accepts are records and nothing else (`whole_iff`), no record follows them, and they are the longest
such front (`Replay.Parses`). -/
namespace NestedStore
namespace WriteBatch

/-! ## What is read was written -/

theorem encode_decode_of_length {width : Nat} {digits : Bytes} (h : digits.length = width) :
    LittleEndian.encode width (LittleEndian.decode digits) = digits := by
  rw [← h, LittleEndian.encode_decode]

theorem takeNumber?_eq_some_iff {bytes rest : Bytes} {n : Nat} :
    takeNumber? bytes = some (n, rest) ↔
      n < lengthLimit ∧ bytes = LittleEndian.encode lengthWidth n ++ rest := by
  constructor
  · intro h
    simp only [takeNumber?, bind, Option.bind_eq_some_iff, Prod.exists, pure, Option.some.injEq,
      Prod.mk.injEq] at h
    obtain ⟨digits, behind, taken, rfl, rfl⟩ := h
    obtain ⟨rfl, length⟩ := takeExactly?_eq_some_iff.mp taken
    have below := LittleEndian.decode_lt digits
    rw [length, limit_lengthWidth] at below
    exact ⟨below, by rw [encode_decode_of_length length]⟩
  · rintro ⟨below, rfl⟩
    exact takeNumber?_append below rest

theorem takeChunk?_eq_some_iff {bytes chunk rest : Bytes} :
    takeChunk? bytes = some (chunk, rest) ↔
      chunk.length < lengthLimit ∧ bytes = encodeChunk chunk ++ rest := by
  constructor
  · intro h
    simp only [takeChunk?, bind, Option.bind_eq_some_iff, Prod.exists] at h
    obtain ⟨length, body, number, taken⟩ := h
    obtain ⟨below, rfl⟩ := takeNumber?_eq_some_iff.mp number
    obtain ⟨rfl, rfl⟩ := takeExactly?_eq_some_iff.mp taken
    exact ⟨below, by rw [encodeChunk, List.append_assoc]⟩
  · rintro ⟨below, rfl⟩
    exact takeChunk?_append below rest

theorem takeOp?_eq_some_iff {bytes rest : Bytes} {op : BatchOp} :
    takeOp? bytes = some (op, rest) ↔ Fits op ∧ bytes = encodeOp op ++ rest := by
  constructor
  · intro h
    cases bytes with
    | nil => cases h
    | cons kind bytes =>
      simp only [takeOp?] at h
      split at h
      · next isPut =>
        simp only [bind, Option.bind_eq_some_iff, Prod.exists, pure, Option.some.injEq,
          Prod.mk.injEq] at h
        obtain ⟨key, _, first, value, _, second, rfl, rfl⟩ := h
        obtain ⟨keyFits, rfl⟩ := takeChunk?_eq_some_iff.mp first
        obtain ⟨valueFits, rfl⟩ := takeChunk?_eq_some_iff.mp second
        refine ⟨⟨keyFits, fun _ same => Option.some.inj same ▸ valueFits⟩, ?_⟩
        rw [isPut, encodeOp, List.cons_append, List.append_assoc]
      · split at h
        · next isDelete =>
          simp only [bind, Option.bind_eq_some_iff, Prod.exists, pure, Option.some.injEq,
            Prod.mk.injEq] at h
          obtain ⟨key, _, first, rfl, rfl⟩ := h
          obtain ⟨keyFits, rfl⟩ := takeChunk?_eq_some_iff.mp first
          exact ⟨⟨keyFits, by rintro _ ⟨⟩⟩, by rw [isDelete, encodeOp, List.cons_append]⟩
        · cases h
  · rintro ⟨fits, rfl⟩
    exact takeOp?_append fits rest

theorem takeOps?_eq_some_iff {count : Nat} {bytes rest : Bytes} {ops : List BatchOp} :
    takeOps? count bytes = some (ops, rest) ↔
      ops.length = count ∧ (∀ op ∈ ops, Fits op) ∧ bytes = ops.flatMap encodeOp ++ rest := by
  constructor
  · intro h
    induction count generalizing bytes ops with
    | zero =>
      cases h
      exact ⟨rfl, nofun, rfl⟩
    | succ count ih =>
      simp only [takeOps?, bind, Option.bind_eq_some_iff, Prod.exists, pure, Option.some.injEq,
        Prod.mk.injEq] at h
      obtain ⟨op, _, first, later, _, others, rfl, rfl⟩ := h
      obtain ⟨fits, rfl⟩ := takeOp?_eq_some_iff.mp first
      obtain ⟨rfl, allFit, rfl⟩ := ih others
      refine ⟨rfl, List.forall_mem_cons.mpr ⟨fits, allFit⟩, ?_⟩
      rw [List.flatMap_cons, List.append_assoc]
  · rintro ⟨rfl, allFit, rfl⟩
    exact takeOps?_append allFit rest

/-- Bytes are read as a batch when they are its stored form and its length fields hold what they
stand for. -/
theorem decode?_eq_some_iff {bytes : Bytes} {batch : WriteBatch} :
    decode? bytes = some batch ↔
      batch.ops.length < lengthLimit ∧ (∀ op ∈ batch.ops, Fits op) ∧ bytes = batch.encode := by
  constructor
  · intro h
    simp only [decode?, bind, Option.bind_eq_some_iff, Prod.exists] at h
    obtain ⟨count, body, number, ops, behind, operations, h⟩ := h
    obtain ⟨below, rfl⟩ := takeNumber?_eq_some_iff.mp number
    obtain ⟨rfl, allFit, rfl⟩ := takeOps?_eq_some_iff.mp operations
    split at h
    · next nothing =>
      cases h
      refine ⟨below, allFit, ?_⟩
      rw [List.isEmpty_iff.mp nothing, List.append_nil, encode]
    · cases h
  · rintro ⟨below, allFit, rfl⟩
    have operations := takeOps?_append allFit []
    rw [List.append_nil] at operations
    simp only [decode?, encode, takeNumber?_append below, operations, bind, Option.bind_some,
      List.isEmpty_nil, if_true]

end WriteBatch

namespace Log
open WriteBatch (takeExactly?_eq_some_iff encode_decode_of_length)

/-! ## Records -/

theorem of_readHeader? {bytes rest : Bytes} {length checksum : Nat}
    (h : readHeader? bytes = some (length, checksum, rest)) :
    length < WriteBatch.lengthLimit ∧
      bytes = magic ++ LittleEndian.encode fieldWidth length
        ++ LittleEndian.encode fieldWidth checksum ++ rest := by
  simp only [readHeader?, bind, Option.bind_eq_some_iff, Prod.exists] at h
  obtain ⟨opening, _, first, digits, _, second, sum, _, third, h⟩ := h
  obtain ⟨rfl, -⟩ := takeExactly?_eq_some_iff.mp first
  obtain ⟨rfl, width⟩ := takeExactly?_eq_some_iff.mp second
  obtain ⟨rfl, width'⟩ := takeExactly?_eq_some_iff.mp third
  split at h
  · next opens =>
    simp only [Option.some.injEq, Prod.mk.injEq] at h
    obtain ⟨rfl, rfl, rfl⟩ := h
    have below := LittleEndian.decode_lt digits
    rw [width] at below
    refine ⟨below, ?_⟩
    rw [encode_decode_of_length width, encode_decode_of_length width', opens]
    simp only [List.append_assoc]
  · cases h

/-- A record is read where the record of a short batch stands, and nowhere else. -/
theorem readRecord?_eq_some_iff {bytes rest : Bytes} {batch : WriteBatch} :
    readRecord? bytes = some (batch, rest) ↔ batch.Short ∧ bytes = record batch ++ rest := by
  constructor
  · intro h
    simp only [readRecord?, bind, Option.bind_eq_some_iff, Prod.exists] at h
    obtain ⟨length, checksum, body, header, payload, behind, taken, h⟩ := h
    obtain ⟨below, rfl⟩ := of_readHeader? header
    obtain ⟨rfl, rfl⟩ := takeExactly?_eq_some_iff.mp taken
    split at h
    · next sums =>
      simp only [Option.bind_eq_some_iff, Option.some.injEq, Prod.mk.injEq] at h
      obtain ⟨other, decoded, rfl, rfl⟩ := h
      obtain ⟨-, -, rfl⟩ := WriteBatch.decode?_eq_some_iff.mp decoded
      refine ⟨below, ?_⟩
      rw [record, encodeRecord, sums]
      simp only [List.append_assoc]
    · cases h
  · rintro ⟨short, rfl⟩
    exact readRecord?_record_append short rest

theorem readRecord?_eq_none_iff {bytes : Bytes} :
    readRecord? bytes = none ↔ ∀ batch : WriteBatch, batch.Short → ¬ record batch <+: bytes := by
  constructor
  · rintro h batch short ⟨rest, rfl⟩
    rw [readRecord?_record_append short] at h
    cases h
  · intro h
    cases read : readRecord? bytes with
    | none => rfl
    | some found =>
      obtain ⟨batch, rest⟩ := found
      obtain ⟨short, rfl⟩ := readRecord?_eq_some_iff.mp read
      exact absurd (List.prefix_append _ _) (h batch short)

/-! ## Fronts of logs -/

/-- A content is that of a whole log when it is the records of short batches. -/
theorem whole_iff {content : Bytes} {batches : List WriteBatch} :
    Whole content batches ↔
      (∀ batch ∈ batches, batch.Short) ∧ content = batches.flatMap record := by
  constructor
  · intro h
    unfold Whole at h
    fun_induction readRecords content generalizing batches with
    | case1 content none =>
      cases h
      exact ⟨by rintro _ ⟨⟩, rfl⟩
    | case2 content batch rest read later behind found ih =>
      simp only [Prod.mk.injEq] at h
      obtain ⟨rfl, rfl⟩ := h
      obtain ⟨short, rfl⟩ := readRecord?_eq_some_iff.mp read
      obtain ⟨others, rfl⟩ := ih found
      exact ⟨List.forall_mem_cons.mpr ⟨short, others⟩, by rw [List.flatMap_cons]⟩
  · rintro ⟨short, rfl⟩
    exact whole_records short

/-- Reading goes on for as long as it can. -/
theorem readRecord?_tail (bytes : Bytes) : readRecord? (readRecords bytes).2 = none := by
  fun_induction readRecords bytes with
  | case1 bytes none => exact none
  | case2 bytes batch rest read later behind found ih => rwa [found] at ih

/-- What was found in the bytes is their longest front that is made of records: it is the records
of the batches, and no record stands behind it. -/
structure Replay.Parses (found : Replay) (bytes : Bytes) : Prop where
  within : found.validLength ≤ bytes.length
  short : ∀ batch ∈ found.batches, batch.Short
  front : bytes.take found.validLength = found.batches.flatMap record
  stops : ∀ batch : WriteBatch, batch.Short → ¬ record batch <+: bytes.drop found.validLength
  longest : ∀ batches : List WriteBatch, (∀ batch ∈ batches, batch.Short) →
    batches.flatMap record <+: bytes → batches <+: found.batches

/-- What records stand in front is found in front. -/
theorem batches_prefix {bytes front : Bytes} {batches : List WriteBatch} (h : Whole front batches)
    (stands : front <+: bytes) : batches <+: (replay bytes).batches := by
  obtain ⟨tail, rfl⟩ := stands
  have found : (replay (front ++ tail)).batches = batches ++ (readRecords tail).1 :=
    congrArg Prod.fst (h.readRecords_append tail)
  rw [found]
  exact List.prefix_append _ _

theorem parses_replay (bytes : Bytes) : (replay bytes).Parses bytes := by
  obtain ⟨front, split, whole⟩ := exists_whole_append bytes
  obtain ⟨short, records⟩ := whole_iff.mp whole
  have length : (replay bytes).validLength = front.length := by
    have lengths := congrArg List.length split
    simp only [replay, List.length_append] at lengths ⊢
    omega
  have accepted : bytes.take front.length = front := by
    conv => lhs; rw [split, List.take_left]
  have behind : bytes.drop front.length = (readRecords bytes).2 := by
    conv => lhs; rw [split, List.drop_left]
  refine ⟨Nat.sub_le _ _, short, ?_, ?_,
    fun batches short' => batches_prefix (whole_records short')⟩
  · rw [length, accepted]
    exact records
  · rw [length, behind]
    exact readRecord?_eq_none_iff.mp (readRecord?_tail bytes)

/-! ## Cuts -/

theorem length_take_records_le {fewer more : Nat} (le : fewer ≤ more) (batches : List WriteBatch) :
    ((batches.take fewer).flatMap record).length ≤ ((batches.take more).flatMap record).length := by
  obtain ⟨rest, split⟩ := List.take_prefix_take_left (l := batches) le
  rw [← split, List.flatMap_append, List.length_append]
  exact Nat.le_add_right _ _

/-- The records that end at or before a place are the first ones, as many as there are within it. -/
theorem ends_within_iff {batches : List WriteBatch} {place count : Nat}
    (within : count ≤ batches.length) :
    ((batches.take count).flatMap record).length ≤ place ↔ count ≤ recordsWithin batches place := by
  obtain ⟨before, next⟩ := recordsWithin_spec batches place
  constructor
  · intro fits
    refine Nat.le_of_not_lt fun less => ?_
    have behind := next (Nat.lt_of_lt_of_le less within)
    have through := length_take_records_le (Nat.succ_le_of_lt less) batches
    exact Nat.lt_irrefl _ (Nat.lt_of_lt_of_le behind (Nat.le_trans through fits))
  · intro le
    exact Nat.le_trans (length_take_records_le le batches) before

/-- **A replay finds the longest valid front of a log.** What it finds there is found again when
the rest is cut off; a cut elsewhere only loses batches at the end; and of the records of short
batches, cut at any place, those are found that end at or before it. -/
theorem replay_finds_longest_valid_front (bytes : Bytes) (place : Nat) (batches : List WriteBatch)
    (short : ∀ batch ∈ batches, batch.Short) :
    (replay bytes).Parses bytes ∧
      replay (bytes.take (replay bytes).validLength) = replay bytes ∧
      (replay (bytes.take place)).batches <+: (replay bytes).batches ∧
      ∃ count ≤ batches.length,
        (∀ other ≤ batches.length,
          ((batches.take other).flatMap record).length ≤ place ↔ other ≤ count) ∧
        replay ((batches.flatMap record).take place) =
          ⟨batches.take count, ((batches.take count).flatMap record).length⟩ := by
  have parses := parses_replay bytes
  refine ⟨parses, ?_, ?_, recordsWithin batches place, recordsWithin_le batches place,
    fun other within => ends_within_iff within, replay_take_records short place⟩
  · rw [(whole_take_valid bytes).replay_eq, List.length_take_of_le parses.within]
  · exact batches_prefix (whole_take_valid (bytes.take place))
      ((List.take_prefix _ _).trans (List.take_prefix _ _))

/-- Three batches of which the second has no operations. Their records end after 27, 43 and 65
bytes. -/
def threeBatches : List WriteBatch := [.put [1] [2], ⟨[]⟩, .delete [1]]

/-- A cut after fifty bytes leaves two of the records, and what is left of the third is not read. A
part of a header behind a record is not read either. -/
theorem replay_finds_longest_valid_front_torn :
    (∀ batch ∈ threeBatches, batch.Short) ∧
      replay ((threeBatches.flatMap record).take 50) = ⟨[.put [1] [2], ⟨[]⟩], 43⟩ ∧
      (replay (record (.put [1] [2]) ++ [0x4e, 0x4b])).Parses
        (record (.put [1] [2]) ++ [0x4e, 0x4b]) := by
  have short : ∀ batch ∈ threeBatches, batch.Short := by decide
  obtain ⟨parses, -, -, count, within, ends, found⟩ :=
    replay_finds_longest_valid_front (record (.put [1] [2]) ++ [0x4e, 0x4b]) 50 threeBatches short
  have two : 2 ≤ count := (ends 2 (by decide)).mp (by decide)
  have three : ¬ 3 ≤ count := fun le => absurd ((ends 3 (by decide)).mpr le) (by decide)
  obtain rfl : count = 2 := by omega
  exact ⟨short, found, parses⟩

end Log
end NestedStore
