import NestedStore.Proofs.Bytes.Crc32
import NestedStore.Proofs.Log.Parsing

/-! # Damaged records

A record whose bytes were altered in its magic, in its checksum, or in up to four neighbouring bytes
of its payload is no longer read, whatever stands behind it (`Damaged.readRecord?_eq_none`): what is
read as a record opens with the magic and states the checksum of its payload
(`header_of_readRecord?`), and the checksum of a payload changes with such a burst. A replay
therefore ends in front of the damage. -/
namespace NestedStore.Log

/-! ## Windows -/

/-- The bytes were altered, and only in the `count` places from `first` on. -/
structure Alters (original altered : Bytes) (first count : Nat) : Prop where
  length : altered.length = original.length
  before : altered.take first = original.take first
  behind : altered.drop (first + count) = original.drop (first + count)
  changed : altered ≠ original

/-- The parts of a byte string before a window, in it and behind it. -/
theorem window_parts (bytes : Bytes) (first count : Nat) :
    bytes.take first ++ (bytes.drop first).take count ++ bytes.drop (first + count) = bytes := by
  rw [List.append_assoc, ← List.drop_drop, List.take_append_drop, List.take_append_drop]

/-- What was altered in a window: another string of its length stands there, between what stood
around it before. -/
theorem Alters.exists_window {original altered : Bytes} {first count : Nat}
    (h : Alters original altered first count) :
    ∃ new, altered = original.take first ++ new ++ original.drop (first + count) ∧
      new.length = ((original.drop first).take count).length ∧
      new ≠ (original.drop first).take count := by
  have whole := window_parts altered first count
  rw [h.before, h.behind] at whole
  refine ⟨(altered.drop first).take count, whole.symm, ?_, ?_⟩
  · simp only [List.length_take, List.length_drop, h.length]
  · intro same
    rw [same, window_parts] at whole
    exact h.changed whole.symm

/-- The window, where what stands before it, in it and behind it is known. -/
theorem Alters.of_append {front old back altered : Bytes} {first count : Nat}
    (h : Alters (front ++ old ++ back) altered first count) (before : front.length = first)
    (within : old.length = count) :
    ∃ new, altered = front ++ new ++ back ∧ new.length = old.length ∧ new ≠ old := by
  subst before within
  have window := h.exists_window
  rwa [← List.drop_drop, List.append_assoc, List.take_left, List.drop_left, List.take_left,
    List.drop_left] at window

/-- What is altered behind a front is altered in what stands behind the front. -/
theorem Alters.exists_behind {front body altered : Bytes} {first count : Nat}
    (h : Alters (front ++ body) altered (front.length + first) count) :
    ∃ other, altered = front ++ other ∧ Alters body other first count := by
  have opens : altered.take front.length = front := by
    have shorter := congrArg (List.take front.length) h.before
    simpa [List.take_take] using shorter
  obtain ⟨other, rfl⟩ : ∃ other, altered = front ++ other :=
    ⟨altered.drop front.length, by rw [← congrArg (· ++ _) opens, List.take_append_drop]⟩
  refine ⟨other, rfl, ?_, ?_, ?_, ?_⟩
  · simpa using h.length
  · have before := h.before
    rw [List.take_length_add_append, List.take_length_add_append] at before
    exact List.append_cancel_left before
  · simpa [Nat.add_assoc] using h.behind
  · simpa using h.changed

/-- The checksum of a byte string that was altered in a short window is another one. -/
theorem Alters.checksum_ne {original altered : Bytes} {first count : Nat} (few : count ≤ 4)
    (h : Alters original altered first count) :
    Crc32.checksum altered ≠ Crc32.checksum original := by
  intro same
  obtain ⟨new, rfl, length, changed⟩ := h.exists_window
  have short : ((original.drop first).take count).length ≤ 4 := by
    simp only [List.length_take]
    omega
  refine changed (Crc32.checksum_burst_inj short length (same.trans ?_))
  rw [window_parts]

/-- Damage that is always seen: bytes altered in the magic, in the checksum, or in at most four
neighbouring places of the payload. -/
inductive Damaged (original altered : Bytes) : Prop
  | magic (h : Alters original altered 0 magic.length)
  | checksum (h : Alters original altered (magic.length + fieldWidth) fieldWidth)
  | payload (first count : Nat) (inside : headerSize ≤ first) (few : count ≤ 4)
      (h : Alters original altered first count)

/-! ## What a record states -/

/-- A record that is read opens with the magic and states the checksum of its payload. -/
theorem header_of_readRecord? {opening sum payload rest : Bytes} {found : WriteBatch × Bytes}
    (opens : opening.length = magic.length) (sums : sum.length = fieldWidth)
    (short : payload.length < WriteBatch.lengthLimit)
    (h : readRecord? (opening ++ LittleEndian.encode fieldWidth payload.length ++ sum ++ payload
      ++ rest) = some found) :
    opening = magic ∧ sum = LittleEndian.encode fieldWidth (Crc32.checksum payload).toNat := by
  obtain ⟨batch, behind⟩ := found
  obtain ⟨short', same⟩ := readRecord?_eq_some_iff.mp h
  simp only [record, encodeRecord, List.append_assoc] at same
  obtain ⟨magics, same⟩ := List.append_inj same opens
  obtain ⟨digits, same⟩ := List.append_inj same (by simp only [LittleEndian.length_encode])
  obtain ⟨checksums, same⟩ := List.append_inj same (by rw [sums, LittleEndian.length_encode])
  have lengths : payload.length = batch.encode.length := by
    have numbers := congrArg LittleEndian.decode digits
    simp only [LittleEndian.decode_encode] at numbers
    exact (Nat.mod_eq_of_lt short).symm.trans (numbers.trans (Nat.mod_eq_of_lt short'))
  obtain ⟨payloads, -⟩ := List.append_inj same lengths
  exact ⟨magics, payloads ▸ checksums⟩

theorem encode_checksum_inj {first second : Bytes}
    (same : LittleEndian.encode fieldWidth (Crc32.checksum first).toNat =
      LittleEndian.encode fieldWidth (Crc32.checksum second).toNat) :
    Crc32.checksum first = Crc32.checksum second := by
  have numbers := congrArg LittleEndian.decode same
  have fits (bytes : Bytes) : (Crc32.checksum bytes).toNat % LittleEndian.limit fieldWidth
      = (Crc32.checksum bytes).toNat := Nat.mod_eq_of_lt (UInt32.toNat_lt _)
  rw [LittleEndian.decode_encode, LittleEndian.decode_encode, fits, fits] at numbers
  exact UInt32.toNat_inj.mp numbers

/-! ## Damage is seen -/

/-- A damaged record is not read. -/
theorem Damaged.readRecord?_eq_none {batch : WriteBatch} {altered : Bytes} (short : batch.Short)
    (h : Damaged (record batch) altered) (rest : Bytes) : readRecord? (altered ++ rest) = none := by
  rw [Option.eq_none_iff_forall_ne_some]
  intro found read
  have width := LittleEndian.length_encode fieldWidth
  cases h with
  | magic h =>
    have opened : record batch = [] ++ Log.magic ++
        (LittleEndian.encode fieldWidth batch.encode.length
          ++ LittleEndian.encode fieldWidth (Crc32.checksum batch.encode).toNat
          ++ batch.encode) := by
      simp only [record, encodeRecord, List.append_assoc, List.nil_append]
    rw [opened] at h
    obtain ⟨opening, rfl, length, changed⟩ := h.of_append rfl rfl
    simp only [List.nil_append, ← List.append_assoc] at read
    exact changed (header_of_readRecord? length (width _) short read).1
  | checksum h =>
    simp only [record, encodeRecord] at h
    obtain ⟨sum, rfl, length, changed⟩ := h.of_append rfl (width _)
    exact changed (header_of_readRecord? rfl (length.trans (width _)) short read).2
  | payload first count inside few h =>
    obtain ⟨place, rfl⟩ := Nat.exists_eq_add_of_le inside
    obtain ⟨payload, rfl, alters⟩ := Alters.exists_behind h
    rw [← alters.length] at read
    have fits : payload.length < WriteBatch.lengthLimit := alters.length ▸ short
    have stated := (header_of_readRecord? rfl (width _) fits read).2
    exact alters.checksum_ne few (encode_checksum_inj stated).symm

/-- **A replay ends in front of a damaged record.** Of the records of short batches, with the
record at `place` damaged, what stands before that record is found and nothing else is, whatever
follows. -/
theorem replay_damaged {batches : List WriteBatch} (short : ∀ batch ∈ batches, batch.Short)
    {place : Nat} (within : place < batches.length) {altered : Bytes}
    (damaged : Damaged (record batches[place]) altered) (tail : Bytes) :
    replay ((batches.take place).flatMap record ++ altered
        ++ (batches.drop (place + 1)).flatMap record ++ tail) =
      ⟨batches.take place, ((batches.take place).flatMap record).length⟩ := by
  have front := whole_records fun batch (member : batch ∈ batches.take place) =>
    short batch (List.mem_of_mem_take member)
  have stops := damaged.readRecord?_eq_none (short _ (List.getElem_mem within))
  rw [List.append_assoc, List.append_assoc]
  exact front.replay_append (stops _)

/-- Two bytes of the second of three records were swapped for others. What stands behind them is not
found, although it is whole. -/
theorem replay_damaged_second :
    let altered := ((record ⟨[]⟩).set 12 7).set 14 9
    Damaged (record ⟨[]⟩) altered ∧
      replay (record (.put [1] [2]) ++ altered ++ record (.delete [1]) ++ [0x4e]) =
        ⟨[.put [1] [2]], 27⟩ := by
  intro altered
  have short : ∀ batch ∈ threeBatches, batch.Short := by decide
  have damaged : Damaged (record ⟨[]⟩) altered :=
    .payload 12 3 (by decide) (by decide)
      ⟨by decide, by decide +kernel, by decide +kernel, by decide +kernel⟩
  exact ⟨damaged, @replay_damaged threeBatches short 1 (by decide) altered damaged [0x4e]⟩

end NestedStore.Log
