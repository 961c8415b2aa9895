import NestedStore.Proofs.Map.Iteration
import NestedStore.Proofs.Map.LaidOut
import NestedStore.Proofs.Report.Verify

/-! # Reading tables and maps

On an engine that serves every read, single keys are decoded as they are stored, and an iterator
reads off the entries of its map up to the first that has no value (`Entries.readOff`). Where the
cells hold dictionaries, tables and maps give what these hold (`Snapshot.Shows`). -/
namespace NestedStore

/-! ## Single keys -/

section Working
variable {snapshot : Snapshot} {s t : Workspace} {id : InstanceId} {key : Bytes}

/-- What is stored at a key is decoded. -/
theorem Snapshot.decode_read {owner : DatabaseId} {result : Except StoreError (Option Value)}
    (working : s.engine.servesReads = true)
    (h : Ends (do
      match ← snapshot.read key with
      | some stored => liftExcept (Value.decode owner stored)
      | none => return none) s result t) :
    result = snapshot.contents.cells[key]?.elim (.ok none) (Value.decode owner) ∧ t = s := by
  obtain ⟨_, failed, _⟩ | ⟨_, _, read, rest⟩ := Ends.bind h
  · cases (Snapshot.read_working working failed).1
  · obtain ⟨seen, rfl⟩ := Snapshot.read_working working read
    cases seen
    cases held : snapshot.contents.cells[key]? with
    | none =>
      rw [held] at rest
      exact rest.pure
    | some stored =>
      rw [held] at rest
      exact Ends.liftExcept rest

theorem MapHandle.getItem_read {map : MapHandle} {result : Except StoreError (Option Value)}
    (working : s.engine.servesReads = true) (on : map.instance? s.ledger = some id)
    (h : Ends (map.getItem snapshot key) s result t) :
    result = snapshot.contents.cells[Layout.entryKey id key]?.elim (.ok none)
      (Value.decode map.owner) ∧ t = s := by
  replace h := Ends.bind_of (requireInstance_working on) h
  exact Snapshot.decode_read working h

/-- A count that can be read is read. -/
theorem MapHandle.count_read {map : MapHandle} {count : UInt64} {result : Except StoreError UInt64}
    (working : s.engine.servesReads = true) (on : map.instance? s.ledger = some id)
    (counted : countOf? snapshot.contents.cells id = some count)
    (h : Ends (map.count snapshot) s result t) : result = .ok count ∧ t = s := by
  obtain ⟨cell, held, decoded⟩ := Option.bind_eq_some_iff.mp counted
  replace h := Ends.bind_of (requireInstance_working on) h
  obtain ⟨_, failed, _⟩ | ⟨_, _, read, rest⟩ := Ends.bind h
  · cases (Snapshot.read_working working failed).1
  · obtain ⟨seen, rfl⟩ := Snapshot.read_working working read
    cases seen
    rw [held] at rest
    obtain ⟨read, same⟩ := Ends.liftExcept rest
    rw [CounterCell.read, decoded] at read
    exact ⟨read, same⟩

end Working

/-! ## Iterators -/

namespace Entries

/-- What is read off stored entries: their values, up to the first entry that has none, which is
an error. -/
def readOff (owner : DatabaseId) :
    List (Bytes × Bytes) → List (Except StoreError (Bytes × Value))
  | [] => []
  | (key, stored) :: rest =>
    match Value.decode owner stored with
    | .ok (some value) => .ok (key, value) :: readOff owner rest
    | .ok none => [.error (.decode .emptyEntry)]
    | .error error => [.error error]

/-- A cursor whose moves are not numbered reads everything off. -/
theorem readWithin_none (owner : DatabaseId) (stored : List (Bytes × Bytes)) :
    readWithin owner none stored = readOff owner stored := by
  induction stored with
  | nil => rfl
  | cons entry stored ih =>
    obtain ⟨key, form⟩ := entry
    refine (readWithin_cons none key form).trans ?_
    rw [readOff, ih, Value.ofEntry]
    cases Value.decode owner form with
    | error error => rfl
    | ok value? => cases value? <;> rfl

end Entries

theorem MapHandle.iterator_read {snapshot : Snapshot} {s t : Workspace} {id : InstanceId}
    {map : MapHandle} {result : Except StoreError MapIterator}
    (moves : s.engine.faults.cursorMoves = none) (on : map.instance? s.ledger = some id)
    (h : Ends (map.iterator snapshot) s result t) :
    ∃ iterator, result = .ok iterator ∧ (Entries.ofIterator iterator).toList =
      Entries.readOff map.owner (snapshot.contents.cells.storedEntries id) := by
  obtain ⟨iterator, opened, read⟩ := iterator_reads on h
  rw [moves, Entries.readWithin_none] at read
  exact ⟨iterator, opened, read⟩

/-! ## Dictionaries -/

section Dictionaries
variable {snapshot : Snapshot} {s t : Workspace} {id : InstanceId} {key : Bytes}
  {dictionaries : Dictionaries}

theorem Value.elim_decode {owner : DatabaseId} (stored? : Option StoredValue) :
    (stored?.map StoredValue.encode).elim (.ok none) (Value.decode owner) =
      .ok (stored?.map (Value.ofStored owner)) := by
  cases stored? with
  | none => rfl
  | some stored => exact Value.decode_encode_stored owner stored

theorem Table.getItem_working {table : Table} {result : Except StoreError (Option Value)}
    (working : s.engine.servesReads = true)
    (laidOut : dictionaries.LaidOut snapshot.contents.cells)
    (h : Ends (table.getItem snapshot key) s result t) :
    result = .ok ((dictionaries.items table.tablePrefix key).map (Value.ofStored table.owner)) ∧
      t = s := by
  obtain ⟨read, rfl⟩ := Snapshot.decode_read working h
  have held : snapshot.contents.cells[table.itemKey key]? = _ :=
    laidOut.cell (.item table.tablePrefix key) table.noSeparator nofun
  rw [held] at read
  exact ⟨read.trans (Value.elim_decode _), rfl⟩

theorem MapHandle.getItem_working {map : MapHandle} {result : Except StoreError (Option Value)}
    (working : s.engine.servesReads = true)
    (laidOut : dictionaries.LaidOut snapshot.contents.cells)
    (on : map.instance? s.ledger = some id) (h : Ends (map.getItem snapshot key) s result t) :
    result = .ok (((dictionaries.map? id).bind fun entries => entries[key]?).map
      (Value.ofStored map.owner)) ∧ t = s := by
  obtain ⟨read, rfl⟩ := getItem_read working on h
  rw [laidOut.entry id key] at read
  exact ⟨read.trans (Value.elim_decode _), rfl⟩

theorem MapHandle.count_working {map : MapHandle} {entries : ByteMap StoredValue}
    {result : Except StoreError UInt64} (working : s.engine.servesReads = true)
    (laidOut : dictionaries.LaidOut snapshot.contents.cells)
    (on : map.instance? s.ledger = some id) (made : dictionaries.map? id = some entries)
    (h : Ends (map.count snapshot) s result t) :
    result = .ok (UInt64.ofNat entries.size) := by
  have held : snapshot.contents.cells[Layout.countKey id]? = _ :=
    laidOut.cell (.count id) trivial nofun
  rw [Dictionaries.cell?, made, Option.map_some] at held
  have counted : countOf? snapshot.contents.cells id = some (UInt64.ofNat entries.size) := by
    rw [countOf?, held, Option.bind_some, Counter.decode?_encode]
  exact (count_read working on counted h).1

/-- Cells in ascending order are the same when the same are among them. -/
theorem cells_ext {first second : List (Bytes × Bytes)}
    (inOrder : first.Pairwise fun a b => compare a.1 b.1 = .lt)
    (inOrder' : second.Pairwise fun a b => compare a.1 b.1 = .lt)
    (same : ∀ cell, cell ∈ first ↔ cell ∈ second) : first = second := by
  have distinct {a b : Bytes × Bytes} (below : compare a.1 b.1 = .lt) : a ≠ b := by
    rintro rfl
    simp at below
  have perm := (List.perm_ext_iff_of_nodup (inOrder.imp distinct) (inOrder'.imp distinct)).mpr same
  refine perm.eq_of_pairwise (fun a b _ _ below above => ?_) inOrder inOrder'
  cases (Std.OrientedCmp.gt_of_lt below).symm.trans above

/-- What is stored of a map are the entries of its dictionary. -/
theorem Dictionaries.LaidOut.storedEntries {cells : KeySpace} (h : dictionaries.LaidOut cells)
    {entries : ByteMap StoredValue} (made : dictionaries.map? id = some entries) :
    cells.storedEntries id = entries.toList.map fun (key, stored) => (key, stored.encode) := by
  refine cells_ext KeySpace.ascending_storedEntries
    (List.pairwise_map.mpr Std.ExtTreeMap.ordered_keys_toList) fun cell => ?_
  obtain ⟨key, value⟩ := cell
  rw [KeySpace.mem_storedEntries, h.entry id key, made, Option.bind_some, Option.map_eq_some_iff,
    List.mem_map]
  constructor
  · rintro ⟨stored, entry, rfl⟩
    exact ⟨(key, stored), Std.ExtTreeMap.mem_toList_iff_getElem?_eq_some.mpr entry, rfl⟩
  · rintro ⟨⟨key, stored⟩, member, same⟩
    cases same
    exact ⟨stored, Std.ExtTreeMap.mem_toList_iff_getElem?_eq_some.mp member, rfl⟩

theorem Entries.readOff_encode (owner : DatabaseId) (entries : List (Bytes × StoredValue)) :
    readOff owner (entries.map fun (key, stored) => (key, stored.encode)) =
      entries.map fun (key, stored) => .ok (key, .ofStored owner stored) := by
  induction entries with
  | nil => rfl
  | cons entry entries ih =>
    rw [List.map_cons, readOff, Value.decode_encode_stored, ih]
    rfl

theorem MapHandle.iterator_working {map : MapHandle} {entries : ByteMap StoredValue}
    {result : Except StoreError MapIterator} (moves : s.engine.faults.cursorMoves = none)
    (laidOut : dictionaries.LaidOut snapshot.contents.cells)
    (on : map.instance? s.ledger = some id) (made : dictionaries.map? id = some entries)
    (h : Ends (map.iterator snapshot) s result t) :
    ∃ iterator, result = .ok iterator ∧ (Entries.ofIterator iterator).toList =
      entries.toList.map fun (key, stored) => .ok (key, .ofStored map.owner stored) := by
  obtain ⟨iterator, rfl, read⟩ := iterator_read moves on h
  rw [laidOut.storedEntries made, Entries.readOff_encode] at read
  exact ⟨iterator, rfl, read⟩

end Dictionaries

/-! ## Everything -/

/-- Tables and maps, read through a snapshot, give what the dictionaries hold. -/
structure Snapshot.Shows (snapshot : Snapshot) (space : Workspace) (dictionaries : Dictionaries) :
    Prop where
  item : ∀ (table : Table) (key : Bytes), ((table.getItem snapshot key).run.run space).1 =
    .ok ((dictionaries.items table.tablePrefix key).map (Value.ofStored table.owner))
  entry : ∀ {map : MapHandle} {id entries}, map.instance? space.ledger = some id →
    dictionaries.map? id = some entries → ∀ key, ((map.getItem snapshot key).run.run space).1 =
      .ok (entries[key]?.map (Value.ofStored map.owner))
  count : ∀ {map : MapHandle} {id entries}, map.instance? space.ledger = some id →
    dictionaries.map? id = some entries → ∃ count,
      ((map.count snapshot).run.run space).1 = .ok count ∧ count.toNat = entries.size
  /-- The entries are those of the dictionary, each once, in ascending order of their keys. -/
  walk : ∀ {map : MapHandle} {id entries}, map.instance? space.ledger = some id →
    dictionaries.map? id = some entries → ∃ iterator,
      ((map.iterator snapshot).run.run space).1 = .ok iterator ∧
      (Entries.ofIterator iterator).toList =
        entries.toList.map fun (key, stored) => .ok (key, .ofStored map.owner stored)

/-- **Where reads work, a snapshot shows the dictionaries that it holds.** -/
theorem Dictionaries.LaidOut.shows {snapshot : Snapshot} {space : Workspace}
    {dictionaries : Dictionaries} (laidOut : dictionaries.LaidOut snapshot.contents.cells)
    (fits : dictionaries.Fits) (working : space.engine.ReadsWork) :
    snapshot.Shows space dictionaries where
  item table key := (Table.getItem_working working.reads laidOut (returns_self _ space)).1
  entry {map id entries} on made key := by
    have whole : Ends (map.getItem snapshot key) space _ _ := returns_self _ space
    have read := (MapHandle.getItem_working working.reads laidOut on whole).1
    rwa [made] at read
  count {map id entries} on made := by
    refine ⟨_, MapHandle.count_working working.reads laidOut on made (returns_self _ space), ?_⟩
    have counted := fits.entries entries (Array.mem_of_getElem? made)
    rw [UInt64.toNat_ofNat']
    exact Nat.mod_eq_of_lt (Nat.lt_of_lt_of_le counted (Nat.sub_le ..))
  walk {map id entries} on made :=
    MapHandle.iterator_working working.moves laidOut on made (returns_self _ space)

end NestedStore
