import Mathlib.Algebra.BigOperators.Group.List.Lemmas
import Mathlib.Algebra.GroupWithZero.Nat
import Mathlib.Data.List.Dedup
import NestedStore.Report.Dump
import NestedStore.Report.Inspect
import NestedStore.Proofs.Map.Iteration
import NestedStore.Proofs.Report.Verify
import NestedStore.Proofs.Store

/-! # Dumps and inspections

A dump seeks the first key of a table and goes on as long as keys start alike; an inspection reads
every key as an address. Both come to the items of the table (`itemsOf`): the dump shows them
(`dump_spec`), and they make up the row of the table (`Inspection.tablesOf_get`), so the two agree
(`dump_and_inspect_agree`). What a cursor did not get to is never left out: then there is an error
instead. -/
namespace NestedStore

/-! ## The items of a table -/

/-- What an entry is to the table with a prefix: the key of an item and what is stored there. -/
def itemIn? (tablePrefix : Bytes) (entry : Bytes × Bytes) : Option (Bytes × Bytes) :=
  match Address.ofKey? entry.1 with
  | some (.item other key) => if other = tablePrefix then some (key, entry.2) else none
  | _ => none

/-- What entries hold of the table with a prefix, each item by its key within the table. -/
def itemsOf (tablePrefix : Bytes) (entries : List (Bytes × Bytes)) : List (Bytes × Bytes) :=
  entries.filterMap (itemIn? tablePrefix)

section Items
variable {tablePrefix physical key stored : Bytes} {item : Bytes × Bytes} {cells : KeySpace}

theorem itemIn?_eq_some : itemIn? tablePrefix (physical, stored) = some item ↔
    Address.ofKey? physical = some (.item tablePrefix item.1) ∧ stored = item.2 := by
  obtain ⟨key, value⟩ := item
  rw [itemIn?]
  split
  · next other found spelled =>
    rw [spelled]
    by_cases same : other = tablePrefix <;> simp [same]
  · next none =>
    constructor
    · nofun
    · intro read
      exact absurd read.1 (none _ _)

theorem mem_itemsOf : (key, stored) ∈ itemsOf tablePrefix cells.toList ↔
    ∃ physical, cells[physical]? = some stored ∧
      Address.ofKey? physical = some (.item tablePrefix key) := by
  rw [itemsOf, List.mem_filterMap]
  constructor
  · rintro ⟨⟨physical, value⟩, member, read⟩
    obtain ⟨spelled, rfl⟩ := itemIn?_eq_some.mp read
    exact ⟨physical, Std.ExtTreeMap.mem_toList_iff_getElem?_eq_some.mp member, spelled⟩
  · rintro ⟨physical, held, spelled⟩
    exact ⟨(physical, stored), Std.ExtTreeMap.mem_toList_iff_getElem?_eq_some.mpr held,
      itemIn?_eq_some.mpr ⟨spelled, rfl⟩⟩

theorem Layout.itemKey_eq (tablePrefix key : Bytes) :
    tableKey .item tablePrefix key = tableKey .item tablePrefix [] ++ key := by
  simp [tableKey]

theorem Layout.drop_itemKey (tablePrefix key : Bytes) :
    (tableKey .item tablePrefix key).drop (tableKey .item tablePrefix []).length = key := by
  rw [itemKey_eq tablePrefix key, List.drop_left]

/-- A key starts as those of a table do when it is the key of one of its items. -/
theorem itemIn?_of_prefix (valid : Layout.separator ∉ tablePrefix) :
    itemIn? tablePrefix (Layout.tableKey .item tablePrefix key, stored) = some (key, stored) := by
  have address : (Address.item tablePrefix key).Valid := valid
  exact itemIn?_eq_some.mpr ⟨Address.ofKey?_key address, rfl⟩

theorem prefix_of_itemIn? (found : itemIn? tablePrefix (physical, stored) = some item) :
    (Layout.tableKey .item tablePrefix []).isPrefixOf physical = true := by
  obtain ⟨same, -⟩ := Address.key_of_ofKey? (itemIn?_eq_some.mp found).1
  rw [← same, List.isPrefixOf_iff_prefix]
  exact ⟨item.1, (Layout.itemKey_eq tablePrefix item.1).symm⟩

/-- The entries whose keys start as those of a table do are its items. -/
theorem filter_itemsOf (valid : Layout.separator ∉ tablePrefix) (entries : List (Bytes × Bytes)) :
    entries.filter (fun (key, _) => (Layout.tableKey .item tablePrefix []).isPrefixOf key) =
      (itemsOf tablePrefix entries).map fun (key, stored) =>
        (Layout.tableKey .item tablePrefix key, stored) := by
  induction entries with
  | nil => rfl
  | cons entry entries ih =>
    obtain ⟨physical, stored⟩ := entry
    rw [itemsOf, List.filterMap_cons, List.filter_cons, ih]
    dsimp only
    by_cases starts : (Layout.tableKey .item tablePrefix []).isPrefixOf physical = true
    · obtain ⟨key, rfl⟩ := List.isPrefixOf_iff_prefix.mp starts
      rw [if_pos starts, ← Layout.itemKey_eq, itemIn?_of_prefix valid]
      rfl
    · rw [if_neg starts]
      cases found : itemIn? tablePrefix (physical, stored) with
      | none => rfl
      | some item => exact absurd (prefix_of_itemIn? found) starts

theorem ascending_itemsOf (valid : Layout.separator ∉ tablePrefix) :
    (itemsOf tablePrefix cells.toList).Pairwise fun a b => compare a.1 b.1 = .lt := by
  have whole : (cells.toList.filter fun (key, _) =>
      (Layout.tableKey .item tablePrefix []).isPrefixOf key).Pairwise
        fun a b => compare a.1 b.1 = .lt := Std.ExtTreeMap.ordered_keys_toList.filter _
  rw [filter_itemsOf valid] at whole
  refine (List.pairwise_map.mp whole).imp fun {a b} below => ?_
  dsimp only at below
  rwa [Layout.itemKey_eq tablePrefix a.1, Layout.itemKey_eq tablePrefix b.1,
    Bytes.compare_append_left] at below

end Items

/-! ## Dumps -/

/-- What a dump shows of a stored value. The count of a map is given when it can be read. -/
inductive DumpedValue.Shows (reads : Bool) (cells : KeySpace) : Bytes → DumpedValue → Prop
  | bytes {stored payload : Bytes} (read : StoredValue.decode stored = .ok (some (.bytes payload))) :
    Shows reads cells stored (.bytes payload)
  | map {stored : Bytes} {id : InstanceId} {count? : Option UInt64}
      (read : StoredValue.decode stored = .ok (some (.reference id)))
      (counted : count? = countOf? cells id ∨ reads = false ∧ count? = none) :
    Shows reads cells stored (.map id count?)
  | empty : Shows reads cells [] .empty
  | undecodable {stored : Bytes} {fault : DecodeFault}
      (refused : StoredValue.decode stored = .error fault) :
    Shows reads cells stored (.undecodable fault)

/-- An item of a dump shows an item of the table. -/
def DumpedItem.Shows (reads : Bool) (cells : KeySpace) (entry : Bytes × Bytes)
    (item : DumpedItem) : Prop :=
  item.key = entry.1 ∧ DumpedValue.Shows reads cells entry.2 item.value

/-- Something is shown of every item. -/
theorem DumpedItem.Shows.exists (reads : Bool) (cells : KeySpace)
    (entries : List (Bytes × Bytes)) : ∃ items, entries.Forall₂ (Shows reads cells) items := by
  induction entries with
  | nil => exact ⟨[], .nil⟩
  | cons entry entries ih =>
    obtain ⟨key, stored⟩ := entry
    obtain ⟨items, shown⟩ := ih
    have shows : ∃ value, DumpedValue.Shows reads cells stored value := by
      cases read : StoredValue.decode stored with
      | error fault => exact ⟨_, .undecodable read⟩
      | ok form? =>
        match form? with
        | none =>
          cases StoredValue.decode_eq_none_iff.mp read
          exact ⟨_, .empty⟩
        | some (.bytes payload) => exact ⟨_, .bytes read⟩
        | some (.reference id) => exact ⟨_, .map read (.inl rfl)⟩
    obtain ⟨value, shows⟩ := shows
    exact ⟨⟨key, value⟩ :: items, .cons ⟨rfl, shows⟩ shown⟩

/-- A program for each element of a list ends well when each of them does. -/
theorem Ends.mapM {σ ε α β : Type} {f : α → ExceptT ε (StateM σ) β} (kept : σ → Prop)
    (holds : α → β → Prop)
    (step : ∀ {a s result t}, kept s → Ends (f a) s result t →
      kept t ∧ ∃ b, result = .ok b ∧ holds a b)
    {list : List α} {s t : σ} {result : Except ε (List β)} (before : kept s)
    (h : Ends (list.mapM f) s result t) : ∃ found, result = .ok found ∧ list.Forall₂ holds found := by
  induction list generalizing s t result with
  | nil =>
    rw [List.mapM_nil] at h
    exact ⟨[], h.pure.1, .nil⟩
  | cons a list ih =>
    rw [List.mapM_cons] at h
    obtain ⟨error, failed, _⟩ | ⟨b, u, first, h⟩ := h.bind
    · obtain ⟨-, b, same, -⟩ := step before failed
      cases same
    · obtain ⟨between, _, same, shows⟩ := step before first
      cases same
      obtain ⟨error, failed, _⟩ | ⟨found, v, rest, h⟩ := h.bind
      · obtain ⟨_, same, -⟩ := ih between failed
        cases same
      · obtain ⟨_, same, shown⟩ := ih between rest
        cases same
        exact ⟨b :: found, h.pure.1, .cons shows shown⟩

section Running
variable {snapshot : Snapshot} {s t : Workspace} {tablePrefix stored : Bytes}

/-- A count is what the count cell says, or cannot be read. -/
theorem MapHandle.count_shown {id : InstanceId} {result : Except StoreError UInt64}
    (h : Ends (MapHandle.count snapshot (.onInstance snapshot.database id)) s result t) :
    t.engine.servesReads = s.engine.servesReads ∧
      (result.toOption = countOf? snapshot.contents.cells id ∨
        s.engine.servesReads = false ∧ result.toOption = none) := by
  have on : (MapHandle.onInstance snapshot.database id).instance? s.ledger = some id := rfl
  obtain ⟨-, reliable, -⟩ := s.engine.serveRead_spec
  replace h := Ends.bind_of (requireInstance_working on) h
  obtain ⟨_, failed, rfl⟩ | ⟨seen, _, read, rest⟩ := Ends.bind h
  · obtain ⟨rfl, same | ⟨fails, _⟩⟩ := Snapshot.ends_read failed
    · cases same
    · exact ⟨reliable.reads, .inr ⟨fails, rfl⟩⟩
  · obtain ⟨rfl, same | ⟨_, _, same⟩⟩ := Snapshot.ends_read read
    · cases same
      rw [countOf?]
      cases held : snapshot.contents.cells[Layout.countKey id]? with
      | none =>
        rw [held] at rest
        obtain ⟨rfl, rfl⟩ := Ends.throw rest.bind_report
        exact ⟨reliable.reads, .inl rfl⟩
      | some cell =>
        rw [held] at rest
        obtain ⟨rfl, ⟨rfl, bad⟩ | ⟨count, rfl, good⟩⟩ := ends_read_counter rest
        · exact ⟨reliable.reads, .inl bad.symm⟩
        · exact ⟨reliable.reads, .inl good.symm⟩
    · cases same

/-- What is made of a stored value is what a dump shows of it. -/
theorem DumpedValue.ends_ofStored {result : Except StoreError DumpedValue}
    (h : Ends (ofStored snapshot stored) s result t) :
    t.engine.servesReads = s.engine.servesReads ∧
      ∃ value, result = .ok value ∧ Shows s.engine.servesReads snapshot.contents.cells stored value := by
  rw [ofStored] at h
  split at h
  · next read =>
    obtain ⟨rfl, rfl⟩ := h.pure
    exact ⟨rfl, _, rfl, .bytes read⟩
  · next id read =>
    obtain ⟨first, _, counted, h⟩ := Ends.bind_attempt h
    obtain ⟨rfl, rfl⟩ := h.pure
    obtain ⟨reads, shown⟩ := MapHandle.count_shown counted
    exact ⟨reads, _, rfl, .map read shown⟩
  · next read =>
    cases StoredValue.decode_eq_none_iff.mp read
    obtain ⟨rfl, rfl⟩ := h.pure
    exact ⟨rfl, _, rfl, .empty⟩
  · next refused =>
    obtain ⟨rfl, rfl⟩ := h.pure
    exact ⟨rfl, _, rfl, .undecodable refused⟩

/-- What a dump visits are the items of its table. -/
theorem visits_itemsOf (valid : Layout.separator ∉ tablePrefix) (snapshot : Snapshot)
    (engine : Engine) :
    Cursor.Visits engine.faults.cursorMoves
      ((itemsOf tablePrefix snapshot.contents.cells.toList).map fun (key, stored) =>
        (Layout.tableKey .item tablePrefix key, stored))
      (((snapshot.cursor engine).seek (Layout.tableKey .item tablePrefix [])).visitWhile
        (Layout.tableKey .item tablePrefix []).isPrefixOf) := by
  rw [← filter_itemsOf valid, ← filter_extends Std.ExtTreeMap.ordered_keys_toList, Snapshot.cursor,
    Cursor.seek_ofCells]
  exact Cursor.visit_spec _ _ _

/-- Whatever entries a dump is made of, it is made. -/
theorem ends_dumpedItems {start : Bytes} {entries : List (Bytes × Bytes)}
    {result : Except ReportError (List DumpedItem)}
    (h : Ends (entries.mapM fun (key, stored) => do
      let value ← Reporting.ofAction (DumpedValue.ofStored snapshot stored)
      return DumpedItem.mk (key.drop start.length) value) s result t) :
    ∃ items, result = .ok items ∧ entries.Forall₂ (fun entry =>
      DumpedItem.Shows s.engine.servesReads snapshot.contents.cells
        (entry.1.drop start.length, entry.2)) items := by
  refine Ends.mapM (fun u => u.engine.servesReads = s.engine.servesReads) _ ?_ rfl h
  intro entry u result v same h
  obtain ⟨_, failed, _⟩ | ⟨_, _, made, h⟩ := Ends.bind h
  · obtain ⟨_, ended, failed⟩ := Reporting.ends_ofAction failed
    obtain ⟨-, _, rfl, -⟩ := DumpedValue.ends_ofStored ended
    cases failed
  · obtain ⟨_, ended, made⟩ := Reporting.ends_ofAction made
    obtain ⟨reads, _, rfl, shows⟩ := DumpedValue.ends_ofStored ended
    cases made
    obtain ⟨rfl, rfl⟩ := h.pure
    rw [same] at shows
    exact ⟨reads.trans same, _, rfl, rfl, shows⟩

/-- **A dump shows the items of its table, or fails.** -/
theorem dump_spec {result : Except ReportError (List DumpedItem)}
    (valid : Layout.separator ∉ tablePrefix) (h : Ends (dump snapshot tablePrefix) s result t) :
    ∃ items, (itemsOf tablePrefix snapshot.contents.cells.toList).Forall₂
        (DumpedItem.Shows s.engine.servesReads snapshot.contents.cells) items ∧
      result = if Cursor.Lasts s.engine.faults.cursorMoves items.length then .ok items
        else .error (.storage Cursor.failure) := by
  rw [dump, Table.named, dif_pos valid] at h
  -- The table has its name; what follows starts where the dump does.
  replace h : Ends (do
      let visit := ((snapshot.cursor s.engine).seek
        (Layout.tableKey .item tablePrefix [])).visitWhile
          (Layout.tableKey .item tablePrefix []).isPrefixOf
      let items ← visit.1.mapM fun (key, stored) => do
        let value ← Reporting.ofAction (DumpedValue.ofStored snapshot stored)
        return DumpedItem.mk (key.drop (Layout.tableKey .item tablePrefix []).length) value
      Reporting.ofStorage visit.2.status
      return items) s result t := h
  obtain ⟨status, visited⟩ := visits_itemsOf valid snapshot s.engine
  generalize Cursor.visitWhile _ _ = visit at h status visited
  obtain ⟨found, last⟩ := visit
  rw [List.length_map] at status visited
  obtain ⟨_, failed, _⟩ | ⟨items, u, walked, h⟩ := Ends.bind h
  · obtain ⟨_, same, -⟩ := ends_dumpedItems failed
    cases same
  · obtain ⟨_, same, shown⟩ := ends_dumpedItems walked
    cases same
    dsimp only at status visited h
    rw [status] at h
    by_cases lasts : Cursor.Lasts s.engine.faults.cursorMoves
        (itemsOf tablePrefix snapshot.contents.cells.toList).length
    · rw [if_pos lasts] at h
      rw [visited lasts, List.forall₂_map_left_iff] at shown
      simp only [Layout.drop_itemKey] at shown
      refine ⟨items, shown, ?_⟩
      rw [← shown.length_eq, if_pos lasts]
      exact (Ends.pure h).1
    · rw [if_neg lasts] at h
      obtain ⟨items, shown⟩ := DumpedItem.Shows.exists s.engine.servesReads
        snapshot.contents.cells (itemsOf tablePrefix snapshot.contents.cells.toList)
      refine ⟨items, shown, ?_⟩
      rw [← shown.length_eq, if_neg lasts]
      exact (Ends.throw h).1

end Running

/-! ## Inspections -/

namespace TableStats

/-- A row with one more item. -/
def plus (row? : Option TableStats) (item : Bytes × Bytes) : TableStats :=
  ⟨(row?.getD ⟨0, 0⟩).itemCount + 1, (row?.getD ⟨0, 0⟩).dataSize + item.2.length⟩

/-- The row of a table: how many items there are, and the bytes of their values. -/
def ofItems (items : List (Bytes × Bytes)) : TableStats :=
  ⟨items.length, (items.map (·.2.length)).sum⟩

theorem foldl_plus (items : List (Bytes × Bytes)) (row? : Option TableStats) :
    items.foldl (fun row? item => some (plus row? item)) row? =
      if items = [] then row?
      else some ⟨(row?.getD ⟨0, 0⟩).itemCount + (ofItems items).itemCount,
        (row?.getD ⟨0, 0⟩).dataSize + (ofItems items).dataSize⟩ := by
  induction items generalizing row? with
  | nil => rfl
  | cons item items ih =>
    rw [List.foldl_cons, ih, if_neg (List.cons_ne_nil _ _)]
    split
    · next last => simp [last, plus, ofItems]
    · simp only [Option.getD_some, plus, ofItems, List.length_cons, List.map_cons, List.sum_cons,
        Option.some.injEq, mk.injEq]
      omega

end TableStats

namespace Inspection
variable {entries : List (Bytes × Bytes)} {tablePrefix : Bytes}

/-- Each table has the row that its items make up. -/
theorem tablesOf_get (entries : List (Bytes × Bytes)) (tablePrefix : Bytes) :
    (tablesOf entries)[tablePrefix]? =
      if itemsOf tablePrefix entries = [] then none
      else some (.ofItems (itemsOf tablePrefix entries)) := by
  have rows (tables : ByteMap TableStats) : (entries.foldl (fun tables (key, value) =>
      match Address.ofKey? key with
      | some (.item tablePrefix _) =>
        let stats := (tables[tablePrefix]?).getD ⟨0, 0⟩
        tables.insert tablePrefix ⟨stats.itemCount + 1, stats.dataSize + value.length⟩
      | _ => tables) tables)[tablePrefix]? =
      (itemsOf tablePrefix entries).foldl (fun row? item => some (TableStats.plus row? item))
        tables[tablePrefix]? := by
    induction entries generalizing tables with
    | nil => rfl
    | cons entry entries ih =>
      obtain ⟨key, value⟩ := entry
      rw [List.foldl_cons, ih, itemsOf, itemsOf, List.filterMap_cons, itemIn?]
      dsimp only
      cases spelled : Address.ofKey? key with
      | none => rfl
      | some address =>
        cases address with
        | item other item =>
          by_cases same : other = tablePrefix
          · subst same
            simp [TableStats.plus]
          · simp [same, Std.ExtTreeMap.getElem?_insert]
        | count | entry | allocator => rfl
  refine (rows ∅).trans ?_
  rw [TableStats.foldl_plus]
  simp [TableStats.ofItems]

theorem mem_tables {row : TableStats} : (tablePrefix, row) ∈ (tablesOf entries).toList ↔
    itemsOf tablePrefix entries ≠ [] ∧ row = .ofItems (itemsOf tablePrefix entries) := by
  rw [Std.ExtTreeMap.mem_toList_iff_getElem?_eq_some, tablesOf_get]
  split
  · next nothing => simp [nothing]
  · next some => simp [some, eq_comm]

/-- The tables that entries are items of, each as often as it has items. -/
def tablesNamed (entries : List (Bytes × Bytes)) : List Bytes :=
  entries.filterMap fun (key, _) =>
    match Address.ofKey? key with
    | some (.item tablePrefix _) => some tablePrefix
    | _ => none

theorem length_itemsOf (tablePrefix : Bytes) (entries : List (Bytes × Bytes)) :
    (itemsOf tablePrefix entries).length = (tablesNamed entries).count tablePrefix := by
  induction entries with
  | nil => rfl
  | cons entry entries ih =>
    obtain ⟨key, value⟩ := entry
    rw [itemsOf, tablesNamed] at ih ⊢
    rw [List.filterMap_cons, List.filterMap_cons, itemIn?]
    dsimp only
    cases spelled : Address.ofKey? key with
    | none => exact ih
    | some address =>
      cases address with
      | item other item =>
        by_cases same : other = tablePrefix
        · subst same
          simpa using ih
        · simpa [same] using ih
      | count | entry | allocator => exact ih

/-- The rows add up to the number of all items. -/
theorem sum_tables (entries : List (Bytes × Bytes)) :
    ((tablesOf entries).toList.map (·.2.itemCount)).sum = (tablesNamed entries).length := by
  have rows : (tablesOf entries).toList.map (·.2.itemCount) =
      (tablesOf entries).keys.map fun tablePrefix => (tablesNamed entries).count tablePrefix := by
    rw [← Std.ExtTreeMap.map_fst_toList_eq_keys, List.map_map]
    refine List.map_congr_left fun row member => ?_
    rw [(mem_tables.mp member).2]
    exact length_itemsOf _ _
  have tables : (tablesOf entries).keys.Perm (tablesNamed entries).dedup := by
    refine (List.perm_ext_iff_of_nodup Std.ExtTreeMap.nodup_keys (List.nodup_dedup _)).mpr
      fun tablePrefix => ?_
    rw [Std.ExtTreeMap.mem_keys, List.mem_dedup, ← List.count_pos_iff, ← length_itemsOf,
      List.length_pos_iff, Std.ExtTreeMap.mem_iff_isSome_getElem?, tablesOf_get]
    split <;> simp_all
  have all := List.sum_map_count_dedup_eq_length (tablesNamed entries)
  rw [lawful_beq_subsingleton instBEqOfDecidableEq List.instBEq] at all
  rw [rows, (tables.map _).sum_eq, all]

theorem itemCount_ofEntries (sequence : Nat) (next : InstanceId) (entries : List (Bytes × Bytes)) :
    (ofEntries sequence next entries).itemCount = (tablesNamed entries).length := by
  rw [tablesNamed, List.length_filterMap_eq_countP]
  refine List.countP_map.trans (List.countP_congr fun entry _ => ?_)
  obtain ⟨key, value⟩ := entry
  dsimp only [Function.comp_apply]
  cases Address.ofKey? key with
  | none => rfl
  | some address => cases address <;> rfl

/-- Everything is of one of five kinds. -/
theorem countP_kinds (addresses : List (Option Address)) :
    (addresses.countP fun
        | some (.item ..) => true
        | _ => false) +
      (addresses.countP fun
        | some (.count _) => true
        | _ => false) +
      (addresses.countP fun
        | some (.entry ..) => true
        | _ => false) +
      addresses.countP Option.isNone + addresses.count (some .allocator) = addresses.length := by
  induction addresses with
  | nil => rfl
  | cons address addresses ih =>
    simp only [List.countP_cons, List.count_cons, List.length_cons, ← ih]
    cases address with
    | none => simp; omega
    | some address => cases address <;> simp <;> omega

theorem count_allocator (cells : KeySpace) :
    (cells.toList.map fun (key, _) => Address.ofKey? key).count (some .allocator) =
      if Layout.allocatorKey ∈ cells then 1 else 0 := by
  simp only [← Std.ExtTreeMap.mem_keys]
  rw [← Std.ExtTreeMap.nodup_keys.count, ← Std.ExtTreeMap.map_fst_toList_eq_keys, List.count,
    List.count, List.countP_map, List.countP_map]
  refine List.countP_congr fun entry _ => ?_
  have spelled : Address.ofKey? entry.1 = some .allocator ↔ Address.allocator.key = entry.1 :=
    Address.ofKey?_eq_some_iff trivial
  rw [Function.comp_apply, Function.comp_apply, beq_iff_eq, beq_iff_eq]
  exact spelled.trans eq_comm

/-- An inspection leaves no key out, and its rows add up. -/
structure Sums (report : Inspection) (cells : KeySpace) : Prop where
  /-- The tables are in ascending order, each once. -/
  ascending : report.tables.Pairwise fun a b => compare a.1 b.1 = .lt
  items : report.itemCount = (report.tables.map (·.2.itemCount)).sum
  keys : report.itemCount + report.countCells + report.entryCount + report.unknownKeys +
    (if Layout.allocatorKey ∈ cells then 1 else 0) = cells.size

theorem sums_ofEntries (sequence : Nat) (next : InstanceId) (cells : KeySpace) :
    (ofEntries sequence next cells.toList).Sums cells where
  ascending := Std.ExtTreeMap.ordered_keys_toList
  items := (itemCount_ofEntries sequence next cells.toList).trans (sum_tables cells.toList).symm
  keys := by
    rw [← count_allocator]
    refine (countP_kinds _).trans ?_
    rw [List.length_map, Std.ExtTreeMap.length_toList]

/-- What an inspection and a dump say of one table. -/
structure Agrees (report : Inspection) (reads : Bool) (cells : KeySpace) (tablePrefix : Bytes)
    (items : List DumpedItem) : Prop where
  /-- The items are in ascending order, each once. -/
  ascending : items.Pairwise fun a b => compare a.key b.key = .lt
  /-- They are at the keys that address an item of the table, and at no other. -/
  listed : ∀ {key}, key ∈ items.map (·.key) ↔
    ∃ physical ∈ cells, Address.ofKey? physical = some (.item tablePrefix key)
  shown : (itemsOf tablePrefix cells.toList).Forall₂ (DumpedItem.Shows reads cells) items
  /-- The table has a row when there are items, and it is theirs. -/
  row : ∀ {row}, (tablePrefix, row) ∈ report.tables ↔ items ≠ [] ∧
    row = ⟨items.length, ((itemsOf tablePrefix cells.toList).map (·.2.length)).sum⟩

theorem agrees_ofEntries {reads : Bool} {cells : KeySpace} {items : List DumpedItem}
    (valid : Layout.separator ∉ tablePrefix)
    (shown : (itemsOf tablePrefix cells.toList).Forall₂ (DumpedItem.Shows reads cells) items)
    (sequence : Nat) (next : InstanceId) :
    (ofEntries sequence next cells.toList).Agrees reads cells tablePrefix items := by
  have keys : items.map (·.key) = (itemsOf tablePrefix cells.toList).map (·.1) := by
    clear valid
    generalize itemsOf tablePrefix cells.toList = stored at shown
    induction shown with
    | nil => rfl
    | cons shows _ ih => rw [List.map_cons, List.map_cons, ih, shows.1]
  refine ⟨?ascending, ?listed, shown, ?row⟩
  case ascending =>
    have inOrder : ((itemsOf tablePrefix cells.toList).map (·.1)).Pairwise
        fun a b => compare a b = .lt := List.pairwise_map.mpr (ascending_itemsOf valid)
    rw [← keys] at inOrder
    exact List.pairwise_map.mp inOrder
  case listed =>
    intro key
    rw [keys, List.mem_map]
    constructor
    · rintro ⟨⟨key, stored⟩, member, rfl⟩
      obtain ⟨physical, held, spelled⟩ := mem_itemsOf.mp member
      exact ⟨physical, Std.ExtTreeMap.mem_iff_isSome_getElem?.mpr (by simp [held]), spelled⟩
    · rintro ⟨physical, present, spelled⟩
      exact ⟨(key, cells[physical]), mem_itemsOf.mpr
        ⟨physical, Std.ExtTreeMap.getElem?_eq_some_getElem present, spelled⟩, rfl⟩
  case row =>
    intro row
    have some : itemsOf tablePrefix cells.toList ≠ [] ↔ items ≠ [] := by
      rw [← List.length_pos_iff, ← List.length_pos_iff, shown.length_eq]
    exact mem_tables.trans (by rw [some, TableStats.ofItems, shown.length_eq])

end Inspection

section Running
variable {snapshot : Snapshot} {s t : Workspace} {next : InstanceId}

/-- **An inspection sees every cell, or fails.** -/
theorem inspect_spec {result : Except ReportError Inspection}
    (working : s.engine.servesReads = true) (hn : nextId? snapshot.contents.cells = some next)
    (h : Ends (inspect snapshot) s result t) :
    result = if Cursor.Lasts s.engine.faults.cursorMoves snapshot.contents.cells.size
      then .ok (.ofEntries snapshot.contents.sequence next snapshot.contents.cells.toList)
      else .error (.storage Cursor.failure) := by
  obtain ⟨lasts, h⟩ | ⟨spent, rfl⟩ := Reporting.ends_walk working hn h
  · rw [if_pos lasts]
    exact h.pure.1
  · rw [if_neg spent]

end Running

/-! ## Dumps against inspections -/

/-- **Dumps and inspections agree with each other and with the layout.** Whatever is in the cells,
as long as the allocator cell can be read where there is one: a dump lists exactly the items of its
table, in ascending order and each once, and an inspection has a row for the tables that have items,
which gives their number and the bytes of their values. Rows add up to the items, and items, counts,
entries, unknown keys and the allocator cell to all keys. Whenever the cursor fails on the way, there
is nothing but its error. -/
theorem dump_and_inspect_agree {snapshot : Snapshot} {space : Workspace} {next : InstanceId}
    (hn : nextId? snapshot.contents.cells = some next) :
    ∃ report : Inspection, report.Sums snapshot.contents.cells ∧
      (∀ {tablePrefix}, Layout.separator ∉ tablePrefix → ∃ items,
        report.Agrees space.engine.servesReads snapshot.contents.cells tablePrefix items ∧
        ((dump snapshot tablePrefix).run.run space).1 =
          if Cursor.Lasts space.engine.faults.cursorMoves items.length then .ok items
          else .error (.storage Cursor.failure)) ∧
      (snapshot.cursor space.engine).walk =
        (if Cursor.Lasts space.engine.faults.cursorMoves snapshot.contents.cells.size
          then .ok snapshot.contents.cells.toList else .error Cursor.failure) ∧
      (space.engine.servesReads = true →
        ((inspect snapshot).run.run space).1 =
          (if Cursor.Lasts space.engine.faults.cursorMoves snapshot.contents.cells.size
            then .ok report else .error (.storage Cursor.failure)) ∧
        (¬ Cursor.Lasts space.engine.faults.cursorMoves snapshot.contents.cells.size →
          ((verify snapshot).run.run space).1 = .error (.storage Cursor.failure))) := by
  refine ⟨.ofEntries snapshot.contents.sequence next snapshot.contents.cells.toList,
    Inspection.sums_ofEntries .., fun valid => ?_, Cursor.walk_ofCells .., fun working =>
      ⟨inspect_spec working hn (returns_self _ space), fun spent =>
        (verify_spec working hn (returns_self _ space)).trans (if_neg spent)⟩⟩
  obtain ⟨items, shown, ended⟩ := dump_spec valid (returns_self (dump snapshot _).run space)
  exact ⟨items, Inspection.agrees_ofEntries valid shown _ _, ended⟩

/-- The tables `a` and `ab`, a map, a key outside the layout, and the allocator cell. -/
def dumpedCells : KeySpace :=
  ((((((((∅ : KeySpace).insert Layout.allocatorKey (Counter.encode 2)).insert
    (Layout.countKey ⟨1⟩) (Counter.encode 1)).insert
    (Layout.entryKey ⟨1⟩ [97]) (StoredValue.bytes [5]).encode).insert
    (Layout.tableKey .item [97] [0]) (StoredValue.bytes [104, 105]).encode).insert
    (Layout.tableKey .item [97] [1]) (StoredValue.reference ⟨1⟩).encode).insert
    (Layout.tableKey .item [97] [1, 0]) []).insert
    (Layout.tableKey .item [97, 98] []) (StoredValue.bytes []).encode).insert [127] [5]

/-- Four moves take a cursor over the three items of a table, and not over all keys. -/
theorem dump_and_inspect_agree_failing :
    let space : Workspace := ⟨.inMemory { Faults.none with cursorMoves := some 4 }, .empty, []⟩
    (∃ items, ((dump ⟨0, dumpedCells, 9⟩ [97]).run.run space).1 = .ok items ∧
        items.map (·.key) = [[0], [1], [1, 0]]) ∧
      ((inspect ⟨0, dumpedCells, 9⟩).run.run space).1 = .error (.storage Cursor.failure) := by
  intro space
  have read : nextId? dumpedCells = some ⟨2⟩ := by decide +kernel
  obtain ⟨report, -, dumps, -, inspection⟩ :=
    @dump_and_inspect_agree ⟨0, dumpedCells, 9⟩ space _ read
  obtain ⟨items, agrees, dumped⟩ := @dumps [97] (by decide)
  have stored : itemsOf [97] dumpedCells.toList = [([0], (StoredValue.bytes [104, 105]).encode),
      ([1], (StoredValue.reference ⟨1⟩).encode), ([1, 0], [])] := by decide +kernel
  have shown := agrees.shown
  rw [stored] at shown
  obtain ⟨inspected, -⟩ := inspection rfl
  have many : ¬ Cursor.Lasts (some 4) dumpedCells.size := by decide +kernel
  refine ⟨⟨items, ?_, ?_⟩, inspected.trans (if_neg many)⟩
  · rw [dumped, ← shown.length_eq]
    rfl
  · cases shown with
    | cons first shown =>
      cases shown with
      | cons second shown =>
        cases shown with
        | cons third shown =>
          cases shown
          simp [first.1, second.1, third.1]

end NestedStore
