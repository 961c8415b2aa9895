import NestedStore.Proofs.Map.Reading
import NestedStore.Proofs.Trial.EntryKeys
import NestedStore.Proofs.Trial.Turns

/-! # Writers in any order

The writers of a shared workload have keys of their own, so what they do commutes: however their
turns interleave (`Interleaves`), the database ends as if they had come one after the other, and
nothing is lost of what they wrote (`Workload.interleaved_writers_give_one_result`). -/
namespace NestedStore

/-! ## Interleavings -/

/-- An order of the turns of several writers in which each of them takes its own in order. -/
inductive Interleaves {α : Type} : List (List α) → List α → Prop
  | done {queues : List (List α)} (idle : ∀ queue ∈ queues, queue = []) : Interleaves queues []
  | turn {before after : List (List α)} {queue order : List α} {turn : α}
      (rest : Interleaves (before ++ queue :: after) order) :
      Interleaves (before ++ (turn :: queue) :: after) (turn :: order)

namespace Interleaves
variable {α : Type} {queues : List (List α)} {order queue : List α}

/-- Every turn is taken, and no other. -/
theorem perm (h : Interleaves queues order) : order.Perm queues.flatten := by
  induction h with
  | done idle => rw [List.flatten_eq_nil_iff.mpr idle]
  | @turn before after queue order turn _ ih =>
    have front : (turn :: (before ++ queue :: after).flatten).Perm
        (before ++ (turn :: queue) :: after).flatten := by
      simp only [List.flatten_append, List.flatten_cons, List.cons_append]
      exact List.perm_middle.symm
    exact (ih.cons turn).trans front

/-- A writer without turns is not waited for. -/
theorem idle (h : Interleaves queues order) : Interleaves ([] :: queues) order := by
  induction h with
  | done idle => exact .done (by simpa using idle)
  | @turn before _ _ _ _ _ ih => exact @Interleaves.turn _ ([] :: before) _ _ _ _ ih

/-- A writer may take all of its turns before the others. -/
theorem first (h : Interleaves queues order) (queue : List α) :
    Interleaves (queue :: queues) (queue ++ order) := by
  induction queue with
  | nil => exact h.idle
  | cons turn queue ih => exact @Interleaves.turn _ [] _ _ _ _ ih

/-- The writers may come one after the other. -/
theorem flatten (queues : List (List α)) : Interleaves queues queues.flatten := by
  induction queues with
  | nil => exact .done nofun
  | cons queue queues ih => exact ih.first queue

end Interleaves

namespace Workload

/-! ## What is written -/

/-- How many writes a workload is to make. -/
def planned (work : Workload) : WorkMode → Nat
  | .sequential => work.operations
  | .concurrent => work.writers * (work.operations / work.writers)
  | .batches size => work.writers * (work.operations / work.writers / size) * size

/-- How many entries each writer sets. -/
def share (work : Workload) : WorkMode → Nat
  | .sequential => work.operations
  | .concurrent => work.operations / work.writers
  | .batches size => work.operations / work.writers / size * size

/-- What is set at a key. -/
def payload (work : Workload) : WorkMode → Bytes → Bytes
  | .sequential, _ => List.replicate work.payloadSize 0xAB
  | .concurrent, _ => List.replicate work.payloadSize 0xCD
  | .batches _, key => key

/-- An entry of a writer. -/
def entryOf (work : Workload) (mode : WorkMode) (writer index : Nat) : Bytes × StoredValue :=
  (entryKey writer index, .bytes (work.payload mode (entryKey writer index)))

/-- The entries of all writers. -/
def entries (work : Workload) (mode : WorkMode) : List (Bytes × StoredValue) :=
  (List.range work.writers).flatMap fun writer =>
    (List.range (work.share mode)).map (work.entryOf mode writer)

theorem mem_entries {work : Workload} {mode : WorkMode} {key : Bytes} {stored : StoredValue} :
    (key, stored) ∈ work.entries mode ↔ ∃ writer < work.writers, ∃ index < work.share mode,
      key = entryKey writer index ∧ stored = .bytes (work.payload mode key) := by
  simp only [entries, entryOf, List.mem_flatMap, List.mem_map, List.mem_range, Prod.mk.injEq]
  grind

theorem range_mul (count size : Nat) : List.range (count * size) =
    (List.range count).flatMap fun b => (List.range size).map (b * size + ·) := by
  induction count with
  | zero => rw [Nat.zero_mul]; rfl
  | succ count ih =>
    rw [Nat.succ_mul, List.range_add, List.range_succ, List.flatMap_append, ih,
      List.flatMap_singleton]

/-- The turns of a shared workload set its entries. -/
theorem entries_queues (work : Workload) {mode : WorkMode} (shared : mode.IsShared) :
    (work.queues mode).flatten.flatMap Turn.entries = work.entries mode := by
  cases mode with
  | sequential => exact shared.elim
  | concurrent =>
    rw [queues, ← List.flatMap_def, List.flatMap_assoc]
    refine List.flatMap_congr fun writer _ => ?_
    rw [List.flatMap_map]
    exact List.flatMap_pure_eq_map ..
  | batches size =>
    rw [queues, ← List.flatMap_def, List.flatMap_assoc]
    refine List.flatMap_congr fun writer _ => ?_
    rw [List.flatMap_map, share, range_mul, List.map_flatMap]
    refine List.flatMap_congr fun b _ => ?_
    simp only [Turn.entries, List.map_map]
    rfl

theorem length_entries (work : Workload) {mode : WorkMode} (shared : mode.IsShared) :
    (work.entries mode).length = work.planned mode := by
  have length : (work.entries mode).length = work.writers * work.share mode := by
    simp [entries]
  cases mode with
  | sequential => exact shared.elim
  | concurrent => exact length
  | batches size => rw [length, share, planned, Nat.mul_assoc]

/-- **Every entry has a key of its own.** -/
theorem nodup_entries (work : Workload) (mode : WorkMode) :
    ((work.entries mode).map Prod.fst).Nodup := by
  rw [entries, List.map_flatMap, List.nodup_flatMap]
  simp only [List.map_map]
  constructor
  · intro writer _
    exact List.nodup_range.map fun index other same => (entryKey_inj same).2
  · refine List.nodup_range.imp fun {writer other} apart key mine yours => apart ?_
    obtain ⟨index, -, rfl⟩ := List.mem_map.mp mine
    obtain ⟨index', -, same⟩ := List.mem_map.mp yours
    exact (entryKey_inj same).1.symm

theorem planned_le (work : Workload) {mode : WorkMode} : work.planned mode ≤ work.operations := by
  cases mode with
  | sequential => exact Nat.le_refl _
  | concurrent => exact Nat.mul_div_le ..
  | batches size =>
    calc work.writers * (work.operations / work.writers / size) * size
        = work.writers * (work.operations / work.writers / size * size) := Nat.mul_assoc ..
      _ ≤ work.writers * (work.operations / work.writers) :=
        Nat.mul_le_mul_left _ (Nat.div_mul_le_self ..)
      _ ≤ work.operations := Nat.mul_div_le ..

/-! ## What is found -/

/-- What is found in the database of a workload once its writers are done. -/
structure Found (work : Workload) (mode : WorkMode) (map : MapHandle) (snapshot : Snapshot)
    (space : Workspace) : Prop where
  count : ∃ count, ((map.count snapshot).run.run space).1 = .ok count ∧
    count.toNat = work.planned mode
  /-- The map has so many entries, which are those of the writers. -/
  listed : ∃ iterator, ∃ listed : List (Bytes × Value),
    ((map.iterator snapshot).run.run space).1 = .ok iterator ∧
      (Entries.ofIterator iterator).toList = listed.map .ok ∧
      listed.length = work.planned mode ∧
      ∀ key value, (key, value) ∈ listed ↔ ∃ writer < work.writers, ∃ index < work.share mode,
        key = entryKey writer index ∧ value = .bytes (work.payload mode key)
  entry : ∀ writer < work.writers, ∀ index < work.share mode,
    ((map.getItem snapshot (entryKey writer index)).run.run space).1 =
      .ok (some (.bytes (work.payload mode (entryKey writer index))))
  next : ((nextInstance snapshot).run.run space).1 = .ok ⟨2⟩
  clean : ∃ report : Verification, ((verify snapshot).run.run space).1 = .ok report ∧
    report.problems = []

variable {mode : WorkMode} {id : DatabaseId}

/-- What the database of a shared workload is to hold. -/
def finished (work : Workload) (mode : WorkMode) : Dictionaries :=
  (begun mode).setAll .first (work.entries mode)

/-- The map of a shared workload, as it is to be. -/
def shared (work : Workload) (mode : WorkMode) : ByteMap StoredValue :=
  (∅ : ByteMap StoredValue).insertMany (work.entries mode)

theorem map?_finished (work : Workload) (mode : WorkMode) :
    (work.finished mode).map? .first = some (work.shared mode) :=
  Dictionaries.map?_setAll rfl (work.entries mode)

theorem next_finished (work : Workload) (mode : WorkMode) : (work.finished mode).next = ⟨2⟩ :=
  Dictionaries.next_setAll _

/-- What the map of a shared workload holds is what its writers set. -/
theorem getElem?_shared (work : Workload) {key : Bytes} {stored : StoredValue} :
    (work.shared mode)[key]? = some stored ↔ ∃ writer < work.writers,
      ∃ index < work.share mode, key = entryKey writer index ∧
        stored = .bytes (work.payload mode key) :=
  (Dictionaries.getElem?_insertMany (work.nodup_entries mode)).trans mem_entries

theorem size_shared (work : Workload) (several : mode.IsShared) :
    (work.shared mode).size = work.planned mode := by
  rw [shared, Dictionaries.size_insertMany (work.nodup_entries mode), work.length_entries several]

/-- What is to be held is found. -/
theorem found_of_fills (work : Workload) (several : mode.IsShared)
    (room : work.planned mode < UInt64.size) {snapshot : Snapshot} {space : Workspace}
    (working : space.engine.ReadsWork)
    (fills : (work.finished mode).Fills snapshot.contents.cells) :
    work.Found mode (.onInstance id .first) snapshot space := by
  have made := work.map?_finished mode
  have size := work.size_shared several
  have on : (MapHandle.onInstance id .first).instance? space.ledger = some .first := rfl
  constructor
  · refine ⟨_, MapHandle.count_working working.reads fills.laidOut on made (returns_self _ space),
      ?_⟩
    rw [size, UInt64.toNat_ofNat', Nat.mod_eq_of_lt room]
  · obtain ⟨iterator, opened, list⟩ :=
      MapHandle.iterator_working working.moves fills.laidOut on made (returns_self _ space)
    refine ⟨iterator, (work.shared mode).toList.map fun entry => (entry.1, .ofStored id entry.2),
      opened, by rw [list, List.map_map]; rfl, ?_, fun key value => ?_⟩
    · rw [List.length_map, Std.ExtTreeMap.length_toList, size]
    · rw [List.mem_map]
      constructor
      · rintro ⟨⟨_, stored⟩, member, ⟨⟩⟩
        obtain ⟨writer, within, index, early, rfl, rfl⟩ :=
          work.getElem?_shared.mp (Std.ExtTreeMap.mem_toList_iff_getElem?_eq_some.mp member)
        exact ⟨writer, within, index, early, rfl, rfl⟩
      · rintro ⟨writer, within, index, early, rfl, rfl⟩
        have there := work.getElem?_shared.mpr ⟨writer, within, index, early, rfl, rfl⟩
        exact ⟨_, Std.ExtTreeMap.mem_toList_iff_getElem?_eq_some.mpr there, rfl⟩
  · intro writer within index early
    have whole : Ends ((MapHandle.onInstance id .first).getItem snapshot (entryKey writer index))
        space _ _ := returns_self _ space
    have read := (MapHandle.getItem_working working.reads fills.laidOut on whole).1
    rw [made, Option.bind_some,
      work.getElem?_shared.mpr ⟨writer, within, index, early, rfl, rfl⟩] at read
    exact read
  · exact ((nextInstance_working working.reads (returns_self _ space)).1 ⟨2⟩).mpr
      (work.next_finished mode ▸ fills.laidOut.next)
  · obtain ⟨report, verified, behind⟩ := verify_consistent working fills.consistent
    exact ⟨report, verified, behind.clean⟩

/-! ## Any order -/

/-- Whatever the order of turns, all writes go well, and the database holds what it is to hold. -/
theorem runInOrder_serves (work : Workload) (several : mode.IsShared)
    (room : work.planned mode < UInt64.size) {order : List Turn}
    (interleaves : Interleaves (work.queues mode) order) {store last : Store}
    (h : store.Serves id .empty) {result : Except TrialFailure (MapHandle × Tally)}
    (ends : Ends (runInOrder mode order id) store result last) :
    result = .ok (.onInstance id .first, ⟨work.planned mode, 0⟩) ∧
      last.Serves id (work.finished mode) := by
  have same : (order.flatMap Turn.entries).Perm (work.entries mode) :=
    work.entries_queues several ▸ interleaves.perm.flatMap_right Turn.entries
  have length : (order.flatMap Turn.entries).length = work.planned mode :=
    same.length_eq.trans (work.length_entries several)
  have filled : (begun mode).setAll .first (order.flatMap Turn.entries) = work.finished mode :=
    (Dictionaries.setAll_perm same.symm (work.nodup_entries mode)).symm
  obtain ⟨error, failed, -⟩ | ⟨map, between, stored, rest⟩ := ends.bind
  · cases (target_serves h failed).1
  · obtain ⟨⟨⟩, begins⟩ := target_serves h stored
    obtain ⟨error, failed, -⟩ | ⟨tally, mid, taken, rest⟩ := rest.bind
    · obtain ⟨_, -, ⟨⟩⟩ := Trial.ends_ofStore failed
    · obtain ⟨_, takes, ⟨⟩⟩ := Trial.ends_ofStore taken
      have fresh : (begun mode).map? .first = some ∅ := rfl
      obtain ⟨rfl, serves⟩ := takeTurns_serves begins fresh (by simpa [length]) takes
      obtain ⟨rfl, rfl⟩ := Ends.pure rest
      exact ⟨by simp [Tally.count, Tally.zero, length], filled ▸ serves⟩

/-- **Writers that interleave give one result.** On an empty database that works, let the writers of
a shared workload take their turns at the writer lock in any order. No write fails, and there are as
many as planned. The cells are those that are there when the writers come one after the other, and
what is found in them is what the writers wrote: the count of the map is the number of its entries,
every entry of every writer has its payload, the next instance is the second, and verification finds
no problem. -/
theorem interleaved_writers_give_one_result (work : Workload) (several : mode.IsShared)
    (writers : 0 < work.writers) (room : work.operations < UInt64.size) {store : Store}
    (present : id < store.databases.size) (works : (store.database id).engine.Works)
    (free : store.isLocked id = false)
    (empty : (store.database id).engine.contents = .empty) {order : List Turn}
    (interleaves : Interleaves (work.queues mode) order) :
    ∃ (map : MapHandle) (later alone : Store),
      Ends (runInOrder mode order id) store (.ok (map, ⟨work.planned mode, 0⟩)) later ∧
      Ends (work.run mode id) store (.ok (map, ⟨work.planned mode, 0⟩)) alone ∧
      (later.snapshot id).contents.cells = (alone.snapshot id).contents.cells ∧
      work.Found mode map (later.snapshot id) (later.workspace id) := by
  have fits : work.planned mode < UInt64.size := work.planned_le.trans_lt room
  have starts : store.Serves id .empty :=
    ⟨present, works, free, by rw [empty]; exact ⟨Dictionaries.laidOut_empty, .empty⟩⟩
  rw [work.run_eq_runInOrder several writers id]
  have run := returns_self (runInOrder mode order id).run store
  have runAlone := returns_self (runInOrder mode (work.queues mode).flatten id).run store
  obtain ⟨result, serves⟩ := work.runInOrder_serves several fits interleaves starts run
  obtain ⟨resultAlone, servesAlone⟩ :=
    work.runInOrder_serves several fits (.flatten _) starts runAlone
  rw [result] at run
  rw [resultAlone] at runAlone
  have begun : (work.finished mode).next ≠ .first := by
    rw [next_finished]
    decide
  exact ⟨_, _, _, run, runAlone, serves.fills.unique servesAlone.fills begun,
    work.found_of_fills several fits serves.works.toReadsWork serves.fills⟩

/-- Two writers with two batches of two entries each. The second writer comes between the batches of
the first, and nine writes were asked for, of which one is left over. -/
theorem interleaved_writers_give_one_result_batches : ∃ (map : MapHandle) (later alone : Store),
    Ends (runInOrder (.batches 2)
        [.batch [entryKey 0 0, entryKey 0 1], .batch [entryKey 1 0, entryKey 1 1],
          .batch [entryKey 1 2, entryKey 1 3], .batch [entryKey 0 2, entryKey 0 3]] 0)
      .single (.ok (map, ⟨8, 0⟩)) later ∧
    Ends (run ⟨9, 2, 0, 0⟩ (.batches 2) 0) .single (.ok (map, ⟨8, 0⟩)) alone ∧
    (later.snapshot 0).contents.cells = (alone.snapshot 0).contents.cells ∧
    Found ⟨9, 2, 0, 0⟩ (.batches 2) map (later.snapshot 0) (later.workspace 0) := by
  have several : (WorkMode.batches 2).IsShared := Nat.zero_lt_two
  refine interleaved_writers_give_one_result ⟨9, 2, 0, 0⟩ several (by decide) (by decide)
    (by decide) ⟨⟨rfl, rfl⟩, rfl⟩ rfl rfl ?_
  exact @Interleaves.turn _ [] _ _ _ _ <| @Interleaves.turn _ [_] _ _ _ _ <|
    @Interleaves.turn _ [_] _ _ _ _ <| @Interleaves.turn _ [] _ _ _ _ <| .done (by simp)

end Workload

end NestedStore
