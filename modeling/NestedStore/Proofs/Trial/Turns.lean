import NestedStore.Proofs.Store.Serving
import NestedStore.Trial.Workload

/-! # Writers that take turns

A writer of a workload takes a turn whenever it gets the writer lock: it sets one entry, or leaves a
whole batch of them and applies it (`Workload.Turn`). On a database that works every turn goes well,
and the shared map has the entries of all turns that were taken (`Workload.takeTurns_serves`). A
workload that is shared is the order in which each writer takes all of its turns before the next one
begins (`Workload.run_eq_runInOrder`). -/
namespace NestedStore

theorem Trial.ends_ofStore {α : Type} {operation : StateM Store α} {store last : Store}
    {result : Except TrialFailure α} (h : Ends (Trial.ofStore operation) store result last) :
    ∃ a, Returns operation store a last ∧ result = .ok a := by
  obtain ⟨a, returns, rfl⟩ := Returns.map h
  exact ⟨a, returns, rfl⟩

theorem Trial.ends_bind_ofStore {α β : Type} {operation : StateM Store α} {f : α → Trial β}
    {store last : Store} {result : Except TrialFailure β}
    (h : Ends (Trial.ofStore operation >>= f) store result last) :
    ∃ a between, Returns operation store a between ∧ Ends (f a) between result last := by
  obtain ⟨error, failed, -⟩ | ⟨a, between, ended, rest⟩ := h.bind
  · obtain ⟨_, -, ⟨⟩⟩ := Trial.ends_ofStore failed
  · obtain ⟨_, returns, ⟨⟩⟩ := Trial.ends_ofStore ended
    exact ⟨a, between, returns, rest⟩

/-- Where nothing fails, a new map is put, and its handle bound. -/
theorem Trial.putNewMap_fills {failure : TrialFailure} {table : Table} {key : Bytes}
    {store last : Store} {result : Except TrialFailure MapHandle} {dictionaries : Dictionaries}
    (hr : (store.workspace table.owner).setting.Reliable)
    (h : dictionaries.Fills (store.database table.owner).engine.contents.cells)
    (fits : dictionaries.create.Fits)
    (ends : Ends (Trial.putNewMap failure table key) store result last) :
    result = .ok (.onInstance table.owner dictionaries.next) ∧
      ∃ space effects, last = store.withWorkspace table.owner space ∧
        Reached (store.workspace table.owner) effects space ∧
        (dictionaries.create.put table.tablePrefix key (some (.reference dictionaries.next))).Fills
          space.engine.contents.cells := by
  rw [Trial.putNewMap] at ends
  obtain ⟨⟨answer, value⟩, between, put, rest⟩ := Trial.ends_bind_ofStore ends
  obtain ⟨space, ends, rfl⟩ := Store.on_spec put
  obtain ⟨effects, reached, puts⟩ := putItem_spec trivial ends
  obtain ⟨rfl, rfl, fills⟩ := puts.fills_newMap hr rfl h fits
  obtain ⟨rfl, rfl⟩ := Ends.pure rest
  have filled : (dictionaries.create.put table.tablePrefix key
      (some (.reference dictionaries.next))).Fills (LawfulSurface.view space) :=
    reached.view ▸ fills
  exact ⟨rfl, space, effects, rfl, reached, filled⟩

/-- Several writers share the work, and a batch has room for something. -/
def WorkMode.IsShared : WorkMode → Prop
  | sequential => False
  | concurrent => True
  | batches size => 0 < size

namespace Workload

/-! ## Turns -/

/-- What a writer does while it has the writer lock. -/
inductive Turn where
  | entry (key payload : Bytes)
  /-- Entries that hold their own keys, in one batch. -/
  | batch (keys : List Bytes)

namespace Turn

/-- Takes a turn. -/
def take (map : MapHandle) (tally : Tally) : Turn → StateM Store Tally
  | entry key payload => writeEntry map key payload tally
  | batch keys => writeBatch map keys tally

/-- The entries that a turn sets. -/
def entries : Turn → List (Bytes × StoredValue)
  | entry key payload => [(key, .bytes payload)]
  | batch keys => keys.map fun key => (key, .bytes key)

end Turn

/-- Takes turns in an order. -/
def takeTurns (map : MapHandle) (order : List Turn) (tally : Tally) : StateM Store Tally :=
  order.foldlM (fun tally turn => turn.take map tally) tally

/-- The turns of each writer. -/
def queues (work : Workload) : WorkMode → List (List Turn)
  | .sequential => [(List.range work.operations).map fun i =>
    .entry (entryKey 0 (i % work.keyCount)) (List.replicate work.payloadSize 0xAB)]
  | .concurrent => (List.range work.writers).map fun writer =>
    (List.range (work.operations / work.writers)).map fun i =>
      .entry (entryKey writer i) (List.replicate work.payloadSize 0xCD)
  | .batches size => (List.range work.writers).map fun writer =>
    (List.range (work.operations / work.writers / size)).map fun b =>
      .batch ((List.range size).map fun i => entryKey writer (b * size + i))

/-- Runs a workload whose turns are taken in an order. -/
def runInOrder (mode : WorkMode) (order : List Turn) (id : DatabaseId) :
    Trial (MapHandle × Tally) := do
  let map ← target id mode
  let tally ← Trial.ofStore (takeTurns map order .zero)
  return (map, tally)

/-! ## One writer after the other -/

theorem takeTurns_flatten (map : MapHandle) (queues : List (List Turn)) (tally : Tally) :
    takeTurns map queues.flatten tally =
      queues.foldlM (fun tally queue => takeTurns map queue tally) tally := by
  induction queues generalizing tally with
  | nil => rfl
  | cons queue queues ih =>
    rw [List.flatten_cons, List.foldlM_cons, takeTurns, List.foldlM_append]
    exact bind_congr fun tally => ih tally

/-- A shared workload lets its writers take their turns one after the other. -/
theorem run_eq_runInOrder (work : Workload) {mode : WorkMode} (shared : mode.IsShared)
    (writers : 0 < work.writers) (id : DatabaseId) :
    work.run mode id = runInOrder mode (work.queues mode).flatten id := by
  unfold run runInOrder
  refine bind_congr fun map => ?_
  simp only [takeTurns_flatten]
  cases mode with
  | sequential => exact shared.elim
  | concurrent =>
    simp only [runConcurrent, if_neg writers.ne', queues, takeTurns, List.foldlM_map, Turn.take]
  | batches size =>
    have some : ¬ (work.writers = 0 ∨ size = 0) := not_or.mpr ⟨writers.ne', shared.ne'⟩
    simp only [runBatches, if_neg some, queues, takeTurns, List.foldlM_map, Turn.take]

/-! ## Turns on a database that works -/

section Serving
variable {store last : Store} {id : DatabaseId} {inst : InstanceId} {dictionaries : Dictionaries}
  {map : ByteMap StoredValue} {tally tally' : Tally}

/-- What a database holds once the map of a workload was stored in it. -/
def begun (mode : WorkMode) : Dictionaries :=
  Dictionaries.empty.create.put (Bytes.ofText "stress") mode.itemKey (some (.reference .first))

/-- The map of a workload is stored as the first one of a database. -/
theorem target_serves {mode : WorkMode} {result : Except TrialFailure MapHandle}
    (h : store.Serves id .empty) (ends : Ends (target id mode) store result last) :
    result = .ok (.onInstance id .first) ∧ last.Serves id (begun mode) := by
  have valid : Layout.separator ∉ Bytes.ofText "stress" := by decide +kernel
  have named : Table.named id (Bytes.ofText "stress") = .ok ⟨id, Bytes.ofText "stress", valid⟩ :=
    dif_pos valid
  rw [target, named] at ends
  simp only [Trial.expect, pure_bind] at ends
  obtain ⟨rfl, space, effects, rfl, reached, fills⟩ :=
    Trial.putNewMap_fills h.works.reliable h.fills (by decide) ends
  exact ⟨rfl, h.withWorkspace (reached.works h.works) fills⟩

/-- Entries are left to a batch, one after the other. -/
theorem stageEntries_drafts {keys : List Bytes} {batch batch' : Batch}
    {result : Except StoreError Unit} (h : store.Drafts id batch dictionaries)
    (made : dictionaries.map? inst = some map) (room : map.size + keys.length < UInt64.size)
    (stages : Returns (stageEntries (.onInstance id inst) keys batch) store (result, batch') last) :
    result = .ok () ∧ last.Drafts id batch'
      (dictionaries.setAll inst (keys.map fun key => (key, .bytes key))) := by
  induction keys generalizing store batch dictionaries map with
  | nil =>
    obtain ⟨⟨⟩, rfl⟩ := stages.pure
    exact ⟨rfl, h⟩
  | cons key keys ih =>
    rw [List.length_cons] at room
    obtain ⟨⟨answer, mid⟩, between, sets, rest⟩ := stages.bind
    obtain ⟨rfl, drafts⟩ := h.setItem made (by omega) sets
    refine ih drafts (Dictionaries.map?_setAll made [(key, .bytes key)]) ?_ rest
    have size := Std.ExtTreeMap.size_insertMany_list_le
      (t := map) (l := [(key, StoredValue.bytes key)])
    rw [List.length_singleton] at size
    omega

/-- A batch is written whole. -/
theorem writeBatch_serves {keys : List Bytes} (h : store.Serves id dictionaries)
    (made : dictionaries.map? inst = some map) (room : map.size + keys.length < UInt64.size)
    (writes : Returns (writeBatch (.onInstance id inst) keys tally) store tally' last) :
    tally' = tally.count keys.length (.ok () : Except StoreError Unit) ∧
      last.Serves id (dictionaries.setAll inst (keys.map fun key => (key, .bytes key))) := by
  obtain ⟨batch, opened, opens, rest⟩ := writes.bind
  obtain ⟨⟨result, batch'⟩, staged, stages, rest⟩ := rest.bind
  obtain ⟨rfl, drafts⟩ := stageEntries_drafts (h.openBatch opens) made room stages
  obtain ⟨result, applied, applies, done⟩ := rest.bind
  obtain ⟨rfl, serves⟩ := drafts.apply applies
  obtain ⟨rfl, rfl⟩ := done.pure
  exact ⟨rfl, serves⟩

/-- **A turn goes well**, and sets its entries. -/
theorem Turn.take_serves {turn : Turn} (h : store.Serves id dictionaries)
    (made : dictionaries.map? inst = some map)
    (room : map.size + turn.entries.length < UInt64.size)
    (takes : Returns (turn.take (.onInstance id inst) tally) store tally' last) :
    tally' = tally.count turn.entries.length (.ok () : Except StoreError Unit) ∧
      last.Serves id (dictionaries.setAll inst turn.entries) := by
  cases turn with
  | entry key payload =>
    obtain ⟨answer, mid, sets, rest⟩ := takes.bind
    obtain ⟨rfl, serves⟩ := h.setItem made (Nat.lt_sub_of_add_lt room) sets
    obtain ⟨rfl, rfl⟩ := rest.pure
    exact ⟨rfl, serves⟩
  | batch keys =>
    rw [entries, List.length_map] at room ⊢
    exact writeBatch_serves h made room takes

/-- **All turns go well**, whoever takes them. -/
theorem takeTurns_serves {order : List Turn} (h : store.Serves id dictionaries)
    (made : dictionaries.map? inst = some map)
    (room : map.size + (order.flatMap Turn.entries).length < UInt64.size)
    (takes : Returns (takeTurns (.onInstance id inst) order tally) store tally' last) :
    tally' = tally.count (order.flatMap Turn.entries).length (.ok () : Except StoreError Unit) ∧
      last.Serves id (dictionaries.setAll inst (order.flatMap Turn.entries)) := by
  induction order generalizing store dictionaries map tally with
  | nil =>
    obtain ⟨rfl, rfl⟩ := takes.pure
    exact ⟨rfl, h⟩
  | cons turn order ih =>
    rw [List.flatMap_cons, List.length_append] at room ⊢
    rw [takeTurns, List.foldlM_cons] at takes
    obtain ⟨between, mid, takes, rest⟩ := takes.bind
    obtain ⟨rfl, serves⟩ := turn.take_serves h made (by omega) takes
    have size := Std.ExtTreeMap.size_insertMany_list_le (t := map) (l := turn.entries)
    obtain ⟨rfl, serves⟩ := ih serves (Dictionaries.map?_setAll made turn.entries) (by omega) rest
    rw [Dictionaries.setAll_append]
    exact ⟨by simp only [Tally.count, Nat.add_assoc], serves⟩

end Serving

end Workload

end NestedStore
