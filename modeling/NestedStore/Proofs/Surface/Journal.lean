import NestedStore.Proofs.Log.Replay
import NestedStore.Proofs.Surface.Engine

/-! # Every write is a record

A workspace whose engine lies on a healthy log holds what the batches in the log leave (`Logs`), and
a program at work on it adds one record for each of its writes (`Workspace.logs_of_run`). A log that
ends between two of them holds what the program had done by then (`cells_take`). -/
namespace NestedStore

namespace Engine

/-- The engine holds what the batches leave, and they are in its log, which takes more. -/
structure Logs (engine : Engine) (writes : List WriteBatch) : Prop where
  contents : engine.contents = .ofBatches writes
  medium : ∃ directory options, engine.medium =
    .log ⟨directory, options, .atEnd (writes.flatMap Log.record), .regular none, false⟩

variable {engine : Engine} {writes : List WriteBatch} {batch : WriteBatch}

theorem Logs.servesReads (h : engine.Logs writes) : engine.servesReads = true := by
  obtain ⟨directory, options, medium⟩ := h.medium
  rw [Engine.servesReads, medium]

theorem Logs.takesWrites (h : engine.Logs writes) : engine.takesWrites = true := by
  obtain ⟨directory, options, medium⟩ := h.medium
  rw [Engine.takesWrites, medium]

theorem Logs.write_empty (h : engine.Logs writes) (nothing : batch.isEmpty = true) :
    (engine.write batch).1 = engine := by
  obtain ⟨directory, options, medium⟩ := h.medium
  rw [Engine.write, medium]
  simp [writeLog, nothing]

/-- A batch that is written is in the log. -/
theorem Logs.write (h : engine.Logs writes) (something : batch.isEmpty = false) :
    (engine.write batch).1.Logs (writes ++ [batch]) := by
  obtain ⟨directory, options, medium⟩ := h.medium
  have written : (engine.write batch).1 = ⟨engine.contents.apply batch, .log
      ⟨directory, options, .write (.atEnd (writes.flatMap Log.record)) (Log.record batch),
        .regular none, false⟩⟩ := by
    rw [Engine.write, medium]
    exact congrArg Prod.fst (engine.writeLog_done rfl something)
  rw [written]
  refine ⟨?_, directory, options, ?_⟩
  · rw [h.contents, Contents.ofBatches, Contents.ofBatches, List.foldl_append]
    rfl
  · rw [Log.write_atEnd, List.flatMap_append, List.flatMap_singleton]

end Engine

/-! ## Programs -/

/-- A batch with one operation. -/
def WriteBatch.single (op : BatchOp) : WriteBatch := ⟨[op]⟩

/-- A program adds one record for each of its writes. -/
theorem Workspace.logs_of_run {s t : Workspace} {effects : List Effect} {writes : List WriteBatch}
    (h : Run s effects t) (hl : s.engine.Logs writes) :
    t.engine.Logs (writes ++ (writesOf effects).map .single) := by
  induction h generalizing writes with
  | done s =>
    rw [writesOf, List.filterMap_nil, List.map_nil, List.append_nil]
    exact hl
  | read read _ ih =>
    obtain ⟨rfl, _⟩ := Workspace.ends_read read
    have same := Engine.serveRead_eq hl.servesReads
    exact ih (same.symm ▸ hl)
  | @write s t u op effects written _ ih =>
    have single : Ends (Workspace.write (.single op)) s (.ok ()) t := by cases op <;> exact written
    obtain ⟨rfl, _⟩ := Workspace.ends_write single
    have something : (WriteBatch.single op).isEmpty = false := rfl
    have logged := ih (hl.write something)
    rw [List.append_assoc] at logged
    exact logged
  | @refused s t u op error effects refused _ ih =>
    have single : Ends (Workspace.write (.single op)) s (.error error) t := by
      cases op <;> exact refused
    obtain ⟨_, failed⟩ := Workspace.ends_write single
    rcases (s.engine.write_spec (.single op)).outcome with ⟨taken, _⟩ | ⟨fails, _⟩
    · rw [taken] at failed
      cases failed
    · cases hl.takesWrites.symm.trans fails
  | note event _ ih => exact ih hl

theorem applyAll_eq (cells : KeySpace) (effects : List Effect) :
    applyAll cells effects = (writesOf effects).foldl BatchOp.applyTo cells := by
  induction effects generalizing cells with
  | nil => rfl
  | cons effect effects ih => cases effect <;> exact ih _

theorem exists_take_writesOf (effects : List Effect) (count : Nat) :
    ∃ first later, effects = first ++ later ∧ writesOf first = (writesOf effects).take count := by
  induction effects generalizing count with
  | nil => exact ⟨[], [], rfl, List.take_nil.symm⟩
  | cons effect effects ih =>
    cases effect with
    | note event =>
      obtain ⟨first, later, rfl, same⟩ := ih count
      exact ⟨.note event :: first, later, rfl, same⟩
    | write op =>
      cases count with
      | zero => exact ⟨[], .write op :: effects, rfl, rfl⟩
      | succ count =>
        obtain ⟨first, later, rfl, same⟩ := ih count
        exact ⟨.write op :: first, later, rfl, congrArg (op :: ·) same⟩

theorem sequence_ofBatches (batches : List WriteBatch) :
    (Contents.ofBatches batches).sequence = batches.length := by
  have counts (contents : Contents) :
      (batches.foldl Contents.apply contents).sequence = contents.sequence + batches.length := by
    induction batches generalizing contents with
    | nil => rfl
    | cons batch batches ih =>
      have counted := ih (contents.apply batch)
      have one : (contents.apply batch).sequence = contents.sequence + 1 := rfl
      rw [List.foldl_cons, counted, one, List.length_cons]
      omega
  exact (counts .empty).trans (Nat.zero_add _)

theorem cells_singles (writes : List WriteBatch) (ops : List BatchOp) :
    (Contents.ofBatches (writes ++ ops.map .single)).cells =
      ops.foldl BatchOp.applyTo (Contents.ofBatches writes).cells := by
  induction ops generalizing writes with
  | nil => rw [List.map_nil, List.append_nil]; rfl
  | cons op ops ih =>
    have next := ih (writes ++ [.single op])
    rw [List.append_assoc] at next
    rw [List.map_cons, List.foldl_cons]
    refine next.trans ?_
    rw [Contents.ofBatches, List.foldl_append]
    rfl

/-- A log that ends between two writes of a program holds what the program had done by then, or
less. -/
theorem cells_take (writes : List WriteBatch) (effects : List Effect) (count : Nat) :
    (∃ count', (writes ++ (writesOf effects).map WriteBatch.single).take count = writes.take count') ∨
      ∃ first later, effects = first ++ later ∧
        (Contents.ofBatches ((writes ++ (writesOf effects).map WriteBatch.single).take count)).cells =
          applyAll (Contents.ofBatches writes).cells first := by
  by_cases before : count ≤ writes.length
  · exact .inl ⟨count, List.take_append_of_le_length before⟩
  · obtain ⟨first, later, split, same⟩ := exists_take_writesOf effects (count - writes.length)
    refine .inr ⟨first, later, split, ?_⟩
    rw [List.take_append, List.take_of_length_le (by omega), ← List.map_take, cells_singles,
      applyAll_eq, same]

end NestedStore
