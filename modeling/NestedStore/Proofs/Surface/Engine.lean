import NestedStore.Batch
import NestedStore.Proofs.Log.Append
import NestedStore.Proofs.Surface.Lawful

/-! # Workspaces and batches are lawful

A workspace reads and writes its engine. Whether the engine may fail a call is a matter of what it
lies on (`Engine.servesReads`, `Engine.takesWrites`), which no call changes; a refused write leaves
the contents alone. A batch reads the cells that are there once it is applied to its snapshot
(`Batch.after`), and never refuses a write. -/
namespace NestedStore

/-! ## Engines -/

namespace Engine

/-- Whether the engine serves every read. -/
def servesReads (engine : Engine) : Bool :=
  match engine.medium with
  | .memory faults => faults.readsLeft.isNone
  | .log _ => true

/-- Whether the engine takes every write. -/
def takesWrites (engine : Engine) : Bool :=
  match engine.medium with
  | .memory faults => !faults.refuseWrites && faults.writesLeft.isNone
  | .log { closed := false, device := .regular none, .. } => true
  | .log _ => false

/-- The engine lies on something that is as reliable as before. -/
structure AsReliable (before after : Engine) : Prop where
  reads : after.servesReads = before.servesReads
  writes : after.takesWrites = before.takesWrites

theorem serveRead_spec (engine : Engine) :
    engine.serveRead.1.contents = engine.contents ∧ AsReliable engine engine.serveRead.1 ∧
      (engine.serveRead.2 = .ok () ∨
        engine.servesReads = false ∧ ∃ error, engine.serveRead.2 = .error error) := by
  obtain ⟨contents, medium⟩ := engine
  cases medium with
  | log log => exact ⟨rfl, ⟨rfl, rfl⟩, .inl rfl⟩
  | memory faults =>
    obtain ⟨refuse, writesLeft, refused, readsLeft, moves, failFlush⟩ := faults
    cases readsLeft with
    | none => exact ⟨rfl, ⟨rfl, rfl⟩, .inl rfl⟩
    | some spare =>
      cases spare with
      | zero => exact ⟨rfl, ⟨rfl, rfl⟩, .inr ⟨rfl, _, rfl⟩⟩
      | succ spare => exact ⟨rfl, ⟨rfl, rfl⟩, .inl rfl⟩

theorem serveRead_eq {engine : Engine} (h : engine.servesReads = true) :
    engine.serveRead.1 = engine := by
  obtain ⟨contents, faults | log⟩ := engine
  · obtain ⟨refuse, writesLeft, refused, readsLeft, moves, failFlush⟩ := faults
    cases readsLeft with
    | none => rfl
    | some spare => cases h
  · rfl

/-- The contents after a batch that was taken; one without operations is not counted. -/
def taken (batch : WriteBatch) (contents : Contents) : Contents :=
  if batch.isEmpty then contents else contents.apply batch

/-- A write to a log that is not closed and lies on a device without a limit. -/
theorem writeLog_done (engine : Engine) {log : OpenLog} {batch : WriteBatch}
    (hc : log.closed = false) (he : batch.isEmpty = false) :
    engine.writeLog batch .healthy log =
      (⟨engine.contents.apply batch,
        .log { log with file := log.file.write (Log.record batch) }⟩, .ok (), []) := by
  have appended : log.file.append (Log.record batch) log.options.syncOnWrite .healthy =
      (log.file.write (Log.record batch), .done) := by
    cases log.options.syncOnWrite <;> rfl
  simp [writeLog, hc, he, OpenLog.append, appended]

theorem append_events (log : OpenLog) (record : Bytes) (outcomes : Log.AppendOutcomes) :
    handedOutIn (log.append record outcomes).2.2 = 0 := by
  unfold OpenLog.append
  split <;> rfl

theorem append_device (log : OpenLog) (record : Bytes) (outcomes : Log.AppendOutcomes) :
    (log.append record outcomes).1.device = log.device := by
  unfold OpenLog.append
  split <;> rfl

theorem takesWrites_log {contents : Contents} {log : OpenLog}
    (h : log.closed = true ∨ log.device ≠ .regular none) :
    takesWrites ⟨contents, .log log⟩ = false := by
  unfold takesWrites
  split
  · next hm => cases hm
  · next hm =>
    cases hm
    rcases h with h | h
    · cases h
    · exact absurd rfl h
  · rfl

/-- What a call of an engine leaves: the contents with the batch in them, or as they were. -/
structure Written (before : Engine) (batch : WriteBatch)
    (answer : Engine × Except StorageError Unit × List Event) : Prop where
  reliable : AsReliable before answer.1
  events : handedOutIn answer.2.2 = 0
  outcome :
    answer.2.1 = .ok () ∧ answer.1.contents = taken batch before.contents ∨
      before.takesWrites = false ∧ answer.1.contents = before.contents ∧
        ∃ error, answer.2.1 = .error error

theorem written_log (contents : Contents) (log : OpenLog) (batch : WriteBatch) :
    Written ⟨contents, .log log⟩ batch (Engine.write batch ⟨contents, .log log⟩) := by
  cases hc : log.closed with
  | true =>
    have same : Engine.write batch ⟨contents, .log log⟩ =
        (⟨contents, .log log⟩, .error .closed, []) := by simp [write, writeLog, hc]
    rw [same]
    exact ⟨⟨rfl, rfl⟩, rfl, .inr ⟨takesWrites_log (.inl hc), rfl, _, rfl⟩⟩
  | false =>
    cases he : batch.isEmpty with
    | true =>
      have same : Engine.write batch ⟨contents, .log log⟩ = (⟨contents, .log log⟩, .ok (), []) := by
        simp [write, writeLog, hc, he]
      rw [same]
      exact ⟨⟨rfl, rfl⟩, rfl, .inl ⟨rfl, by simp [taken, he]⟩⟩
    | false =>
      by_cases hd : log.device = .regular none
      · have done := writeLog_done ⟨contents, .log log⟩ hc he
        have same : Engine.write batch ⟨contents, .log log⟩ =
            Engine.writeLog batch .healthy ⟨contents, .log log⟩ log := by
          simp [write, hd, Device.outcomes]
        rw [same, done]
        refine ⟨⟨rfl, ?_⟩, rfl, .inl ⟨rfl, by simp [taken, he]⟩⟩
        obtain ⟨directory, options, file, device, closed⟩ := log
        subst hc hd
        rfl
      · have device := append_device log (Log.record batch)
          (log.device.outcomes log.file (Log.record batch))
        have events := append_events log (Log.record batch)
          (log.device.outcomes log.file (Log.record batch))
        have after : ∀ contents', takesWrites ⟨contents', .log (log.append (Log.record batch)
            (log.device.outcomes log.file (Log.record batch))).1⟩ = false :=
          fun _ => takesWrites_log (.inr (by rw [device]; exact hd))
        have before : takesWrites ⟨contents, .log log⟩ = false := takesWrites_log (.inr hd)
        simp only [write, writeLog, hc, he, Bool.false_eq_true, if_false]
        generalize log.append (Log.record batch)
          (log.device.outcomes log.file (Log.record batch)) = appended at events after
        obtain ⟨log', result, reported⟩ := appended
        cases result with
        | ok _ =>
          exact ⟨⟨rfl, (after _).trans before.symm⟩, events, .inl ⟨rfl, by simp [taken, he]⟩⟩
        | error error =>
          exact ⟨⟨rfl, (after _).trans before.symm⟩, events, .inr ⟨before, rfl, _, rfl⟩⟩

theorem written_memory (contents : Contents) (faults : Faults) (batch : WriteBatch) :
    Written ⟨contents, .memory faults⟩ batch (Engine.write batch ⟨contents, .memory faults⟩) := by
  obtain ⟨refuse, writesLeft, refused, readsLeft, moves, failFlush⟩ := faults
  cases refuse with
  | true => exact ⟨⟨rfl, rfl⟩, rfl, .inr ⟨rfl, rfl, _, rfl⟩⟩
  | false =>
    match writesLeft with
    | none => exact ⟨⟨rfl, rfl⟩, rfl, .inl ⟨rfl, rfl⟩⟩
    | some 0 => exact ⟨⟨rfl, rfl⟩, rfl, .inr ⟨rfl, rfl, _, rfl⟩⟩
    | some (spare + 1) => exact ⟨⟨rfl, rfl⟩, rfl, .inl ⟨rfl, rfl⟩⟩

/-- An engine takes a batch wholly or not at all. -/
theorem write_spec (engine : Engine) (batch : WriteBatch) :
    Written engine batch (engine.write batch) := by
  obtain ⟨contents, faults | log⟩ := engine
  · exact written_memory contents faults batch
  · exact written_log contents log batch

/-- Serving a read changes nothing about the moves that cursors get. -/
theorem cursorMoves_serveRead (engine : Engine) :
    engine.serveRead.1.faults.cursorMoves = engine.faults.cursorMoves := by
  obtain ⟨contents, faults | log⟩ := engine
  · obtain ⟨refuse, writesLeft, refused, readsLeft, moves, failFlush⟩ := faults
    match readsLeft with
    | none | some 0 | some (_ + 1) => rfl
  · rfl

/-- Nor does taking a batch, or refusing it. -/
theorem cursorMoves_write (engine : Engine) (batch : WriteBatch) :
    (engine.write batch).1.faults.cursorMoves = engine.faults.cursorMoves := by
  obtain ⟨contents, faults | log⟩ := engine
  · obtain ⟨refuse, writesLeft, refused, readsLeft, moves, failFlush⟩ := faults
    match refuse, writesLeft with
    | true, _ | false, none | false, some 0 | false, some (_ + 1) => rfl
  · unfold write writeLog
    dsimp only
    repeat' split
    all_goals rfl

end Engine

/-! ## Workspaces -/

namespace Workspace

/-- A read that is served goes on; one that fails ends with the error of the engine. -/
theorem ends_bind_serveRead {α : Type} {f : Unit → Action Workspace α} {s t : Workspace}
    {result : Except StoreError α} (h : Ends (serveRead >>= f) s result t) :
    Ends (f ()) { s with engine := s.engine.serveRead.1 } result t ∨
      s.engine.servesReads = false ∧ t = { s with engine := s.engine.serveRead.1 } ∧
        ∃ error, result = .error (.storage error) := by
  obtain ⟨-, -, served⟩ := s.engine.serveRead_spec
  unfold serveRead at h
  rw [bind_assoc] at h
  replace h := h.bind_get
  generalize s.engine.serveRead = answer at h served ⊢
  obtain ⟨engine, result'⟩ := answer
  rw [bind_assoc] at h
  replace h := h.bind_set
  rcases served with rfl | ⟨fails, error, rfl⟩
  · exact .inl h
  · obtain ⟨rfl, rfl⟩ := Ends.throw h
    exact .inr ⟨fails, rfl, error, rfl⟩

theorem ends_write {s t : Workspace} {batch : WriteBatch} {result : Except StoreError Unit}
    (h : Ends (write batch) s result t) :
    t = { s with
        engine := (s.engine.write batch).1
        events := (s.engine.write batch).2.2.reverse ++ s.events } ∧
      result = (s.engine.write batch).2.1.mapError .storage := by
  unfold write at h
  replace h := h.bind_get
  generalize s.engine.write batch = answer at h ⊢
  obtain ⟨engine, written, events⟩ := answer
  replace h := h.bind_set
  cases written with
  | ok _ =>
    obtain ⟨rfl, rfl⟩ := h.pure
    exact ⟨rfl, rfl⟩
  | error error =>
    obtain ⟨rfl, rfl⟩ := h.throw
    exact ⟨rfl, rfl⟩

/-- The setting of a workspace. -/
def setting (space : Workspace) : Setting :=
  ⟨space.ledger, none, !space.engine.servesReads, !space.engine.takesWrites⟩

theorem ends_read {s t : Workspace} {key : Bytes} {result : Except StoreError (Option Bytes)}
    (h : Ends (read key) s result t) :
    t = { s with engine := s.engine.serveRead.1 } ∧
      (result = .ok s.engine.contents.cells[key]? ∨
        s.engine.servesReads = false ∧ ∃ error, result = .error (.storage error)) := by
  obtain ⟨contents_eq, -, -⟩ := s.engine.serveRead_spec
  rcases ends_bind_serveRead h with h | ⟨fails, rfl, failed⟩
  · obtain ⟨rfl, rfl⟩ := h.bind_get.pure
    exact ⟨rfl, .inl (by rw [contents_eq])⟩
  · exact ⟨rfl, .inr ⟨fails, failed⟩⟩

theorem setting_serveRead (space : Workspace) :
    setting { space with engine := space.engine.serveRead.1 } = space.setting := by
  obtain ⟨-, reliable, -⟩ := space.engine.serveRead_spec
  rw [setting, reliable.reads, reliable.writes]
  rfl

theorem ends_writeOp {s t : Workspace} {op : BatchOp} {result : Except StoreError Unit}
    (h : Ends (write ⟨[op]⟩) s result t) :
    handedOutIn t.events = handedOutIn s.events ∧ t.setting = s.setting ∧
      (result = .ok () ∧ t.engine.contents.cells = op.applyTo s.engine.contents.cells ∨
        s.setting.writesFail = true ∧ t.engine.contents.cells = s.engine.contents.cells ∧
          ∃ error, result = .error (.storage error)) := by
  obtain ⟨rfl, rfl⟩ := ends_write h
  obtain ⟨reliable, events, outcome⟩ := s.engine.write_spec ⟨[op]⟩
  refine ⟨?_, ?_, ?_⟩
  · rw [handedOutIn_append, handedOutIn_reverse, events, Nat.zero_add]
  · rw [setting, reliable.reads, reliable.writes]
    rfl
  · rcases outcome with ⟨ok, contents⟩ | ⟨fails, contents, error, failed⟩
    · refine .inl ⟨by rw [ok]; rfl, ?_⟩
      rw [contents]
      rfl
    · refine .inr ⟨by rw [setting, fails]; rfl, by rw [contents], error, by rw [failed]; rfl⟩

instance : LawfulSurface Workspace where
  Sound _ := True
  view space := space.engine.contents.cells
  handedOut space := handedOutIn space.events
  setting := setting
  setting_ledger _ := rfl
  setting_batch? _ := rfl
  ends_get := by
    intro s t key result _ h
    obtain ⟨rfl, seen⟩ := ends_read h
    obtain ⟨contents_eq, -, -⟩ := s.engine.serveRead_spec
    refine ⟨trivial, by rw [contents_eq], rfl, s.setting_serveRead, ?_⟩
    rcases seen with seen | ⟨fails, failed⟩
    · exact .inl seen
    · exact .inr ⟨by rw [setting, fails]; rfl, failed⟩
  ends_perform := by
    intro s t op result _ h
    refine ⟨trivial, ends_writeOp ?_⟩
    cases op <;> exact h
  sound_note event _ := ⟨trivial, rfl, handedOutIn_cons event _, rfl⟩

/-- No program changes what moves cursors get. -/
theorem cursorMoves_of_run {s t : Workspace} {effects : List Effect} (h : Run s effects t) :
    t.engine.faults.cursorMoves = s.engine.faults.cursorMoves := by
  have performed {s t : Workspace} {op : BatchOp} {result : Except StoreError Unit}
      (h : Ends (Surface.perform op) s result t) :
      t.engine.faults.cursorMoves = s.engine.faults.cursorMoves := by
    have whole : Ends (write ⟨[op]⟩) s result t := by cases op <;> exact h
    obtain ⟨rfl, _⟩ := ends_write whole
    exact s.engine.cursorMoves_write ⟨[op]⟩
  induction h with
  | done s => rfl
  | @read s t u key result effects read _ ih =>
    obtain ⟨rfl, _⟩ := ends_read read
    exact ih.trans s.engine.cursorMoves_serveRead
  | write h _ ih | refused h _ ih => exact ih.trans (performed h)
  | note event _ ih => exact ih

end Workspace

/-! ## Batches -/

namespace Snapshot

theorem ends_read {snapshot : Snapshot} {s t : Workspace} {key : Bytes}
    {result : Except StoreError (Option Bytes)} (h : Ends (snapshot.read key) s result t) :
    t = { s with engine := s.engine.serveRead.1 } ∧
      (result = .ok snapshot.contents.cells[key]? ∨
        s.engine.servesReads = false ∧ ∃ error, result = .error (.storage error)) := by
  rcases Workspace.ends_bind_serveRead h with h | ⟨fails, rfl, failed⟩
  · obtain ⟨rfl, rfl⟩ := h.pure
    exact ⟨rfl, .inl rfl⟩
  · exact ⟨rfl, .inr ⟨fails, failed⟩⟩

end Snapshot

namespace Batch

/-- The cells once the batch is applied to its snapshot. -/
def after (batch : Batch) : KeySpace := batch.writes.applyTo batch.snapshot.contents.cells

theorem cells_taken (batch : Batch) :
    (Engine.taken batch.writes batch.snapshot.contents).cells = batch.after := by
  unfold Engine.taken
  split
  · next nothing =>
    rw [Batch.after, WriteBatch.applyTo, List.isEmpty_iff.mp nothing]
    rfl
  · rfl

/-- The writes by key are those in order. -/
def Coherent (batch : Batch) : Prop :=
  ∀ key : Bytes, batch.after[key]? = (batch.pending[key]?).getD batch.snapshot.contents.cells[key]?

theorem coherent_new (id : BatchId) (snapshot : Snapshot) : (new id snapshot).Coherent := by
  intro key
  simp [after, new, writes, WriteBatch.applyTo]

theorem after_add (batch : Batch) (op : BatchOp) : (batch.add op).after = op.applyTo batch.after := by
  simp [after, add, writes, WriteBatch.applyTo]

theorem Coherent.add {batch : Batch} (h : batch.Coherent) (op : BatchOp) :
    (batch.add op).Coherent := by
  intro key
  rw [after_add, BatchOp.getElem?_applyTo]
  by_cases same : op.key = key
  · rw [if_pos same, Batch.add, ← same, Std.ExtTreeMap.getElem?_insert_self, Option.getD_some]
  · rw [if_neg same, h key, Batch.add, Std.ExtTreeMap.getElem?_insert,
      if_neg (by rwa [Std.LawfulEqCmp.compare_eq_iff_eq])]

/-- A read goes to the writes of the batch, and to its snapshot where there is none. -/
theorem ends_read {batch : Batch} {s t : Workspace} {key : Bytes}
    {result : Except StoreError (Option Bytes)} (h : Ends (batch.read key) s result t) :
    (t = s ∨ t = { s with engine := s.engine.serveRead.1 }) ∧
      (batch.Coherent → result = .ok batch.after[key]? ∨ batch.pending[key]? = none ∧
        s.engine.servesReads = false ∧ ∃ error, result = .error (.storage error)) := by
  unfold Batch.read at h
  cases hp : batch.pending[key]? with
  | some value? =>
    rw [hp] at h
    obtain ⟨rfl, rfl⟩ := h.pure
    exact ⟨.inl rfl, fun coherent => .inl (by rw [coherent key, hp]; rfl)⟩
  | none =>
    rw [hp] at h
    obtain ⟨rfl, read⟩ := Snapshot.ends_read h
    refine ⟨.inr rfl, fun coherent => ?_⟩
    rw [coherent key, hp]
    exact read.imp_right fun failed => ⟨rfl, failed⟩

end Batch

namespace Batched

/-- The setting of a batch. -/
def setting (batched : Batched) : Setting :=
  ⟨batched.space.ledger, some batched.batch.id, !batched.space.engine.servesReads, false⟩

theorem ends_get_space {s t : Batched} {key : Bytes} {result : Except StoreError (Option Bytes)}
    (h : Ends (Surface.get key) s result t) :
    ∃ space, Ends (s.batch.read key) s.space result space ∧ t = { s with space } := by
  cases h
  exact ⟨_, rfl, rfl⟩

theorem ends_get {s t : Batched} {key : Bytes} {result : Except StoreError (Option Bytes)}
    (h : Ends (Surface.get key) s result t) :
    (t = s ∨ t = { s with space := { s.space with engine := s.space.engine.serveRead.1 } }) ∧
      (s.batch.Coherent → result = .ok s.batch.after[key]? ∨
        s.space.engine.servesReads = false ∧ ∃ error, result = .error (.storage error)) := by
  obtain ⟨space, seen, rfl⟩ := ends_get_space h
  obtain ⟨moved, read⟩ := Batch.ends_read seen
  refine ⟨moved.imp (fun same => by rw [same]) (fun same => by rw [same]), fun coherent => ?_⟩
  exact (read coherent).imp_right fun ⟨_, failed⟩ => failed

instance : LawfulSurface Batched where
  Sound batched := batched.batch.Coherent
  view batched := batched.batch.after
  handedOut batched := handedOutIn batched.space.events
  setting := setting
  setting_ledger _ := rfl
  setting_batch? _ := rfl
  ends_get := by
    intro s t key result hs h
    obtain ⟨moved, seen⟩ := ends_get h
    replace seen := seen hs
    obtain ⟨-, reliable, -⟩ := s.space.engine.serveRead_spec
    have failed : s.space.engine.servesReads = false → s.setting.readsFail = true :=
      fun fails => by rw [setting, fails]; rfl
    refine ⟨?_, ?_, ?_, ?_, seen.imp_right fun ⟨fails, error⟩ => ⟨failed fails, error⟩⟩ <;>
      rcases moved with rfl | rfl
    any_goals rfl
    any_goals exact hs
    rw [setting, reliable.reads]
    rfl
  ends_perform := by
    intro s t op result hs h
    obtain ⟨rfl, rfl⟩ : result = .ok () ∧ t = { s with batch := s.batch.add op } := by
      cases op <;> cases h <;> exact ⟨rfl, rfl⟩
    exact ⟨hs.add op, rfl, rfl, .inl ⟨rfl, s.batch.after_add op⟩⟩
  sound_note event hs := ⟨hs, rfl, handedOutIn_cons event _, rfl⟩

/-- What work on a batch leaves alone. -/
structure Keeps (s t : Batched) : Prop where
  id : t.batch.id = s.batch.id
  database : t.batch.database = s.batch.database
  snapshot : t.batch.snapshot = s.batch.snapshot
  contents : t.space.engine.contents = s.space.engine.contents
  engine : s.space.engine.servesReads = true → t.space.engine = s.space.engine

theorem Keeps.trans {s t u : Batched} (h : Keeps s t) (later : Keeps t u) : Keeps s u where
  id := later.id.trans h.id
  database := later.database.trans h.database
  snapshot := later.snapshot.trans h.snapshot
  contents := later.contents.trans h.contents
  engine working := by
    have same := h.engine working
    rw [← same] at working
    exact (later.engine working).trans same

/-- Nothing is written before the batch is applied. -/
theorem keeps_of_run {s t : Batched} {effects : List Effect} (h : Run s effects t) : Keeps s t := by
  have added {s t : Batched} {op : BatchOp} {result : Except StoreError Unit}
      (h : Ends (Surface.perform op) s result t) : Keeps s t := by
    cases op <;> cases h <;> exact ⟨rfl, rfl, rfl, rfl, fun _ => rfl⟩
  induction h with
  | done s => exact ⟨rfl, rfl, rfl, rfl, fun _ => rfl⟩
  | @read s t u key result effects h _ ih =>
    refine Keeps.trans ?_ ih
    rcases (ends_get h).1 with rfl | rfl
    · exact ⟨rfl, rfl, rfl, rfl, fun _ => rfl⟩
    · obtain ⟨same, -, -⟩ := s.space.engine.serveRead_spec
      exact ⟨rfl, rfl, rfl, same, Engine.serveRead_eq⟩
  | write h _ ih => exact (added h).trans ih
  | refused h _ ih => exact (added h).trans ih
  | @note s u effects event _ ih =>
    have noted : Keeps s (Surface.note event s) := ⟨rfl, rfl, rfl, rfl, fun _ => rfl⟩
    exact noted.trans ih

end Batched

end NestedStore
