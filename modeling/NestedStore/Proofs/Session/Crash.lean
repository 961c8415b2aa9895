import NestedStore.Proofs.Log.Replay
import NestedStore.Proofs.Session.Orderly
import NestedStore.Proofs.Store.Opening
import NestedStore.Proofs.Surface.Journal

/-! # What a crash leaves behind

What calls write to the engine is known by name (`Session.writesIn`). A session on a healthy log
leaves one record for each of these writes, and after every one of them the cells are consistent but
for one count (`Journaled`): only between the two writes of an entry is a count late, and a batch is
one write. So a log that is cut anywhere is opened again, and gives back the cells after the first
of the writes, which verification finds nothing else wrong with. -/
namespace NestedStore

namespace Session

/-! ## What is written -/

/-- The batches that a call writes: one for each write that a mutation makes at once, and what a
batch holds when it is applied. There is nothing to write of an empty batch. -/
def writes (session : Session) : Call → List WriteBatch
  | .mutate false mutation => (writesOf (session.journal false mutation)).map .single
  | .apply => (session.batch?.map Batch.writes).toList.filter fun batch => !batch.isEmpty
  | _ => []

/-- The batches that calls write, one call after the other. -/
def writesIn : Session → List Call → List WriteBatch
  | _, [] => []
  | session, call :: calls => session.writes call ++ (session.perform call).2.writesIn calls

theorem writesIn_append (session : Session) (before later : List Call) :
    session.writesIn (before ++ later) =
      session.writesIn before ++ (session.run before).2.writesIn later := by
  induction before generalizing session with
  | nil => rfl
  | cons call before ih =>
    rw [List.cons_append, writesIn, ih, writesIn, List.append_assoc, run_cons]

/-- Calls that do not mutate, nor apply a batch, leave the engine as it is, if its reads work. -/
theorem Performs.engine_still {session next : Session} {call : Call} {answer : Answer}
    (performs : session.Performs call answer next) (hs : session.Sound)
    (working : session.space.engine.servesReads = true)
    (noMutation : ∀ batched mutation, call ≠ .mutate batched mutation) (noApply : call ≠ .apply)
    (undisturbed : ∀ medium, call ≠ .befall medium) :
    next.space.engine = session.space.engine := by
  cases performs with
  | refused | illNamed | bytes | newMap | clone | snap => rfl
  | stage _ _ _ looked | found _ _ _ looked | nothing looked => exact looked.engine hs working
  | mutate => exact absurd rfl (noMutation _ _)
  | openBatch free =>
    have opened := congrArg Database.engine (Store.database_openBatch hs.present)
    exact opened
  | apply => exact absurd rfl noApply
  | @discard batch held =>
    obtain ⟨_, mine⟩ := hs.coherent held
    have unlocked := congrArg Database.engine (Store.database_unlock hs.present)
    rw [space, Store.discard, mine]
    exact unlocked
  | befall => exact absurd rfl (undisturbed _)

/-! ## What is in the log -/

/-- Every write is in the log, and left the cells consistent but for `slack` counts. -/
structure Journaled (session : Session) (slack : Nat) (writes : List WriteBatch) : Prop where
  logs : session.space.engine.Logs writes
  settled : ∀ count, ∃ owed : List InstanceId, owed.length ≤ slack ∧
    Consistent (Contents.ofBatches (writes.take count)).cells owed

variable {session next : Session} {slack : Nat} {writes : List WriteBatch}

/-- Nothing that was journaled is lost while the engine stays as it is. -/
theorem Journaled.idle (h : session.Journaled slack writes)
    (engine : next.space.engine = session.space.engine) : next.Journaled slack writes :=
  ⟨engine ▸ h.logs, h.settled⟩

theorem Journaled.writesFail (h : session.Journaled slack writes) :
    session.setting.writesFail = false := by
  unfold setting
  split
  · rfl
  · rw [Workspace.setting, h.logs.takesWrites]
    rfl

/-- A batch that is written leaves cells that are as consistent as all before. -/
theorem Journaled.write (h : session.Journaled slack writes) {batch : WriteBatch}
    {owed : List InstanceId} (within : owed.length ≤ slack)
    (written : next.space.engine = (session.space.engine.write batch).1)
    (consistent : Consistent next.contents.cells owed) :
    next.Journaled slack (writes ++ [batch].filter fun batch => !batch.isEmpty) := by
  cases nothing : batch.isEmpty with
  | true =>
    rw [List.filter_cons_of_neg (by simp [nothing]), List.filter_nil, List.append_nil]
    exact h.idle (written.trans (h.logs.write_empty nothing))
  | false =>
    have logs : next.space.engine.Logs (writes ++ [batch]) := written ▸ h.logs.write nothing
    rw [List.filter_cons_of_pos (by simp [nothing]), List.filter_nil]
    refine ⟨logs, fun count => ?_⟩
    by_cases before : count ≤ writes.length
    · rw [List.take_append_of_le_length before]
      exact h.settled count
    · refine ⟨owed, within, ?_⟩
      rw [List.take_of_length_le (by rw [List.length_append, List.length_singleton]; omega),
        ← logs.contents]
      exact consistent

/-- A program that works at once leaves at most one count late between two of its writes. -/
theorem Journaled.steps (h : session.Journaled slack writes) {space : Workspace}
    {effects : List Effect} {own : InstanceId → Prop} {late : Option InstanceId}
    (reached : Reached session.space effects space)
    (steps : Steps own session.contents.cells none effects late)
    (consistent : Consistent session.contents.cells []) (atMostOne : 1 ≤ slack)
    (engine : next.space.engine = space.engine) :
    next.Journaled slack (writes ++ (writesOf effects).map .single) := by
  have contents : session.contents = .ofBatches writes := h.logs.contents
  refine ⟨?_, fun count => ?_⟩
  · rw [engine]
    exact Workspace.logs_of_run reached.run h.logs
  · rcases cells_take writes effects count with ⟨count', same⟩ | ⟨first, later, split, cells⟩
    · rw [same]
      exact h.settled count'
    · obtain ⟨mid, between⟩ := steps.during consistent split
      refine ⟨mid.toList ++ [], ?_, ?_⟩
      · cases mid <;> simp [atMostOne]
      · rw [cells, ← contents]
        exact between

/-- A mutation that is made at once writes its batches one by one; one that is left to the open
batch writes nothing yet. -/
theorem Journaled.mutates (h : session.Journaled slack writes) (orderly : session.Orderly [])
    (hs : session.Sound) {batched : Bool} {mutation : Mutation} {answer : Answer}
    (mutates : session.Mutates batched mutation (session.journal batched mutation) answer next)
    (room : handedOutIn next.store.events + 1 < UInt64.size)
    (careful : 1 ≤ slack ∨ batched = true) :
    next.Journaled slack (writes ++ session.writes (.mutate batched mutation)) := by
  obtain ⟨rfl, nothing⟩ | ⟨mid, own, result, wrote, space, behaves⟩ := mutates.behaves orderly room
  · have none : next.writes (.mutate batched mutation) = [] := by
      cases batched with
      | true => rfl
      | false => rw [Session.writes, nothing]; rfl
    rw [none, List.append_nil]
    exact h
  · generalize effects_eq : session.journal batched mutation = effects at wrote behaves
    cases wrote with
    | @atOnce after free reached =>
      obtain ⟨late, steps, _⟩ := behaves
      rw [view_atOnce free] at steps
      have atMostOne : 1 ≤ slack := careful.resolve_right Bool.false_ne_true
      rw [Session.writes, effects_eq]
      refine h.steps reached steps orderly.consistent atMostOne ?_
      rw [space, space_withWorkspace hs]
    | later held reached =>
      have none : session.writes (.mutate true mutation) = [] := rfl
      have after := space.trans (Store.workspace_withWorkspace hs.present _)
      rw [none, List.append_nil]
      exact h.idle ((congrArg Workspace.engine after).trans
        ((Batched.keeps_of_run reached.run).engine h.logs.servesReads))

/-- A call adds to the journal what it writes. -/
theorem Journaled.perform (h : session.Journaled slack writes) (orderly : session.Orderly [])
    (hs : session.Sound) {call : Call}
    (room : handedOutIn (session.perform call).2.store.events + 1 < UInt64.size)
    (undisturbed : ∀ medium, call ≠ .befall medium)
    (careful : 1 ≤ slack ∨ ∀ mutation, call ≠ .mutate false mutation) :
    (session.perform call).2.Orderly [] ∧
      (session.perform call).2.Journaled slack (writes ++ session.writes call) := by
  have performs := perform_spec hs call
  obtain ⟨owed, orderly', within⟩ := orderly.performs hs performs room
  obtain rfl : owed = [] := by
    rw [h.writesFail, Bool.false_and] at within
    exact List.length_eq_zero_iff.mp (Nat.le_zero.mp within)
  refine ⟨orderly', ?_⟩
  have still (noMutation : ∀ batched mutation, call ≠ .mutate batched mutation)
      (noApply : call ≠ .apply) (nothing : session.writes call = []) :
      (session.perform call).2.Journaled slack (writes ++ session.writes call) := by
    rw [nothing, List.append_nil]
    exact h.idle (performs.engine_still hs h.logs.servesReads noMutation noApply undisturbed)
  cases call with
  | mutate batched mutation =>
    refine h.mutates orderly hs (mutate_spec hs) room (careful.imp_right fun careful => ?_)
    cases batched with
    | true => rfl
    | false => exact absurd rfl (careful mutation)
  | apply =>
    cases held : session.batch? with
    | none =>
      have same : (session.perform .apply).2 = session := by simp [Session.perform, held]
      rw [same, Session.writes, held, Option.map_none, Option.toList_none, List.filter_nil,
        List.append_nil]
      exact h
    | some batch =>
      obtain ⟨result, space, ends, same⟩ := perform_apply hs.ownBatch held
      obtain ⟨engine, _⟩ := Batch.apply_spec ends
      have unlocked := congrArg Database.engine
        (Store.database_unlock_withWorkspace hs.present space)
      rw [Session.writes, held, Option.map_some, Option.toList_some]
      rw [same] at orderly' ⊢
      exact h.write (Nat.zero_le _) (unlocked.trans engine) orderly'.consistent
  | bytes | newMap | clone | stage | openBatch | discard | snap | getItem | getEntry | befall =>
    exact still (by simp) (by simp) rfl

theorem Journaled.run (h : session.Journaled slack writes) (orderly : session.Orderly [])
    (hs : session.Sound) {calls : List Call} (undisturbed : ∀ medium, .befall medium ∉ calls)
    (careful : 1 ≤ slack ∨ ∀ mutation, .mutate false mutation ∉ calls)
    (room : handedOutIn (session.run calls).2.store.events + 1 < UInt64.size) :
    (session.run calls).2.Journaled slack (writes ++ session.writesIn calls) := by
  induction calls generalizing session writes with
  | nil => exact (List.append_nil writes).symm ▸ h
  | cons call calls ih =>
    rw [run_cons] at room ⊢
    dsimp only at room ⊢
    have sound := (perform_spec hs call).sound hs
    have before := handedOut_le_run sound calls
    obtain ⟨orderly', journaled⟩ := h.perform orderly hs (by omega)
      (fun medium same => undisturbed medium (same ▸ List.mem_cons_self))
      (careful.imp_right fun careful mutation same =>
        careful mutation (same ▸ List.mem_cons_self))
    rw [writesIn, ← List.append_assoc]
    exact ih journaled orderly' sound
      (fun medium member => undisturbed medium (List.mem_cons_of_mem _ member))
      (careful.imp_right fun careful mutation member =>
        careful mutation (List.mem_cons_of_mem _ member)) room

/-! ## Opened, cut and opened again -/

/-- A database that was opened on an empty log has a journal that is empty. -/
theorem journaled_start {store : Store} {database : DatabaseId} {path : String} {home : Home}
    {config : Config} {disk : Disk} (unlimited : disk.limit = none)
    (starts : store.database database = Store.startingFrom path home config disk)
    (fresh : (store.database database).engine.contents = .empty) :
    (start store database).Journaled slack [] := by
  rw [starts] at fresh
  have noBatch : (Log.replay ((disk.content? home.log).getD [])).batches = [] := by
    have counted := congrArg Contents.sequence fresh
    rw [Store.startingFrom, Database.ofLog, sequence_ofBatches] at counted
    exact List.length_eq_zero_iff.mp counted
  have valid := Log.whole_take_valid ((disk.content? home.log).getD [])
  rw [noBatch] at valid
  have engine : (start store database).space.engine =
      ⟨.empty, .log ⟨path, config.logOptions, .atEnd [], .regular none, false⟩⟩ := by
    refine (congrArg Database.engine starts).trans ?_
    rw [Store.startingFrom, Database.ofLog, noBatch, valid.eq_nil, unlimited]
    rfl
  refine ⟨engine ▸ ⟨rfl, _, _, rfl⟩, fun count => ⟨[], Nat.zero_le _, ?_⟩⟩
  rw [List.take_nil]
  exact .empty

/-- The log of a session that is closed can be cut anywhere, and gives back its first writes. -/
theorem Journaled.reopens (h : session.Journaled slack writes) (hs : session.Sound)
    (only : session.store.databases.size = 1) {path : String} {config : Config} {home : Home}
    (housed : Housed session.store.disk path config home)
    (lies : (session.store.database session.database).home? = some home)
    (unlimited : session.store.disk.limit = none) (short : ∀ batch ∈ writes, batch.Short)
    (cut : Nat) :
    ∃ reopened recovered,
      (session.store.release session.database).Reopens path config cut reopened recovered ∧
      (recovered.database reopened).engine.contents =
        .ofBatches (writes.take (Log.recordsWithin writes cut)) := by
  obtain ⟨directory, options, medium⟩ := h.logs.medium
  have ongoing : (session.store.database session.database).logFile? =
      some (.atEnd (writes.flatMap Log.record)) := by
    have medium : (session.store.database session.database).engine.medium = _ := medium
    rw [Database.logFile?, Engine.log?, medium]
  have disk := Store.disk_release lies ongoing
  have isFile := housed.log.isFile
  have held := Disk.content?_rewrite isFile (writes.flatMap Log.record)
  have still := housed.extend (Disk.extends_rewrite isFile (writes.flatMap Log.record))
  have fits : (session.store.disk.rewrite home.log (writes.flatMap Log.record)).limit = none :=
    unlimited
  have idle := Store.idle_release only hs.present
  have content : (Log.File.atEnd (writes.flatMap Log.record)).content =
    writes.flatMap Log.record := rfl
  rw [content] at disk
  rw [← disk] at held still fits
  obtain ⟨recovered, reopens, contents⟩ := still.reopens idle fits held cut
  exact ⟨_, recovered, reopens, by rw [contents, Log.replay_take_records short]⟩

/-- **Wherever the log is cut**, the directory is opened again and holds what the first writes of
the program left, those whose records end before the cut. After every call, too, the engine held
what had been written by then, and the log its records. Verification finds at most one count behind
by one entry, and nothing when the program made its changes through batches. -/
theorem verify_after_cut (disk : Disk) (path : String) (config : Config) (store : Store)
    (database : DatabaseId) (calls : List Call)
    (opened : Returns (Store.openDirectory path config) { Store.empty with disk } (.ok database)
      store)
    (fresh : (store.database database).engine.contents = .empty)
    (unlimited : store.disk.limit = none) (undisturbed : ∀ medium, .befall medium ∉ calls)
    (short : ∀ batch ∈ (start store database).writesIn calls, batch.Short)
    (room : handedOutIn ((start store database).run calls).2.store.events < UInt64.size - 1) :
    let writes := (start store database).writesIn calls
    (∀ before later, calls = before ++ later →
      ((start store database).run before).2.space.engine.Logs
          ((start store database).writesIn before) ∧
        writes = (start store database).writesIn before ++
          ((start store database).run before).2.writesIn later) ∧
      ∀ cut, ∃ count reopened recovered,
        ((writes.take count).flatMap Log.record).length ≤ cut ∧
        (count < writes.length →
          cut < ((writes.take (count + 1)).flatMap Log.record).length) ∧
        (((start store database).run calls).2.store.release database).Reopens path config cut
          reopened recovered ∧
        (recovered.database reopened).engine.contents = .ofBatches (writes.take count) ∧
        ∀ space : Workspace, space.engine.ReadsWork → ∃ report : Verification,
          ((verify (recovered.snapshot reopened)).run.run space).1 = .ok report ∧
          (report.problems = [] ∨ ∃ id stored,
            report.problems = [.countMismatch id stored (stored.toNat + 1)]) ∧
          ((∀ mutation, .mutate false mutation ∉ calls) → report.problems = []) := by
  intro writes
  obtain ⟨home, disk, events, housed, rfl, made⟩ := Store.openDirectory_spec opened
  have only : store.databases.size = 1 := by rw [made]; rfl
  have starts : store.database 0 = Store.startingFrom path home config disk := by rw [made]; rfl
  have lies : store.disk = disk := by rw [made]
  obtain ⟨slack, atMostOne, careful, strict⟩ : ∃ slack, slack ≤ 1 ∧
      (1 ≤ slack ∨ ∀ mutation, .mutate false mutation ∉ calls) ∧
      ((∀ mutation, .mutate false mutation ∉ calls) → slack = 0) := by
    by_cases careful : ∀ mutation, .mutate false mutation ∉ calls
    · exact ⟨0, Nat.zero_le _, .inr careful, fun _ => rfl⟩
    · exact ⟨1, Nat.le_refl _, .inl (Nat.le_refl _), fun other => absurd other careful⟩
  have sound : (start store 0).Sound := sound_start (only.symm ▸ Nat.zero_lt_one)
  have nothing : (start store 0).Journaled slack [] :=
    journaled_start (lies ▸ unlimited) starts fresh
  have within : handedOutIn ((start store 0).run calls).2.store.events + 1 < UInt64.size :=
    Nat.add_lt_of_lt_sub room
  have after (before later : List Call) (split : calls = before ++ later) :
      ((start store 0).run before).2.Journaled slack ((start store 0).writesIn before) := by
    have more := handedOut_le_run (sound_run sound before) later
    rw [← (run_append _ before later).1, ← split] at more
    subst split
    exact nothing.run (orderly_start fresh) sound
      (fun medium member => undisturbed medium (List.mem_append_left later member))
      (careful.imp_right fun careful mutation member =>
        careful mutation (List.mem_append_left later member)) (by omega)
  refine ⟨fun before later split => ⟨(after before later split).logs, ?_⟩, fun cut => ?_⟩
  · rw [← writesIn_append, ← split]
  have journaled := after calls [] (List.append_nil calls).symm
  have stays := stays_run sound calls
  have ends := database_run sound calls
  obtain ⟨reopened, recovered, reopens, contents⟩ :=
    journaled.reopens (sound_run sound calls) (stays.size.trans only) (stays.disk ▸ lies ▸ housed)
      (stays.home.trans (congrArg Database.home? starts)) (stays.disk ▸ unlimited) short cut
  rw [ends] at reopens
  obtain ⟨before, behind⟩ := Log.recordsWithin_spec writes cut
  refine ⟨_, reopened, recovered, before, behind, reopens, contents, fun space working => ?_⟩
  obtain ⟨owed, within, settled⟩ := journaled.settled (Log.recordsWithin writes cut)
  have consistent : Consistent (recovered.snapshot reopened).contents.cells owed :=
    (congrArg (Consistent ·.cells owed) contents).mpr settled
  obtain ⟨report, reported, found⟩ := verify_consistent working consistent
  refine ⟨report, reported, (found.mono (Nat.le_trans within atMostOne)).single, fun batched => ?_⟩
  rw [strict batched] at within
  exact (found.mono within).clean

/-- A map with a map staged in it is put and filled, and then filled on through a batch. -/
def fillingCalls : List Call :=
  [.newMap 0, .newMap 1, .bytes [7] 2, .stage 1 [9] 2, .mutate false (.putItem [1] [1] 0),
    .mutate false (.setItem 0 [5] 1), .openBatch, .bytes [8] 3, .mutate true (.setItem 0 [6] 3),
    .apply]

/-- What that program writes, in order; the last batch is the one that was open. -/
def fillingWrites : List WriteBatch :=
  [.put Layout.allocatorKey (Counter.encode 2), .put (Layout.countKey ⟨1⟩) (Counter.encode 0),
    .put (Layout.tableKey .item [1] [1]) (StoredValue.reference ⟨1⟩).encode,
    .put Layout.allocatorKey (Counter.encode 3), .put (Layout.countKey ⟨2⟩) (Counter.encode 0),
    .put (Layout.entryKey ⟨2⟩ [9]) (StoredValue.bytes [7]).encode,
    .put (Layout.countKey ⟨2⟩) (Counter.encode 1),
    .put (Layout.entryKey ⟨1⟩ [5]) (StoredValue.reference ⟨2⟩).encode,
    .put (Layout.countKey ⟨1⟩) (Counter.encode 1),
    ⟨[.put (Layout.entryKey ⟨1⟩ [6]) (StoredValue.bytes [8]).encode,
      .put (Layout.countKey ⟨1⟩) (Counter.encode 2)]⟩]

/-- Cut between the entry of the inner map and its count, the log of such a program gives back the
writes up to the entry. -/
theorem verify_after_cut_filled :
    (start .inPlace 0).writesIn fillingCalls = fillingWrites ∧
    ((start .inPlace 0).run fillingCalls).2.space.engine.Logs fillingWrites ∧
    (fillingWrites.flatMap Log.record).length = 418 ∧
    ∃ reopened recovered,
      (((start .inPlace 0).run fillingCalls).2.store.release 0).Reopens "" .default 230 reopened
        recovered ∧
      (recovered.database reopened).engine.contents = .ofBatches (fillingWrites.take 6) ∧
      ∃ report : Verification,
        ((verify (recovered.snapshot reopened)).run.run ⟨.inMemory .none, .empty, []⟩).1 =
          .ok report ∧
        (report.problems = [] ∨ ∃ id stored,
          report.problems = [.countMismatch id stored (stored.toNat + 1)]) := by
  have written : (start .inPlace 0).writesIn fillingCalls = fillingWrites := by decide +kernel
  have room : handedOutIn ((start .inPlace 0).run fillingCalls).2.store.events <
      UInt64.size - 1 := by decide +kernel
  have length : fillingWrites.length = 10 := rfl
  have bytes : (fillingWrites.flatMap Log.record).length = 418 := by decide +kernel
  have cutAt : ∀ count < 10, ((fillingWrites.take count).flatMap Log.record).length ≤ 230 →
      230 < ((fillingWrites.take (count + 1)).flatMap Log.record).length → count = 6 := by
    decide +kernel
  have recovers := verify_after_cut .withLog "" .default .inPlace 0 fillingCalls
    Store.opened_inPlace rfl rfl (by simp [fillingCalls]) (written ▸ by decide +kernel) room
  rw [written] at recovers
  obtain ⟨logs, recovers⟩ := recovers
  obtain ⟨count, reopened, recovered, before, behind, reopens, contents, verified⟩ := recovers 230
  obtain ⟨report, reported, found, _⟩ := verified ⟨.inMemory .none, .empty, []⟩ ⟨rfl, rfl⟩
  have within : count < 10 := by
    by_contra beyond
    rw [List.take_of_length_le (by omega), bytes] at before
    omega
  obtain rfl := cutAt count within before (behind within)
  have last := (logs fillingCalls [] (List.append_nil _).symm).1
  rw [written] at last
  exact ⟨written, last, bytes, reopened, recovered, reopens, contents, report, reported, found⟩

end Session

end NestedStore
