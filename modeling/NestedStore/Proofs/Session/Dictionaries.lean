import NestedStore.Proofs.Ideal
import NestedStore.Proofs.Map.Reading
import NestedStore.Proofs.Session.Equivalence

/-! # Tables and maps are dictionaries

A session on an engine that fails nothing answers as an ideal session does, call by call, and its
cells hold the dictionaries of the ideal one (`Mirrors`), those that mutations see as well as those
that everybody sees. So what is read through a snapshot afterwards is what the dictionaries hold. -/
namespace NestedStore

theorem Binding.seen_of_instance? {ledger : Ledger} {binding : Binding} {id : InstanceId}
    (on : binding.instance? ledger = some id) : binding.seen ledger = .bound id := by
  cases binding with
  | unbound staged => cases on
  | bound id =>
    cases on
    rfl
  | pending id batch staged =>
    unfold Binding.instance? at on
    unfold Binding.seen
    cases decided : ledger.outcome batch <;> simp_all

/-- A value that can be stored shows what is read back when it was. -/
theorem Value.seen_of_stored? {ledger : Ledger} {database : DatabaseId} {value : Value}
    {stored : StoredValue} (mine : value.MadeIn database)
    (given : value.stored? ledger = some stored) :
    value.seen ledger = .ofStored database stored := by
  cases value with
  | bytes payload =>
    cases given
    rfl
  | map owner binding =>
    obtain ⟨id, on, rfl⟩ := Option.map_eq_some_iff.mp given
    cases mine ⟨owner, binding⟩ rfl
    exact congrArg (Value.map owner) (Binding.seen_of_instance? on)

theorem Table.named_cases (owner : DatabaseId) (tablePrefix : Bytes) :
    (Layout.separator ∈ tablePrefix ∧
        named owner tablePrefix = .error (.invalidTablePrefix tablePrefix)) ∨
      ∃ valid : Layout.separator ∉ tablePrefix,
        named owner tablePrefix = .ok ⟨owner, tablePrefix, valid⟩ := by
  by_cases zero : Layout.separator ∈ tablePrefix
  · exact .inl ⟨zero, by simp [named, zero]⟩
  · exact .inr ⟨zero, by simp [named, zero]⟩

theorem MapHandle.getItem_unbound {snapshot : Snapshot} {s t : Workspace} {map : MapHandle}
    {key : Bytes} {result : Except StoreError (Option Value)}
    (unbound : map.instance? s.ledger = none) (h : Ends (map.getItem snapshot key) s result t) :
    result = .error (.consistency (.neverPersisted .getItem)) := by
  have required {first : Except StoreError InstanceId} {u : Workspace}
      (h : Ends (map.requireInstance .getItem) s first u) :
      first = .error (.consistency (.neverPersisted .getItem)) := by
    replace h := Ends.bind_get h
    rw [unbound] at h
    exact h.bind_report.throw.1
  obtain ⟨_, failed, rfl⟩ | ⟨_, _, found, _⟩ := Ends.bind h
  · cases required failed
    rfl
  · cases required found

/-- Whether a batch is open changes by opening one and deciding it only. -/
theorem Ideal.isSome_draft?_perform (ideal : Ideal) {call : Call} (calm : call.isTurn = false) :
    (ideal.perform call).2.draft?.isSome = ideal.draft?.isSome := by
  cases call with
  | openBatch | apply | discard | befall => cases calm
  | bytes | newMap | snap => rfl
  | clone | stage | getItem | getEntry =>
    simp only [Ideal.perform]
    repeat' split
    all_goals simp
  | mutate batched mutation =>
    show (ideal.mutate batched mutation).2.draft?.isSome = _
    by_cases mode : ideal.draft?.isSome = batched
    · cases mutation <;> simp only [Ideal.mutate, Ideal.write_of_mode mode] <;> repeat' split
      all_goals simp
    · rw [Ideal.mutate_of_other mode]

namespace Session

/-- The session holds what the ideal one holds, and shows what it shows. -/
structure Mirrors (session : Session) (ideal : Ideal) : Prop where
  database : ideal.database = session.database
  held : ideal.held.LaidOut session.contents.cells
  view : ideal.view.LaidOut session.view
  shown : ∀ register, session.shown register = ideal.registers register
  snapshots : ∀ name, Option.Rel
    (fun (snapshot : Snapshot) dictionaries => dictionaries.LaidOut snapshot.contents.cells)
    (session.snapshots name) (ideal.snapshots name)
  locked : session.store.isLocked session.database = ideal.draft?.isSome

variable {session next : Session} {ideal : Ideal}

/-! ## What is kept -/

/-- A name stands for nothing in both, or for a value and what it shows. -/
theorem Mirrors.register (h : session.Mirrors ideal) (register : Register) :
    (session.registers register = none ∧ ideal.registers register = none) ∨
      ∃ value, session.registers register = some value ∧
        ideal.registers register = some (value.seen session.setting.ledger) := by
  have shown := h.shown register
  unfold Session.shown at shown
  rw [setting_ledger]
  cases given : session.registers register with
  | none =>
    rw [given] at shown
    exact .inl ⟨rfl, shown.symm⟩
  | some value =>
    rw [given] at shown
    exact .inr ⟨value, rfl, shown.symm⟩

/-- A name stands for no map in either, or for a map and what it shows. -/
theorem Mirrors.map (h : session.Mirrors ideal) (register : Register) :
    (session.map? register = none ∧ ideal.map? register = none) ∨
      ∃ map, session.map? register = some map ∧
        ideal.map? register = some (map.seen session.setting.ledger) := by
  unfold map? Ideal.map?
  rcases h.register register with ⟨given, given'⟩ | ⟨value, given, given'⟩
  · rw [given, given']
    exact .inl ⟨rfl, rfl⟩
  · rw [given, given', Option.bind_some, Option.bind_some, Value.asMap?_seen]
    cases held : value.asMap? with
    | none => exact .inl ⟨rfl, rfl⟩
    | some map => exact .inr ⟨map, rfl, rfl⟩

/-- A name stands for no snapshot in either, or for one and the dictionaries that it holds. -/
theorem Mirrors.snapshot (h : session.Mirrors ideal) (name : Nat) :
    (session.snapshots name = none ∧ ideal.snapshots name = none) ∨
      ∃ snapshot dictionaries, session.snapshots name = some snapshot ∧
        ideal.snapshots name = some dictionaries ∧
        dictionaries.LaidOut snapshot.contents.cells := by
  have related := h.snapshots name
  revert related
  generalize session.snapshots name = taken
  generalize ideal.snapshots name = taken'
  rintro (⟨laidOut⟩ | _)
  · exact .inr ⟨_, _, rfl, rfl, laidOut⟩
  · exact .inl ⟨rfl, rfl⟩

theorem Mirrors.keep (h : session.Mirrors ideal) (register : Register)
    {value? shown? : Option Value} (same : value?.map (Value.seen session.store.ledger) = shown?) :
    (session.keep register value?).Mirrors (ideal.keep register shown?) where
  database := h.database
  held := h.held
  view := h.view
  snapshots := h.snapshots
  locked := h.locked
  shown name := by
    have shown := h.shown name
    unfold Session.shown Session.keep Ideal.keep at *
    dsimp only
    split
    · exact same
    · exact shown

theorem Mirrors.looked (h : session.Mirrors ideal) (hs : session.Sound) {store : Store}
    (looked : session.Looked store) : Mirrors { session with store } ideal where
  database := h.database
  held := by
    rw [looked.contents hs]
    exact h.held
  view := by
    rw [looked.view hs]
    exact h.view
  snapshots := h.snapshots
  locked := (looked.isLocked hs).trans h.locked
  shown register := by
    rw [← h.shown register]
    unfold Session.shown
    rw [looked.ledger]

/-- Effects that make of the cells what storing makes of the dictionaries. -/
theorem Mirrors.wrote (h : session.Mirrors ideal) (hs : session.Healthy ideal.draft?.isSome)
    {effects : List Effect} {later : Dictionaries}
    (wrote : session.Wrote effects ideal.draft?.isSome next)
    (laidOut : later.LaidOut (applyAll session.view effects)) :
    next.Mirrors (ideal.become later) := by
  obtain ⟨database, registers, snapshots⟩ := wrote.frame
  obtain ⟨ledger, locked, outcome⟩ := wrote.outcome hs.sound
  have view := wrote.view hs.sound
  have held : (ideal.become later).held.LaidOut next.contents.cells := by
    cases draft : ideal.draft? with
    | none =>
      rw [draft] at outcome
      obtain ⟨_, _, _, cells⟩ | ⟨opened, _⟩ := outcome
      · rw [cells]
        simpa only [Ideal.become, draft] using laidOut
      · cases opened
    | some dictionaries =>
      rw [draft] at outcome
      obtain ⟨closed, _⟩ | ⟨_, contents, _⟩ := outcome
      · cases closed
      · rw [contents]
        simpa only [Ideal.become, draft] using h.held
  refine ⟨?_, held, ?_, fun register => ?_, fun name => ?_, ?_⟩
  · rw [Ideal.database_become, database, h.database]
  · rw [Ideal.view_become, view]
    exact laidOut
  · rw [Ideal.registers_become, ← h.shown register]
    unfold Session.shown
    rw [registers, ledger]
  · rw [Ideal.snapshots_become, snapshots]
    exact h.snapshots name
  · rw [locked, Ideal.isSome_become, h.locked]

/-! ## Mutations -/

/-- A session and an ideal one answer alike, and mirror each other afterwards. -/
def Mirrored (first : Answer × Session) (second : Answer × Ideal) : Prop :=
  first.1 = second.1 ∧ first.2.Mirrors second.2

theorem write_unready {α : Type} {batched : Bool} (mode : session.batch?.isSome ≠ batched)
    (atOnce : StateM Store α) (later : Batch → StateM Store (α × Batch)) :
    session.write batched atOnce later = none := by
  unfold write
  cases batched <;> cases held : session.batch? <;> simp_all

theorem Mirrors.putItem (h : session.Mirrors ideal) (hs : session.Healthy ideal.draft?.isSome)
    {batched : Bool} {tablePrefix key : Bytes} {register : Register}
    (fits : (ideal.mutate batched (.putItem tablePrefix key register)).2.view.Fits) :
    Mirrored (session.mutate batched (.putItem tablePrefix key register))
      (ideal.mutate batched (.putItem tablePrefix key register)) := by
  unfold mutate Ideal.mutate at *
  dsimp only at *
  rcases h.register register with ⟨given, given'⟩ | ⟨value, given, given'⟩
  · rw [given, given']
    exact ⟨rfl, h⟩
  · rcases Table.named_cases session.database tablePrefix with ⟨zero, named⟩ | ⟨valid, named⟩
    · rw [given, given', named]
      simp only [if_pos zero]
      exact ⟨rfl, h⟩
    · rw [given'] at fits
      rw [given, given', named]
      simp only [if_neg valid] at fits ⊢
      by_cases mode : ideal.draft?.isSome = batched
      · subst mode
        obtain ⟨⟨result, after⟩, next, written⟩ := write_ready hs.mode
          (Store.putItem ⟨session.database, tablePrefix, valid⟩ key value)
          (fun batch => Store.batchPutItem batch ⟨session.database, tablePrefix, valid⟩ key value)
        obtain ⟨wrote, puts⟩ := putItem_wrote hs.sound.ownBatch named written
        rw [Ideal.write_of_mode rfl] at fits ⊢
        simp only [Ideal.view_keep, Ideal.view_become] at fits
        obtain ⟨rfl, stored, laidOut⟩ := puts.laidOut hs.reliable h.view fits
        have mine := puts.madeIn (hs.sound.madeIn given)
        rw [written]
        refine ⟨rfl, (h.wrote hs wrote laidOut).keep register ?_⟩
        rw [wrote.ledger hs.sound, Option.map_some, Value.seen_of_stored? mine stored, h.database]
      · rw [Ideal.write_of_other mode, write_unready (hs.mode ▸ mode)]
        exact ⟨rfl, h⟩

theorem Mirrors.deleteItem (h : session.Mirrors ideal) (hs : session.Healthy ideal.draft?.isSome)
    {batched : Bool} {tablePrefix key : Bytes} :
    Mirrored (session.mutate batched (.deleteItem tablePrefix key))
      (ideal.mutate batched (.deleteItem tablePrefix key)) := by
  unfold mutate Ideal.mutate
  dsimp only
  rcases Table.named_cases session.database tablePrefix with ⟨zero, named⟩ | ⟨valid, named⟩
  · rw [named]
    simp only [if_pos zero]
    exact ⟨rfl, h⟩
  · rw [named]
    simp only [if_neg valid]
    by_cases mode : ideal.draft?.isSome = batched
    · subst mode
      obtain ⟨result, next, written⟩ := write_ready hs.mode
        (Store.deleteItem ⟨session.database, tablePrefix, valid⟩ key)
        (fun batch => Store.batchDeleteItem batch ⟨session.database, tablePrefix, valid⟩ key)
      obtain ⟨wrote, deletes⟩ := deleteItem_wrote hs.sound.ownBatch named written
      obtain ⟨rfl, laidOut⟩ := deletes.laidOut hs.reliable h.view
      rw [Ideal.write_of_mode rfl, written]
      exact ⟨rfl, h.wrote hs wrote laidOut⟩
    · rw [Ideal.write_of_other mode, write_unready (hs.mode ▸ mode)]
      exact ⟨rfl, h⟩

/-- A handle in hand that is on an instance is on one that was made. -/
theorem Mirrors.known (h : session.Mirrors ideal) (closed : ideal.Closed) {register : Register}
    {map : MapHandle} (held : session.map? register = some map) {id : InstanceId}
    (on : map.binding.instance? session.setting.ledger = some id) :
    (ideal.view.map? id).isSome := by
  obtain ⟨none, _⟩ | ⟨_, given, shown⟩ := h.map register
  · cases none.symm.trans held
  · cases given.symm.trans held
    have known := closed.map shown
    rwa [MapHandle.seen, Binding.seen_of_instance? on] at known

theorem Mirrors.setItem (h : session.Mirrors ideal) (hs : session.Healthy ideal.draft?.isSome)
    (closed : ideal.Closed) {batched : Bool} {mapRegister register : Register}
    {key : Bytes} (fits : (ideal.mutate batched (.setItem mapRegister key register)).2.view.Fits) :
    Mirrored (session.mutate batched (.setItem mapRegister key register))
      (ideal.mutate batched (.setItem mapRegister key register)) := by
  unfold mutate Ideal.mutate at *
  dsimp only at *
  rcases h.map mapRegister with ⟨held, held'⟩ | ⟨map, held, held'⟩
  · rw [held, held']
    exact ⟨rfl, h⟩
  · rcases h.register register with ⟨given, given'⟩ | ⟨value, given, given'⟩
    · rw [held, held', given, given']
      exact ⟨rfl, h⟩
    · rw [held', given'] at fits
      rw [held, held', given, given']
      dsimp only at fits ⊢
      by_cases itself : register = mapRegister
      · rw [if_pos itself, if_pos itself]
        exact ⟨rfl, h⟩
      · rw [if_neg itself] at fits
        rw [if_neg itself, if_neg itself]
        by_cases mode : ideal.draft?.isSome = batched
        · subst mode
          obtain ⟨⟨result, map', after⟩, next, written⟩ := write_ready hs.mode
            (Store.setItem map key value) (fun batch => Store.batchSetItem batch map key value)
          obtain ⟨wrote, sets⟩ :=
            setItem_wrote hs.sound.ownBatch (hs.sound.owned held) written
          rw [Ideal.write_of_mode rfl] at fits ⊢
          simp only [Ideal.view_keep, Ideal.view_become] at fits
          obtain ⟨id, stored, later, same, rfl, on, form, laidOut⟩ :=
            sets.laidOut hs.reliable h.view (h.known closed held) fits
          obtain ⟨owner, mine⟩ := sets.madeIn (hs.sound.madeIn given)
          rw [written, MapHandle.seen, same]
          refine ⟨rfl, ((h.wrote hs wrote laidOut).keep mapRegister ?_).keep register ?_⟩
          · rw [wrote.ledger hs.sound]
            exact congrArg some (congrArg₂ Value.map owner (Binding.seen_of_instance? on))
          · show some (after.seen next.store.ledger) = _
            rw [wrote.ledger hs.sound, Value.seen_of_stored? mine form, h.database]
        · rw [Ideal.write_of_other mode, write_unready (hs.mode ▸ mode)]
          exact ⟨rfl, h⟩

/-! ## Staging and reading -/

theorem Mirrors.stage (h : session.Mirrors ideal) (hs : session.Sound)
    {mapRegister register : Register} {key : Bytes} :
    Mirrored (session.perform (.stage mapRegister key register))
      (ideal.perform (.stage mapRegister key register)) := by
  rcases h.map mapRegister with ⟨held, held'⟩ | ⟨map, held, held'⟩
  · unfold perform Ideal.perform
    dsimp only
    rw [held, held']
    exact ⟨rfl, h⟩
  · rcases h.register register with ⟨given, given'⟩ | ⟨value, given, given'⟩
    · unfold perform Ideal.perform
      dsimp only
      rw [held, held', given, given']
      exact ⟨rfl, h⟩
    · by_cases itself : register = mapRegister
      · unfold perform Ideal.perform
        dsimp only
        rw [held, held', given, given']
        simp only [if_pos itself]
        exact ⟨rfl, h⟩
      · obtain ⟨store, looked, staged⟩ := stage_looked (hs.owned held) key value
        rw [Ideal.perform_stage held' given' itself, setting_ledger, map.staging_seen value]
        unfold perform
        dsimp only
        rw [held, given]
        simp only [if_neg itself]
        rw [staged]
        refine ⟨rfl, ((h.looked hs looked).keep mapRegister ?_).keep register rfl⟩
        show some (Value.seen store.ledger _) = _
        rw [looked.ledger]
        rfl

/-- What is found where the dictionaries have it is kept in both. -/
theorem Mirrors.read (h : session.Mirrors ideal) (hs : session.Sound)
    {action : Action Workspace (Option Value)} {found? : Option StoredValue} {into : Register}
    (looks : ∀ {result : Except StoreError (Option Value)} {t : Workspace},
      Ends action session.space result t → Workspace.Looks session.space t ∧
        result = .ok (found?.map (Value.ofStored session.database))) :
    Mirrored (session.read action into) (ideal.found found? into) := by
  unfold Session.read
  generalize hr : (Store.on session.database action.run).run session.store = ended
  obtain ⟨result, store⟩ := ended
  obtain ⟨space, ends, rfl⟩ := Store.on_spec hr
  obtain ⟨same, rfl⟩ := looks ends
  have looked := h.looked hs ⟨space, same, rfl⟩
  cases found? with
  | none => exact ⟨rfl, looked⟩
  | some stored =>
    refine ⟨rfl, looked.keep into ?_⟩
    rw [h.database]
    cases stored <;> rfl

theorem Mirrors.readFailed (h : session.Mirrors ideal) (hs : session.Sound)
    {action : Action Workspace (Option Value)} {error : StoreError} {into : Register}
    (looks : ∀ {result : Except StoreError (Option Value)} {t : Workspace},
      Ends action session.space result t → Workspace.Looks session.space t ∧
        result = .error error) :
    Mirrored (session.read action into) (.failed error, ideal) := by
  unfold Session.read
  generalize hr : (Store.on session.database action.run).run session.store = ended
  obtain ⟨result, store⟩ := ended
  obtain ⟨space, ends, rfl⟩ := Store.on_spec hr
  obtain ⟨same, rfl⟩ := looks ends
  exact ⟨rfl, h.looked hs ⟨space, same, rfl⟩⟩

theorem Mirrors.getItem (h : session.Mirrors ideal) {batched : Bool}
    (hs : session.Healthy batched) {name : Nat} {tablePrefix key : Bytes} {into : Register} :
    Mirrored (session.perform (.getItem name tablePrefix key into))
      (ideal.perform (.getItem name tablePrefix key into)) := by
  unfold perform Ideal.perform
  dsimp only
  rcases h.snapshot name with ⟨given, given'⟩ | ⟨snapshot, dictionaries, given, given', laidOut⟩
  · rw [given, given']
    exact ⟨rfl, h⟩
  · rcases Table.named_cases session.database tablePrefix with ⟨zero, named⟩ | ⟨valid, named⟩
    · rw [given, given', named]
      simp only [if_pos zero]
      exact ⟨rfl, h⟩
    · rw [given, given', named]
      simp only [if_neg valid]
      refine h.read hs.sound fun ends => ⟨(Table.getItem_looks ends).1, ?_⟩
      exact (Table.getItem_working hs.reads laidOut ends).1

theorem Mirrors.getEntry (h : session.Mirrors ideal) {batched : Bool}
    (hs : session.Healthy batched) {name : Nat} {mapRegister into : Register} {key : Bytes} :
    Mirrored (session.perform (.getEntry name mapRegister key into))
      (ideal.perform (.getEntry name mapRegister key into)) := by
  unfold perform Ideal.perform
  dsimp only
  rcases h.snapshot name with ⟨given, given'⟩ | ⟨snapshot, dictionaries, given, given', laidOut⟩
  · rw [given, given']
    exact ⟨rfl, h⟩
  · rcases h.map mapRegister with ⟨held, held'⟩ | ⟨map, held, held'⟩
    · rw [given, given', held, held']
      exact ⟨rfl, h⟩
    · rw [given, given', held, held']
      dsimp only
      have owner := hs.sound.owned held
      have shown : (map.seen session.setting.ledger).binding.instance? .empty =
          map.instance? session.space.ledger := by
        rw [setting_ledger]
        exact map.binding.instance?_seen
      have found {id : InstanceId} (on : map.instance? session.space.ledger = some id) :
          Mirrored (session.read (map.getItem snapshot key) into)
            (ideal.found ((dictionaries.map? id).bind fun entries => entries[key]?) into) := by
        refine h.read hs.sound fun ends => ⟨(MapHandle.getItem_looks ends).1, ?_⟩
        rw [← owner]
        exact (MapHandle.getItem_working hs.reads laidOut on ends).1
      cases binding : (map.seen session.setting.ledger).binding with
      | unbound staged =>
        rw [binding] at shown
        refine h.readFailed hs.sound fun ends => ⟨(MapHandle.getItem_looks ends).1, ?_⟩
        exact MapHandle.getItem_unbound shown.symm ends
      | bound id | pending id _ _ =>
        rw [binding] at shown
        exact found shown.symm

/-! ## Batches -/

theorem Mirrors.openBatch (h : session.Mirrors ideal) (hs : session.Healthy ideal.draft?.isSome) :
    Mirrored (session.perform .openBatch) (ideal.perform .openBatch) ∧
      (session.perform .openBatch).2.Healthy (ideal.perform .openBatch).2.draft?.isSome := by
  have locked := h.locked
  cases draft : ideal.draft? with
  | some dictionaries =>
    have stays : ideal.perform .openBatch = (.refused, ideal) := by simp [Ideal.perform, draft]
    rw [draft] at locked
    rw [perform_locked locked, stays]
    exact ⟨⟨rfl, h⟩, hs⟩
  | none =>
    have opens : ideal.perform .openBatch = (.done, { ideal with draft? := some ideal.held }) := by
      simp [Ideal.perform, draft]
    rw [draft] at locked hs
    obtain ⟨answer, alike, healthy⟩ := hs.openBatch locked
    rw [opens]
    refine ⟨⟨answer, ?_⟩, healthy⟩
    have view := Ideal.view_of_none draft
    have held := h.held
    rw [perform_openBatch locked] at alike ⊢
    refine ⟨h.database, ?_, ?_, fun register => ?_, h.snapshots, ?_⟩
    · exact (congrArg (·.engine.contents.cells) (space_openBatch hs.sound)) ▸ h.held
    · rw [alike.view]
      exact view ▸ h.view
    · rw [alike.shown]
      exact h.shown register
    · rw [Store.isLocked, Store.database_openBatch hs.sound.present]
      rfl

theorem Mirrors.apply (h : session.Mirrors ideal) (hs : session.Healthy ideal.draft?.isSome) :
    Mirrored (session.perform .apply) (ideal.perform .apply) ∧
      (session.perform .apply).2.Healthy (ideal.perform .apply).2.draft?.isSome := by
  cases draft : ideal.draft? with
  | none =>
    rw [draft] at hs
    have stays : ideal.perform .apply = (.refused, ideal) := by simp [Ideal.perform, draft]
    have refused : session.perform .apply = (.refused, session) := by simp [perform, hs.closed]
    rw [stays, refused, draft]
    exact ⟨⟨rfl, h⟩, hs⟩
  | some dictionaries =>
    rw [draft] at hs
    have applies : ideal.perform .apply =
        (.done, { ideal with held := dictionaries, draft? := none }) := by
      simp [Ideal.perform, draft]
    have view := Ideal.view_of_some draft
    obtain ⟨answer, cells, alike⟩ := hs.apply
    rw [applies]
    refine ⟨⟨answer, ?_⟩, hs.applied⟩
    obtain ⟨batch, held⟩ := Option.isSome_iff_exists.mp hs.mode
    obtain ⟨result, space, ends, same⟩ := perform_apply hs.sound.ownBatch held
    refine ⟨?_, ?_, ?_, fun register => ?_, fun name => ?_, ?_⟩
    · exact h.database.trans alike.database.symm
    · rw [cells]
      exact view ▸ h.view
    · rw [alike.view]
      exact view ▸ h.view
    · rw [alike.shown]
      exact h.shown register
    · rw [same]
      exact h.snapshots name
    · rw [same, Store.isLocked, Store.database_unlock_withWorkspace hs.sound.present]
      rfl

theorem Mirrors.snap (h : session.Mirrors ideal) (into : Nat) :
    Mirrored (session.perform (.snap into)) (ideal.perform (.snap into)) := by
  refine ⟨rfl, h.database, h.held, h.view, h.shown, fun name => ?_, h.locked⟩
  show Option.Rel _ (if name = into then _ else _) (if name = into then _ else _)
  by_cases same : name = into
  · rw [if_pos same, if_pos same]
    exact .some h.held
  · rw [if_neg same, if_neg same]
    exact h.snapshots name

/-! ## Calls and runs -/

/-- **A call is answered as it is for dictionaries**, and leaves a mirror of them. -/
theorem Mirrors.perform (h : session.Mirrors ideal) (hs : session.Healthy ideal.draft?.isSome)
    (closed : ideal.Closed) {call : Call} (lasting : call.isLasting = true)
    (fits : (ideal.perform call).2.view.Fits) :
    Mirrored (session.perform call) (ideal.perform call) ∧
      (session.perform call).2.Healthy (ideal.perform call).2.draft?.isSome := by
  have calm (calm : call.isTurn = false)
      (mirrored : Mirrored (session.perform call) (ideal.perform call)) :
      Mirrored (session.perform call) (ideal.perform call) ∧
        (session.perform call).2.Healthy (ideal.perform call).2.draft?.isSome := by
    refine ⟨mirrored, ?_⟩
    rw [ideal.isSome_draft?_perform calm]
    exact hs.performs calm (perform_spec hs.sound call)
  cases call with
  | bytes payload into => exact calm rfl ⟨rfl, h.keep into rfl⟩
  | newMap into =>
    refine calm rfl ⟨rfl, h.keep into ?_⟩
    rw [h.database]
    rfl
  | clone source into =>
    refine calm rfl ?_
    unfold Session.perform Ideal.perform
    dsimp only
    rcases h.register source with ⟨given, given'⟩ | ⟨value, given, given'⟩
    · rw [given, given']
      exact ⟨rfl, h⟩
    · rw [given, given', setting_ledger]
      exact ⟨rfl, h.keep into rfl⟩
  | stage mapRegister key register => exact calm rfl (h.stage hs.sound)
  | mutate batched mutation =>
    refine calm rfl ?_
    cases mutation with
    | putItem tablePrefix key register => exact h.putItem hs fits
    | deleteItem tablePrefix key => exact h.deleteItem hs
    | setItem mapRegister key register => exact h.setItem hs closed fits
  | openBatch => exact h.openBatch hs
  | apply => exact h.apply hs
  | snap into => exact calm rfl (h.snap into)
  | getItem name tablePrefix key into => exact calm rfl (h.getItem hs)
  | getEntry name mapRegister key into => exact calm rfl (h.getEntry hs)
  | discard | befall => cases lasting

/-- **Runs are answered as they are for dictionaries**, and leave a mirror of them. -/
theorem Mirrors.run (h : session.Mirrors ideal) (hs : session.Healthy ideal.draft?.isSome)
    (closed : ideal.Closed) {calls : List Call}
    (lasting : ∀ call ∈ calls, call.isLasting = true) (fits : (ideal.run calls).2.view.Fits) :
    session.answers calls = (ideal.run calls).1 ∧
      (session.run calls).2.Mirrors (ideal.run calls).2 ∧
      (session.run calls).2.Healthy (ideal.run calls).2.draft?.isSome ∧
      (session.run calls).2.space.engine.faults.cursorMoves =
        session.space.engine.faults.cursorMoves := by
  induction calls generalizing session ideal with
  | nil => exact ⟨rfl, h, hs, rfl⟩
  | cons call calls ih =>
    have fitted := ((ideal.perform call).2.grows_run calls).fits fits
    have lasts := lasting call List.mem_cons_self
    obtain ⟨⟨answer, mirrors⟩, healthy⟩ := h.perform hs closed lasts fitted
    have undisturbed (medium : Medium) : call ≠ .befall medium := by
      rintro rfl
      cases lasts
    have moves := hs.cursorMoves undisturbed (perform_spec hs.sound call)
    obtain ⟨answers, mirrors, healthy, still⟩ := ih mirrors healthy (closed.perform fitted)
      (fun other member => lasting other (List.mem_cons_of_mem _ member)) fits
    refine ⟨?_, mirrors, healthy, still.trans moves⟩
    rw [answers_cons, answer, answers]
    rfl

/-- The session has in hand what the ideal one has, and finds in its database what that one
holds. -/
structure Shows (session : Session) (ideal : Ideal) : Prop where
  registers : ∀ register, session.shown register = ideal.registers register
  database : (session.store.snapshot session.database).Shows session.space ideal.held
  /-- A map in hand that is on an instance is one that the database holds, unless a batch that is
  still open made it. -/
  maps : session.batch? = none → ∀ {register : Register} {map : MapHandle} {id : InstanceId},
    session.map? register = some map → map.instance? session.space.ledger = some id →
      (ideal.held.map? id).isSome

end Session

end NestedStore
