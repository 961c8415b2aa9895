import NestedStore.Proofs.Session.Calls
import NestedStore.Proofs.Map.Binding
import NestedStore.Proofs.Report.Verify

/-! # Sessions keep their database in order

Through every call the committed cells stay consistent, but for one count for each direct call that
failed on a write; so do the cells of the open batch, which nothing is owed to that was not owed
before it (`Orderly`). What the handles say that a session has in hand is true of one or the other
(`sanctioned`), whatever became of the batches that they were bound in. -/
namespace NestedStore

namespace Session

/-- What a handle may say: that an instance is stored, or that it will be once a batch is applied. -/
def sanctioned (session : Session) (batch? : Option BatchId) (id : InstanceId) : Prop :=
  match batch? with
  | none => HasCount session.contents.cells id
  | some batch =>
    match session.store.ledger.outcome batch with
    | .undecided => ∃ held, session.batch? = some held ∧ held.id = batch ∧ HasCount held.after id
    | .applied => HasCount session.contents.cells id
    | .discarded => True

/-- The open batch is in order. -/
structure Tended (session : Session) (batch : Batch) (owed : List InstanceId) : Prop
    extends session.Current batch where
  consistent : Consistent batch.after owed
  numbered : nextNumber batch.after ≤ handedOutIn session.store.events + 1
  grown : ∀ {id}, HasCount session.contents.cells id → HasCount batch.after id
  locked : session.store.isLocked session.database = true

/-- A session is in order, but for the counts that are owed. -/
structure Orderly (session : Session) (owed : List InstanceId) : Prop where
  consistent : Consistent session.contents.cells owed
  numbered : nextNumber session.contents.cells ≤ handedOutIn session.store.events + 1
  truthful : ∀ {register value}, session.registers register = some value →
    value.Every session.sanctioned
  past : ∀ {name snapshot}, session.snapshots name = some snapshot →
    (∃ owed, Consistent snapshot.contents.cells owed) ∧
      ∀ {id}, HasCount snapshot.contents.cells id → HasCount session.contents.cells id
  batch : ∀ {batch}, session.batch? = some batch → session.Tended batch owed

variable {session next : Session} {owed owed' : List InstanceId}

/-- What handles say stays true when no batch is decided and no map is lost. -/
theorem sanctioned_mono
    (outcomes : ∀ batch, next.store.ledger.outcome batch = session.store.ledger.outcome batch)
    (housed : ∀ {id}, HasCount session.contents.cells id → HasCount next.contents.cells id)
    (held : ∀ {batch}, session.batch? = some batch → ∃ later, next.batch? = some later ∧
      later.id = batch.id ∧ ∀ {id}, HasCount batch.after id → HasCount later.after id)
    (batch? : Option BatchId) (id : InstanceId) (known : session.sanctioned batch? id) :
    next.sanctioned batch? id := by
  unfold sanctioned at known ⊢
  cases batch? with
  | none => exact housed known
  | some batch =>
    dsimp only at known ⊢
    rw [outcomes]
    cases ho : session.store.ledger.outcome batch with
    | undecided =>
      rw [ho] at known
      obtain ⟨opened, isOpen, rfl, stored⟩ := known
      obtain ⟨later, isLater, same, grows⟩ := held isOpen
      exact ⟨later, isLater, same, grows stored⟩
    | applied =>
      rw [ho] at known
      exact housed known
    | discarded => trivial

/-! ## Steps that keep order -/

/-- Order is kept when what was stored stays stored, and what handles say stays true. -/
theorem Orderly.advance (h : session.Orderly owed)
    (registers : next.registers = session.registers)
    (snapshots : next.snapshots = session.snapshots)
    (consistent : Consistent next.contents.cells owed')
    (numbered : nextNumber next.contents.cells ≤ handedOutIn next.store.events + 1)
    (housed : ∀ {id}, HasCount session.contents.cells id → HasCount next.contents.cells id)
    (sanctions : ∀ batch? id, session.sanctioned batch? id → next.sanctioned batch? id)
    (batch : ∀ {batch}, next.batch? = some batch → next.Tended batch owed') :
    next.Orderly owed' where
  consistent := consistent
  numbered := numbered
  truthful given := (h.truthful (registers ▸ given)).imp sanctions
  past taken :=
    have ⟨inOrder, older⟩ := h.past (snapshots ▸ taken)
    ⟨inOrder, fun held => housed (older held)⟩
  batch := batch

theorem Orderly.keep (h : session.Orderly owed) (register : Register) {value? : Option Value}
    (every : ∀ value, value? = some value → value.Every session.sanctioned) :
    (session.keep register value?).Orderly owed where
  consistent := h.consistent
  numbered := h.numbered
  truthful given := by
    dsimp only [Session.keep] at given
    split at given
    · exact every _ given
    · exact h.truthful given
  past := h.past
  batch held :=
    have tended := h.batch held
    ⟨tended.moved rfl rfl rfl rfl, tended.consistent, tended.numbered, tended.grown, tended.locked⟩

theorem Orderly.looked (h : session.Orderly owed) (hs : session.Sound) {store : Store}
    (looked : session.Looked store) : Orderly { session with store } owed := by
  have contents := looked.contents hs
  have counted := looked.handedOut
  have housed {id : InstanceId} (stored : HasCount session.contents.cells id) :
      HasCount (Session.contents { session with store }).cells id := by
    rw [contents]
    exact stored
  refine h.advance rfl rfl ?_ ?_ housed ?_ ?_
  · rw [contents]
    exact h.consistent
  · rw [contents, counted]
    exact h.numbered
  · refine sanctioned_mono (fun batch => ?_) housed fun held => ⟨_, held, rfl, fun stored => stored⟩
    rw [looked.ledger]
  · intro batch held
    have tended := h.batch held
    refine ⟨tended.moved looked.ledger contents rfl rfl, tended.consistent, ?_, ?_, ?_⟩
    · rw [counted]
      exact tended.numbered
    · rw [contents]
      exact tended.grown
    · rw [looked.isLocked hs]
      exact tended.locked

/-! ## Mutations -/

theorem Orderly.consistent_view (h : session.Orderly owed) : Consistent session.view owed := by
  unfold view
  split
  · next batch held => exact (h.batch held).consistent
  · exact h.consistent

theorem Orderly.numbered_view (h : session.Orderly owed) :
    nextNumber session.view ≤ handedOutIn session.store.events + 1 := by
  unfold view
  split
  · next batch held => exact (h.batch held).numbered
  · exact h.numbered

/-- What handles say is true of the cells that mutations see. -/
theorem Orderly.known (h : session.Orderly owed) :
    Known session.setting session.view session.sanctioned := by
  cases free : session.batch? with
  | none =>
    rw [view_atOnce free, setting, free]
    refine ⟨?_, fun known => known, ?_, ?_⟩
    · intro batch within
      cases within
    · intro batch id undecided known
      have undecided : session.store.ledger.outcome batch = .undecided := undecided
      rw [sanctioned, undecided] at known
      obtain ⟨held, opened, _⟩ := known
      cases free.symm.trans opened
    · intro batch id applied known
      have applied : session.store.ledger.outcome batch = .applied := applied
      rwa [sanctioned, applied] at known
  | some held =>
    have tended := h.batch free
    rw [view_later free, setting, free]
    refine ⟨?_, fun known => tended.grown known, ?_, ?_⟩
    · intro _ same
      cases same
      exact tended.undecided
    · intro batch id undecided known
      have undecided : session.store.ledger.outcome batch = .undecided := undecided
      rw [sanctioned, undecided] at known
      obtain ⟨other, opened, _, housed⟩ := known
      cases free.symm.trans opened
      exact housed
    · intro batch id applied known
      have applied : session.store.ledger.outcome batch = .applied := applied
      rwa [sanctioned, applied] at known

/-- Steps on the cells that mutations see keep order, and what is said of new maps is true then. -/
theorem Orderly.wrote (h : session.Orderly owed) (hs : session.Sound) {batched : Bool}
    {effects : List Effect} (wrote : session.Wrote effects batched next) {own : InstanceId → Prop}
    {late : Option InstanceId} (steps : Steps own session.view none effects late)
    (settled : batched = true → late = none) :
    next.Orderly (late.toList ++ owed) ∧ ∀ batch? id,
      grown session.setting (applyAll session.view effects) session.sanctioned batch? id →
        next.sanctioned batch? id := by
  have consistent := steps.consistent h.consistent_view
  have grows {id : InstanceId} (stored : HasCount session.view id) :
      HasCount (applyAll session.view effects) id := steps.hasCount stored
  have numbered : nextNumber (applyAll session.view effects) ≤
      handedOutIn next.store.events + 1 := by
    have before := h.numbered_view
    have within := steps.nextNumber_le.2
    have counted := wrote.handedOut
    omega
  obtain ⟨_, registers, snapshots⟩ := wrote.frame
  obtain ⟨ledger, locked, ⟨_, free, still, cells⟩ | ⟨later, contents, batch, after, held, now, same,
    snapshot, cells⟩⟩ := wrote.outcome hs
  · have housed {id : InstanceId} (stored : HasCount session.contents.cells id) :
        HasCount next.contents.cells id := by
      rw [cells]
      exact grows ((view_atOnce free).symm ▸ stored)
    have sanctions : ∀ batch? id, session.sanctioned batch? id → next.sanctioned batch? id :=
      sanctioned_mono (fun batch => congrArg (Ledger.outcome · batch) ledger) housed
        fun held => absurd (free.symm.trans held) nofun
    rw [← cells] at consistent numbered
    refine ⟨h.advance registers snapshots consistent numbered housed sanctions
      (fun held => absurd (still.symm.trans held) nofun), ?_⟩
    intro batch? id grew
    rcases grew with known | ⟨same, stored⟩
    · exact sanctions _ _ known
    · rw [setting, free] at same
      subst same
      rw [← cells] at stored
      exact stored
  · obtain rfl := settled later
    have tended := h.batch held
    have grew {id : InstanceId} (stored : HasCount batch.after id) : HasCount after.after id := by
      rw [cells]
      exact grows ((view_later held).symm ▸ stored)
    have sanctions : ∀ batch? id, session.sanctioned batch? id → next.sanctioned batch? id := by
      refine sanctioned_mono (fun batch => congrArg (Ledger.outcome · batch) ledger) ?_ ?_
      · intro id stored
        rwa [contents]
      · intro other opened
        cases held.symm.trans opened
        exact ⟨after, now, same, grew⟩
    refine ⟨h.advance registers snapshots ?_ ?_ ?_ sanctions ?_, ?_⟩
    · rw [contents]
      exact h.consistent
    · rw [contents, wrote.handedOut]
      exact Nat.le_trans h.numbered (by omega)
    · intro id stored
      rwa [contents]
    · intro _ opened
      cases now.symm.trans opened
      refine ⟨tended.moved ledger contents same snapshot, ?_, ?_, ?_, ?_⟩
      · rw [cells]
        exact consistent
      · rw [cells]
        exact numbered
      · intro id stored
        rw [contents] at stored
        exact grew (tended.grown stored)
      · rw [locked]
        exact tended.locked
    · intro batch? id grew
      rcases grew with known | ⟨mine, stored⟩
      · exact sanctions _ _ known
      · rw [setting, held] at mine
        subst mine
        have undecided : next.store.ledger.outcome batch.id = .undecided := by
          rw [ledger]
          exact tended.undecided
        show next.sanctioned (some batch.id) id
        rw [sanctioned, undecided]
        exact ⟨after, now, same, cells ▸ stored⟩

/-- A program that behaves keeps order, and at once leaves one count behind at most. -/
theorem Orderly.behaved (h : session.Orderly owed) (hs : session.Sound) {batched : Bool}
    {effects : List Effect} (wrote : session.Wrote effects batched next) {own : InstanceId → Prop}
    {result : Except StoreError Unit}
    (behaves : Behaves session.setting own session.view result effects) :
    ∃ late : Option InstanceId, next.Orderly (late.toList ++ owed) ∧
      (late = none ∨ session.setting.writesFail = true ∧ batched = false ∧
        ∃ error, result = .error (.storage error)) ∧
      ∀ batch? id,
        grown session.setting (applyAll session.view effects) session.sanctioned batch? id →
          next.sanctioned batch? id := by
  obtain ⟨late, steps, outcome⟩ := behaves
  have direct : late = none ∨ session.setting.writesFail = true ∧ batched = false ∧
      ∃ error, result = .error (.storage error) := by
    rcases outcome with unfailed | ⟨fails, failed⟩
    · exact .inl unfailed
    · cases wrote with
      | atOnce free _ => exact .inr ⟨fails, rfl, failed⟩
      | later held _ =>
        rw [setting, held] at fails
        cases fails
  have settled : batched = true → late = none := by
    intro later
    rcases direct with unfailed | ⟨_, atOnce, _⟩
    · exact unfailed
    · cases atOnce.symm.trans later
  obtain ⟨orderly, sanctions⟩ := h.wrote hs wrote steps settled
  exact ⟨late, orderly, direct, sanctions⟩

theorem Orderly.room (h : session.Orderly owed) {batched : Bool} {effects : List Effect}
    (wrote : session.Wrote effects batched next)
    (room : handedOutIn next.store.events + 1 < UInt64.size) :
    nextNumber session.view + allocationsOf effects < UInt64.size := by
  have before := h.numbered_view
  have counted := wrote.handedOut
  omega

theorem Orderly.every_map (h : session.Orderly owed) {register : Register} {map : MapHandle}
    (held : session.map? register = some map) : map.binding.Every session.sanctioned :=
  h.truthful (registers_of_map? held)

theorem length_late_le {fails batched : Bool} {mutation : Mutation}
    {result : Except StoreError Unit} {late : Option InstanceId}
    (direct : late = none ∨ fails = true ∧ batched = false ∧
      ∃ error, result = .error (.storage error))
    (forfeits : ∀ error, (Call.mutate false mutation).forfeits (.failed (.storage error)) = true) :
    (late.toList ++ owed).length ≤
      owed.length + (fails && (Call.mutate batched mutation).forfeits (.ofResult result)).toNat := by
  rcases direct with rfl | ⟨rfl, rfl, error, rfl⟩
  · exact Nat.le_add_right _ _
  · have one : (Call.mutate false mutation).forfeits
        (.ofResult (.error (.storage error) : Except StoreError Unit)) = true := forfeits error
    have atMostOne : late.toList.length ≤ 1 := by cases late <;> simp
    rw [one, Bool.and_true, List.length_append, Bool.toNat_true]
    omega

/-- A mutation does nothing, or what a program does that behaves. -/
theorem Mutates.behaves {batched : Bool} {mutation : Mutation} {effects : List Effect}
    {answer : Answer} (mutates : session.Mutates batched mutation effects answer next)
    (h : session.Orderly owed) (room : handedOutIn next.store.events + 1 < UInt64.size) :
    next = session ∧ effects = [] ∨ ∃ (mid : Session) (own : InstanceId → Prop)
      (result : Except StoreError Unit), session.Wrote effects batched mid ∧
        next.space = mid.space ∧ Behaves session.setting own session.view result effects := by
  cases mutates with
  | refused | illNamed => exact .inl ⟨rfl, rfl⟩
  | putItem named given wrote puts =>
    obtain ⟨behaves, _⟩ := puts.behaves h.consistent_view h.known (h.truthful given)
      (h.room wrote room)
    exact .inr ⟨_, _, _, wrote, rfl, behaves⟩
  | @deleteItem _ _ _ result _ _ named wrote deletes =>
    exact .inr ⟨_, _, result, wrote, rfl, deletes.steps.behaves⟩
  | setItem held given differ wrote sets =>
    obtain ⟨⟨own, behaves⟩, _⟩ := sets.behaves h.consistent_view h.known (h.every_map held)
      (h.truthful given) (h.room wrote room)
    exact .inr ⟨_, _, _, wrote, rfl, behaves⟩

/-- A mutation keeps order, and leaves a count behind only if a write may fail and it forfeits it. -/
theorem Orderly.mutates (h : session.Orderly owed) (hs : session.Sound) {batched : Bool}
    {mutation : Mutation} {effects : List Effect} {answer : Answer}
    (mutates : session.Mutates batched mutation effects answer next)
    (room : handedOutIn next.store.events + 1 < UInt64.size) :
    ∃ owed', next.Orderly owed' ∧
      owed'.length ≤ owed.length +
        (session.setting.writesFail && (Call.mutate batched mutation).forfeits answer).toNat := by
  cases mutates with
  | refused | illNamed => exact ⟨owed, h, Nat.le_add_right _ _⟩
  | @putItem _ _ _ _ _ _ result _ _ named given wrote puts =>
    obtain ⟨behaves, every⟩ := puts.behaves h.consistent_view h.known (h.truthful given)
      (h.room wrote room)
    obtain ⟨late, orderly, direct, sanctions⟩ := h.behaved hs wrote behaves
    refine ⟨_, orderly.keep _ ?_, ?_⟩
    · intro _ same
      cases same
      exact every.imp sanctions
    · exact length_late_le direct fun _ => rfl
  | deleteItem named wrote deletes =>
    obtain ⟨orderly, _⟩ := h.wrote hs wrote deletes.steps fun _ => rfl
    exact ⟨owed, orderly, Nat.le_add_right _ _⟩
  | @setItem _ register _ map _ _ _ result _ _ held given differ wrote sets =>
    obtain ⟨⟨own, behaves⟩, mapEvery, every⟩ := sets.behaves h.consistent_view h.known
      (h.every_map held) (h.truthful given) (h.room wrote room)
    obtain ⟨late, orderly, direct, sanctions⟩ := h.behaved hs wrote behaves
    refine ⟨_, (orderly.keep _ ?_).keep register ?_, ?_⟩
    · intro _ same
      cases same
      exact mapEvery.imp sanctions
    · intro _ same
      cases same
      exact every.imp sanctions
    · exact length_late_le direct fun _ => rfl

/-! ## Batches -/

/-- A batch that is opened starts from what the database holds. -/
theorem Orderly.openBatch (h : session.Orderly owed) (hs : session.Sound)
    (free : session.store.isLocked session.database = false) :
    Orderly { session with
      store := (Store.openBatch session.database session.store).2
      batch? := some (Store.openBatch session.database session.store).1 } owed := by
  have noBatch : session.batch? = none := by
    cases held : session.batch? with
    | none => rfl
    | some batch => cases (h.batch held).locked.symm.trans free
  have database := Store.database_openBatch hs.present
  have contents : Session.contents { session with
      store := (Store.openBatch session.database session.store).2
      batch? := some (Store.openBatch session.database session.store).1 } = session.contents :=
    congrArg (·.engine.contents) (space_openBatch hs)
  have housed {id : InstanceId} (stored : HasCount session.contents.cells id) :
      HasCount (Session.contents { session with
        store := (Store.openBatch session.database session.store).2
        batch? := some (Store.openBatch session.database session.store).1 }).cells id := by
    rw [contents]
    exact stored
  refine h.advance rfl rfl ?_ ?_ housed ?_ ?_
  · rw [contents]
    exact h.consistent
  · rw [contents]
    exact h.numbered
  · refine sanctioned_mono (fun batch => Ledger.outcome_openNext _ batch) housed ?_
    intro batch held
    cases noBatch.symm.trans held
  · intro _ same
    cases same
    refine ⟨current_openBatch hs, h.consistent, h.numbered, ?_, ?_⟩
    · rw [contents]
      exact id
    · rw [Store.isLocked, database]
      rfl

/-- Handles hear of what became of the open batch. -/
theorem Orderly.sanctioned_concluded (h : session.Orderly owed) {batch : Batch} {outcome : Outcome}
    (held : session.batch? = some batch)
    (ledger : next.store.ledger = session.store.ledger.conclude batch.id outcome)
    (housed : ∀ {id}, HasCount session.contents.cells id → HasCount next.contents.cells id)
    (decided : outcome = .discarded ∨
      outcome = .applied ∧ ∀ {id}, HasCount batch.after id → HasCount next.contents.cells id)
    (batch? : Option BatchId) (id : InstanceId) (known : session.sanctioned batch? id) :
    next.sanctioned batch? id := by
  have tended := h.batch held
  unfold sanctioned at known ⊢
  cases batch? with
  | none => exact housed known
  | some other =>
    dsimp only at known ⊢
    rw [ledger, Ledger.outcome_conclude tended.known tended.undecided]
    by_cases mine : other = batch.id
    · subst mine
      rw [tended.undecided] at known
      obtain ⟨_, opened, _, stored⟩ := known
      cases held.symm.trans opened
      rw [if_pos rfl]
      rcases decided with rfl | ⟨rfl, grew⟩
      · trivial
      · exact grew stored
    · rw [if_neg mine]
      cases ho : session.store.ledger.outcome other with
      | undecided =>
        rw [ho] at known
        obtain ⟨_, opened, same, _⟩ := known
        cases held.symm.trans opened
        exact absurd same.symm mine
      | applied =>
        rw [ho] at known
        exact housed known
      | discarded => trivial

/-- All of the batch was stored, or none of it, as was decided. -/
def Decided (session next : Session) (batch : Batch) (outcome : Outcome) : Prop :=
  outcome = .discarded ∧ next.contents.cells = session.contents.cells ∨
    outcome = .applied ∧ next.contents.cells = batch.after

/-- A batch that is decided takes nothing away. -/
theorem Orderly.housed (h : session.Orderly owed) {batch : Batch} {outcome : Outcome}
    (held : session.batch? = some batch) (decided : session.Decided next batch outcome)
    {id : InstanceId} (stored : HasCount session.contents.cells id) :
    HasCount next.contents.cells id := by
  rcases decided with ⟨_, cells⟩ | ⟨_, cells⟩
  · rwa [cells]
  · rw [cells]
    exact (h.batch held).grown stored

/-- What handles say stays true when a batch is decided. -/
theorem Orderly.heard (h : session.Orderly owed) {batch : Batch} {outcome : Outcome}
    (held : session.batch? = some batch) (decided : session.Decided next batch outcome)
    (ledger : next.store.ledger = session.store.ledger.conclude batch.id outcome) :
    ∀ batch? id, session.sanctioned batch? id → next.sanctioned batch? id :=
  h.sanctioned_concluded held ledger (h.housed held decided)
    (decided.imp And.left fun ⟨applied, cells⟩ => ⟨applied, fun stored => cells ▸ stored⟩)

/-- A batch that was decided leaves the session in order. -/
theorem Orderly.concluded (h : session.Orderly owed) {batch : Batch} {outcome : Outcome}
    (held : session.batch? = some batch) (closed : next.batch? = none)
    (registers : next.registers = session.registers)
    (snapshots : next.snapshots = session.snapshots)
    (events : handedOutIn next.store.events = handedOutIn session.store.events)
    (ledger : next.store.ledger = session.store.ledger.conclude batch.id outcome)
    (decided : session.Decided next batch outcome) : next.Orderly owed := by
  have tended := h.batch held
  refine h.advance registers snapshots ?_ ?_ (h.housed held decided) (h.heard held decided ledger)
    (fun opened => absurd (closed.symm.trans opened) nofun)
  · rcases decided with ⟨_, cells⟩ | ⟨_, cells⟩
    · rw [cells]
      exact h.consistent
    · rw [cells]
      exact tended.consistent
  · rw [events]
    rcases decided with ⟨_, cells⟩ | ⟨_, cells⟩
    · rw [cells]
      exact h.numbered
    · rw [cells]
      exact tended.numbered

/-- A batch that is applied is stored, or discarded where the engine refuses it. -/
theorem Orderly.applied (h : session.Orderly owed) (hs : session.Sound) {batch : Batch}
    {space : Workspace} {result : Except StoreError Unit} (held : session.batch? = some batch)
    (ends : Ends batch.apply session.space result space) :
    ∃ outcome, space.ledger = session.store.ledger.conclude batch.id outcome ∧
      session.Decided { session with
        store := (session.store.withWorkspace session.database space).unlock session.database
        batch? := none } batch outcome := by
  obtain ⟨engine, ledger, _, _⟩ := Batch.apply_spec ends
  refine ⟨_, ledger, ?_⟩
  rw [Decided, contents_applied hs space, engine]
  rcases (session.space.engine.write_spec batch.writes).outcome with
    ⟨taken, after⟩ | ⟨_, after, error, refused⟩
  · refine .inr ⟨by rw [taken], ?_⟩
    have pinned : session.space.engine.contents = batch.snapshot.contents := (h.batch held).pinned.symm
    rw [after, pinned, batch.cells_taken]
  · exact .inl ⟨by rw [refused], by rw [after]; rfl⟩

theorem Orderly.apply (h : session.Orderly owed) (hs : session.Sound) {batch : Batch}
    {space : Workspace} {result : Except StoreError Unit} (held : session.batch? = some batch)
    (ends : Ends batch.apply session.space result space) :
    Orderly { session with
      store := (session.store.withWorkspace session.database space).unlock session.database
      batch? := none } owed := by
  obtain ⟨outcome, ledger, decided⟩ := h.applied hs held ends
  exact h.concluded held rfl rfl rfl (Batch.apply_spec ends).2.2.1 ledger decided

/-! ## Calls -/

/-- What is read through a snapshot tells the truth. -/
theorem Orderly.offered (h : session.Orderly owed) {before : Session} {call : Call} {name : Nat}
    {address : Address} {snapshot : Snapshot} {owner : DatabaseId} {value : Value} {into : Register}
    (reads : before.Reads call name address into) (taken : session.snapshots name = some snapshot)
    (holds : snapshot.Holds owner address.key value) : value.Every session.sanctioned := by
  obtain ⟨⟨owed, consistent⟩, older⟩ := h.past taken
  obtain ⟨stored, present, decoded⟩ := holds
  have readable := consistent.readable_key address reads.valid present
  have valued : ∃ form, StoredValue.decode stored = .ok (some form) ∧
      Backed snapshot.contents.cells form := by
    cases reads <;> exact readable
  obtain ⟨form, read, backed⟩ := valued
  rw [Value.decode, read] at decoded
  cases decoded
  cases form with
  | bytes payload => trivial
  | reference id => exact older (backed id rfl)

theorem Orderly.staged (h : session.Orderly owed) {map : MapHandle} {value : Value}
    (mapEvery : map.binding.Every session.sanctioned) (every : value.Every session.sanctioned)
    (key : Bytes) :
    (map.staging session.store.ledger key value).2.binding.Every session.sanctioned := by
  refine MapHandle.staging_every ?_ mapEvery every key
  intro batch id applied known
  rw [← setting_ledger] at applied
  exact h.known.applied applied known

/-- **Calls keep a session in order**, but for a count for each that forfeits one where writes may
fail. -/
theorem Orderly.performs (h : session.Orderly owed) (hs : session.Sound) {call : Call}
    {answer : Answer} (performs : session.Performs call answer next)
    (room : handedOutIn next.store.events + 1 < UInt64.size) :
    ∃ owed', next.Orderly owed' ∧
      owed'.length ≤ owed.length +
        (session.setting.writesFail && call.forfeits answer).toNat := by
  have same {next : Session} (orderly : next.Orderly owed) : ∃ owed', next.Orderly owed' ∧
      owed'.length ≤ owed.length +
        (session.setting.writesFail && call.forfeits answer).toNat :=
    ⟨owed, orderly, Nat.le_add_right _ _⟩
  cases performs with
  | refused | illNamed => exact same h
  | bytes =>
    refine same (h.keep _ ?_)
    intro _ same
    cases same
    trivial
  | newMap =>
    refine same (h.keep _ ?_)
    intro _ same
    cases same
    trivial
  | clone given =>
    refine same (h.keep _ ?_)
    intro _ same
    cases same
    exact h.truthful given
  | @stage _ _ key map value _ held given differ looked =>
    have orderly := h.looked hs looked
    refine same ((orderly.keep _ ?_).keep _ nofun)
    intro _ same
    cases same
    have every := orderly.staged (orderly.every_map held) (orderly.truthful given) key
    rwa [looked.ledger] at every
  | mutate mutates => exact h.mutates hs mutates room
  | openBatch free => exact same (h.openBatch hs free)
  | apply held ends => exact same (h.apply hs held ends)
  | discard held =>
    refine same (h.concluded held rfl rfl rfl rfl rfl (.inl ⟨rfl, ?_⟩))
    rw [Session.contents, database_discarded hs held]
    rfl
  | snap =>
    refine same ⟨h.consistent, h.numbered, h.truthful, ?_, ?_⟩
    · intro name snapshot taken
      dsimp only at taken
      split at taken
      · cases taken
        exact ⟨⟨owed, h.consistent⟩, id⟩
      · exact h.past taken
    · intro batch held
      have tended := h.batch held
      exact ⟨tended.moved rfl rfl rfl rfl, tended.consistent, tended.numbered, tended.grown,
        tended.locked⟩
  | found reads taken holds looked =>
    have orderly := h.looked hs looked
    refine same (orderly.keep _ ?_)
    intro _ same
    cases same
    exact orderly.offered reads taken holds
  | nothing looked => exact same (h.looked hs looked)
  | @befall medium =>
    have database := Store.database_modifyDatabase hs.present fun database : Database =>
      { database with engine := { database.engine with medium } }
    have contents : Session.contents { session with
        store := session.store.modifyDatabase session.database fun database =>
          { database with engine := { database.engine with medium } } } = session.contents := by
      rw [Session.contents, database]
      rfl
    refine same (h.advance rfl rfl (contents ▸ h.consistent) (contents ▸ h.numbered)
      (fun stored => contents ▸ stored) ?_ ?_)
    · exact sanctioned_mono (fun _ => rfl) (fun stored => contents ▸ stored)
        fun held => ⟨_, held, rfl, fun stored => stored⟩
    · intro batch held
      have tended := h.batch held
      refine ⟨tended.moved rfl contents rfl rfl, tended.consistent, tended.numbered,
        contents ▸ tended.grown, ?_⟩
      rw [Store.isLocked, database]
      exact tended.locked

/-! ## Runs -/

theorem forfeited_cons (call : Call) (answer : Answer) (answers : List (Call × Answer)) :
    forfeited ((call, answer) :: answers) = forfeited answers + (call.forfeits answer).toNat := by
  cases hf : call.forfeits answer <;> simp [forfeited, hf]

/-- **Runs keep a session in order**, but for a count for each call that forfeits one. -/
theorem Orderly.run (h : session.Orderly owed) (hs : session.Sound) (calls : List Call)
    (room : handedOutIn (session.run calls).2.store.events + 1 < UInt64.size) :
    ∃ owed', (session.run calls).2.Orderly owed' ∧
      owed'.length ≤ owed.length + forfeited (session.run calls).1 := by
  induction calls generalizing session owed with
  | nil => exact ⟨owed, h, Nat.le_refl _⟩
  | cons call calls ih =>
    rw [run_cons] at room ⊢
    dsimp only at room ⊢
    have performs := perform_spec hs call
    have sound := performs.sound hs
    have before := handedOut_le_run sound calls
    obtain ⟨owed', orderly, within⟩ := h.performs hs performs (by omega)
    obtain ⟨owed'', orderly, within'⟩ := ih orderly sound room
    refine ⟨owed'', orderly, ?_⟩
    have bounded : (session.setting.writesFail && call.forfeits (session.perform call).1).toNat ≤
        (call.forfeits (session.perform call).1).toNat := by
      cases session.setting.writesFail <;> simp
    rw [forfeited_cons]
    omega

theorem orderly_start {store : Store} {database : DatabaseId}
    (empty : (store.database database).engine.contents = .empty) :
    (start store database).Orderly [] := by
  have contents : (start store database).contents = .empty := empty
  refine ⟨?_, ?_, nofun, nofun, nofun⟩
  · rw [contents]
    exact .empty
  · have first : nextNumber Contents.empty.cells = 1 := by
      simp [nextNumber, nextId?, Contents.empty, InstanceId.first]
    rw [contents, first]
    exact Nat.le_add_left _ _

/-- **Whatever a program does with a database that starts empty, and whatever fails meanwhile**,
verification finds nothing afterwards but counts that are behind, by one altogether for each call
that failed at once in the storage where it would have raised a count. -/
theorem verify_finds_forfeited_counts (store : Store) (database : DatabaseId)
    (calls : List Call) (space : Workspace) (present : database < store.databases.size)
    (empty : (store.database database).engine.contents = .empty)
    (room : handedOutIn ((start store database).run calls).2.store.events < UInt64.size - 1)
    (working : space.engine.ReadsWork) :
    ∃ report : Verification,
      ((verify (((start store database).run calls).2.store.snapshot database)).run.run space).1 =
        .ok report ∧
      report.OnlyBehind (forfeited ((start store database).run calls).1) ∧
      (forfeited ((start store database).run calls).1 = 0 → report.problems = []) := by
  have sound : (start store database).Sound := sound_start present
  obtain ⟨owed, orderly, within⟩ := (orderly_start empty).run sound calls
    (Nat.add_lt_of_lt_sub room)
  have held : (((start store database).run calls).2.store.snapshot database).contents =
      ((start store database).run calls).2.contents := by
    rw [Session.contents, database_run sound]
    rfl
  have consistent := orderly.consistent
  rw [← held] at consistent
  obtain ⟨report, reported, behind⟩ := verify_consistent working consistent
  rw [List.length_nil, Nat.zero_add] at within
  replace behind := behind.mono within
  refine ⟨report, reported, behind, fun noneLost => ?_⟩
  rw [noneLost] at behind
  exact behind.clean

/-- A map that is filled through an engine which takes one more write and refuses the next. -/
def countRefused : List (Call × Answer) × Session :=
  (start { Store.empty with databases := #[.inMemory .default .none] } 0).run
    [.newMap 0, .mutate false (.putItem [1] [1] 0),
      .befall (.memory { Faults.none with writesLeft := some 1 }), .bytes [7] 1,
      .mutate false (.setItem 0 [5] 1)]

/-- The entry was taken and its count refused, so one count is behind. -/
theorem verify_finds_forfeited_counts_refused :
    forfeited countRefused.1 = 1 ∧ ∃ report : Verification,
      ((verify (countRefused.2.store.snapshot 0)).run.run ⟨.inMemory .none, .empty, []⟩).1 =
        .ok report ∧ report.OnlyBehind 1 := by
  have forfeits : forfeited countRefused.1 = 1 := by decide +kernel
  have room : handedOutIn countRefused.2.store.events < UInt64.size - 1 := by decide +kernel
  obtain ⟨report, reported, behind, _⟩ :=
    verify_finds_forfeited_counts _ 0 _ ⟨.inMemory .none, .empty, []⟩ (by decide) rfl room ⟨rfl, rfl⟩
  exact ⟨forfeits, report, reported, forfeits ▸ behind⟩

end Session

end NestedStore
