import NestedStore.Proofs.Session.Equivalence
import NestedStore.Proofs.Session.Twins

/-! # A discarded batch never happened

While a batch is open, everything that a session keeps under a name would resolve, if the batch were
discarded, to what a session keeps that made none of the mutations (`Shelved`). This holds however
far each of them went before a read failed. When the batch is discarded, or the engine refuses it,
the two sessions are twins, up to what the reads and the refused write did to the medium; so nothing
that is ever called later tells whether there has been a batch (`discarded_batch_never_happened`). -/
namespace NestedStore

/-- What a program does while a batch is open: it leaves mutations to the batch, makes values and
copies them. Meanwhile the medium may come to fail. -/
inductive Draft where
  | mutate (mutation : Mutation)
  | bytes (payload : Bytes) (into : Register)
  | newMap (into : Register)
  | clone (source into : Register)
  | befall (medium : Medium)

namespace Draft

/-- The call that is made. -/
def call : Draft → Call
  | mutate mutation => .mutate true mutation
  | bytes payload into => .bytes payload into
  | newMap into => .newMap into
  | clone source into => .clone source into
  | befall medium => .befall medium

/-- The call that is left of it without a batch, if it does more than to mutate or to fail. -/
def aside? : Draft → Option Call
  | mutate _ => none
  | befall _ => none
  | draft => some draft.call

end Draft

namespace Session

/-- The number of entries staged on the map under a name. -/
def stagedLength? (session : Session) (register : Register) : Option Nat :=
  (session.map? register).map fun map => map.binding.stagedLength session.store.ledger

/-- What the engine lies on. -/
def medium (session : Session) : Medium := session.space.engine.medium

variable {session other plain next : Session} {batch : BatchId}

/-! ## What twins show -/

theorem stagedLength?_eq (session : Session) (register : Register) :
    session.stagedLength? register =
      (session.handle? register).map fun handle => (handle.2.map Staged.length).getD 0 := by
  unfold Session.stagedLength? Session.handle?
  cases session.map? register with
  | none => rfl
  | some map =>
    rw [Option.map_some, Option.map_some, Option.map_some, Binding.stagedLength, Option.map_map]
    refine congrArg (fun length => some ((Option.map length _).getD 0)) (funext fun staged => ?_)
    exact staged.length_seen.symm

theorem Twins.shown (h : session.Twins other) (register : Register) :
    session.shown register = other.shown register := by
  unfold Session.shown
  rcases h.register register with ⟨given, given'⟩ | ⟨value, value', given, given', same⟩
  · rw [given, given']
    rfl
  · rw [given, given', Option.map_some, Option.map_some, Value.seen_eq_of_resolved same]

/-- The value under a name shows the same, and so do the instance, the number of staged entries and
the staged entries of the map that it may be. -/
def ShowsAs (session other : Session) : Prop :=
  ∀ register, session.shown register = other.shown register ∧
    session.handle? register = other.handle? register ∧
    session.stagedLength? register = other.stagedLength? register

theorem Twins.showsAs (h : session.Twins other) : session.ShowsAs other := by
  intro register
  have shown := h.shown register
  have handles : session.handle? register = other.handle? register := by
    rw [handle?_eq, handle?_eq, shown]
  exact ⟨shown, handles, by rw [stagedLength?_eq, stagedLength?_eq, handles]⟩

theorem Twins.contents (h : session.Twins other) : session.contents = other.contents :=
  congrArg Engine.contents h.engine.symm

/-! ## While the batch is open -/

/-- Everything that is kept under a name resolves to what `plain` keeps there, if the open batch is
discarded. -/
structure Shelved (session plain : Session) (batch : BatchId) : Prop where
  held : ∃ ongoing, session.batch? = some ongoing ∧ ongoing.id = batch
  free : plain.batch? = none
  unlocked : plain.store.isLocked plain.database = false
  database : plain.database = session.database
  contents : plain.contents = session.contents
  snapshots : plain.snapshots = session.snapshots
  registers : ∀ register, (plain.registers register).map (Value.resolved plain.store.ledger) =
    (session.registers register).map
      (Value.resolved (session.store.ledger.conclude batch .discarded))

/-- A batch that was just opened has nothing to shelve. -/
theorem shelved_openBatch (hs : session.Sound) (ha : session.Accounted)
    (free : session.store.isLocked session.database = false) :
    Shelved (session.perform .openBatch).2 session session.store.ledger.next := by
  have nothing : session.batch? = none := by
    cases held : session.batch? with
    | none => rfl
    | some batch => cases (ha.locked held).symm.trans free
  have current := current_openBatch hs
  have contents := congrArg (·.engine.contents) (space_openBatch hs)
  rw [perform_openBatch free]
  refine ⟨⟨_, rfl, rfl⟩, nothing, free, rfl, contents.symm, rfl, fun register => ?_⟩
  cases given : session.registers register with
  | none => rfl
  | some value =>
    rw [Option.map_some, Option.map_some]
    refine congrArg some (Value.resolved_congr ((ha.heard given).imp ?_)).symm
    intro batch? id waits batch same
    -- No handle waits for a batch, so none is told anything by the end of this one.
    have decided : session.store.ledger.openNext.outcome batch ≠ .undecided := by
      intro undecided
      rw [Ledger.outcome_openNext] at undecided
      obtain ⟨held, ongoing, _⟩ := waits batch same undecided
      cases nothing.symm.trans ongoing
    have concludes := Ledger.concludes current.known current.undecided .discarded
    exact (concludes.stands decided).trans (Ledger.outcome_openNext _ _)

theorem Shelved.keep (h : Shelved session plain batch) (register : Register)
    {value? value?' : Option Value}
    (same : value?'.map (Value.resolved plain.store.ledger) =
      value?.map (Value.resolved (session.store.ledger.conclude batch .discarded))) :
    Shelved (session.keep register value?) (plain.keep register value?') batch := by
  refine ⟨h.held, h.free, h.unlocked, h.database, h.contents, h.snapshots, fun name => ?_⟩
  have named := h.registers name
  unfold Session.keep
  dsimp only
  split
  · exact same
  · exact named

/-- What a mutation makes of a value comes to nothing when the batch is discarded. -/
theorem Shelved.undone (h : Shelved session plain batch) {register : Register} {value value' : Value}
    (given : session.registers register = some value)
    (same : value'.resolved (session.store.ledger.conclude batch .discarded) =
      value.resolved (session.store.ledger.conclude batch .discarded)) :
    Shelved (session.keep register (some value')) plain batch := by
  refine ⟨h.held, h.free, h.unlocked, h.database, h.contents, h.snapshots, fun name => ?_⟩
  have named := h.registers name
  unfold Session.keep
  dsimp only
  split
  · next mine =>
    subst mine
    rw [named, given, Option.map_some, Option.map_some, same]
  · exact named

theorem Shelved.wrote (h : Shelved session plain batch) (hs : session.Sound)
    {effects : List Effect} (wrote : session.Wrote effects true next) :
    Shelved next plain batch := by
  obtain ⟨database, registers, snapshots⟩ := wrote.frame
  obtain ⟨ledger, _, ⟨other, _⟩ | ⟨_, contents, held, later, isHeld, isLater, same, _⟩⟩ :=
    wrote.outcome hs
  · cases other
  · obtain ⟨ongoing, mine, number⟩ := h.held
    cases isHeld.symm.trans mine
    refine ⟨⟨later, isLater, same.trans number⟩, h.free, h.unlocked, ?_, ?_, ?_, fun name => ?_⟩
    · rw [database, h.database]
    · rw [contents, h.contents]
    · rw [snapshots, h.snapshots]
    · rw [registers, ledger]
      exact h.registers name

/-- The setting of mutations while the batch is open, which is to be discarded. -/
theorem Shelved.concludes (h : Shelved session plain batch) (ha : session.Accounted) :
    session.setting.batch? = some batch ∧ session.setting.ledger.Concludes
      (session.store.ledger.conclude batch .discarded) batch .discarded := by
  obtain ⟨ongoing, held, rfl⟩ := h.held
  obtain ⟨known, undecided⟩ := ha.known held
  rw [setting_ledger]
  refine ⟨?_, Ledger.concludes known undecided .discarded⟩
  rw [setting, held]
  rfl

/-- **A mutation that is left to the batch is undone with it**, wherever it stopped. -/
theorem Shelved.mutates (h : Shelved session plain batch) (hs : session.Sound)
    (ha : session.Accounted) {mutation : Mutation} {effects : List Effect} {answer : Answer}
    (mutates : session.Mutates true mutation effects answer next) : Shelved next plain batch := by
  obtain ⟨taking, concludes⟩ := h.concludes ha
  cases mutates with
  | refused | illNamed => exact h
  | @putItem _ _ register _ _ _ _ _ next named given wrote puts =>
    have same := puts.resolved_discarded taking concludes
    have kept : next.registers register = some _ := wrote.frame.2.1 ▸ given
    rw [← (wrote.outcome hs).1] at same
    exact (h.wrote hs wrote).undone kept same
  | deleteItem named wrote deletes => exact h.wrote hs wrote
  | @setItem mapRegister register _ map map' _ _ _ _ next held given differ wrote sets =>
    obtain ⟨maps, same⟩ := sets.resolved_discarded taking concludes
    have keptMap : next.registers mapRegister = some (.ofMap map) :=
      wrote.frame.2.1 ▸ registers_of_map? held
    have kept : (next.keep mapRegister (some (.ofMap map'))).registers register = some _ :=
      (if_neg differ).trans (wrote.frame.2.1 ▸ given)
    rw [← (wrote.outcome hs).1] at maps same
    exact ((h.wrote hs wrote).undone keptMap maps).undone kept same

/-- The plain session does what is left of a draft without a batch. -/
theorem Shelved.draft (h : Shelved session plain batch) (hs : session.Sound)
    (ha : session.Accounted) (draft : Draft) :
    Shelved (session.perform draft.call).2 (plain.run draft.aside?.toList).2 batch := by
  cases draft with
  | mutate mutation => exact h.mutates hs ha (mutate_spec hs)
  | bytes payload into => exact h.keep into rfl
  | newMap into =>
    refine h.keep into ?_
    rw [h.database]
    rfl
  | clone source into =>
    have same := h.registers source
    unfold Draft.aside? Draft.call Session.run Session.perform
    dsimp only [Option.toList]
    cases given : session.registers source with
    | none =>
      rw [given] at same
      rw [Option.map_eq_none_iff.mp same]
      exact h
    | some value =>
      rw [given] at same
      obtain ⟨value', given', same⟩ := Option.map_eq_some_iff.mp same
      rw [given']
      exact h.keep into (congrArg some same)
  | befall medium =>
    have contents := congrArg (·.engine.contents) (space_befall hs medium)
    exact ⟨h.held, h.free, h.unlocked, h.database, h.contents.trans contents.symm, h.snapshots,
      h.registers⟩

/-- **What the drafts leave is shelved**, whatever they answered. -/
theorem Shelved.run (h : Shelved session plain batch) (hs : session.Sound) (ha : session.Accounted)
    (drafts : List Draft) :
    Shelved (session.run (drafts.map Draft.call)).2 (plain.run (drafts.filterMap Draft.aside?)).2
      batch := by
  induction drafts generalizing session plain with
  | nil => exact h
  | cons draft drafts ih =>
    have performs := perform_spec hs draft.call
    have later := ih (h.draft hs ha draft) (performs.sound hs) (ha.performs hs performs)
    have split : (draft :: drafts).filterMap Draft.aside? =
        draft.aside?.toList ++ drafts.filterMap Draft.aside? := by
      cases aside : draft.aside? <;> simp [aside]
    rw [split, (run_append plain _ _).1]
    exact later

/-! ## When the batch is discarded -/

/-- What is left after the batch is a twin of the plain session. -/
theorem Shelved.ended (h : Shelved session plain batch) (hp : plain.Sound)
    (closed : next.batch? = none) (database : next.database = session.database)
    (registers : next.registers = session.registers) (snapshots : next.snapshots = session.snapshots)
    (ledger : next.store.ledger = session.store.ledger.conclude batch .discarded)
    (contents : next.contents = session.contents)
    (unlocked : next.store.isLocked next.database = false) :
    next.Twins (plain.perform (.befall next.medium)).2 where
  database := by
    rw [database]
    exact h.database
  engine := by
    have engine := congrArg Workspace.engine (space_befall hp next.medium)
    refine engine.trans ?_
    rw [h.contents, ← contents]
    rfl
  locked := by
    rw [unlocked]
    exact (isLocked_befall hp _).trans h.unlocked
  snapshots := h.snapshots.trans snapshots.symm
  batch := by
    rw [closed]
    exact congrArg (Option.map Batch.unnumbered) h.free
  registers register := by
    rw [registers, ledger]
    exact h.registers register

/-- The session after a batch that took drafts and was then ended. -/
def afterBatch (session : Session) (drafts : List Draft) (ending : Call) : Session :=
  (session.run (.openBatch :: (drafts.map Draft.call ++ [ending]))).2

/-- The session as it is without that batch, on the medium that is left after it. -/
def withoutBatch (session : Session) (drafts : List Draft) (ending : Call) : Session :=
  ((session.run (drafts.filterMap Draft.aside?)).2.perform
    (.befall (session.afterBatch drafts ending).medium)).2

/-- The batch comes to nothing: it is discarded, or applying it fails. -/
def ComesToNothing (session : Session) (drafts : List Draft) (ending : Call) : Prop :=
  ending = .discard ∨ ending = .apply ∧ ∃ error,
    (session.answers (.openBatch :: (drafts.map Draft.call ++ [ending]))).getLast? =
      some (.failed error)

theorem afterBatch_eq (session : Session) (drafts : List Draft) (ending : Call) :
    session.afterBatch drafts ending =
      ((((session.perform .openBatch).2.run (drafts.map Draft.call)).2).perform ending).2 :=
  (run_append (session.perform .openBatch).2 (drafts.map Draft.call) [ending]).1

theorem Shelved.discard (h : Shelved session plain batch) (hs : session.Sound) (hp : plain.Sound) :
    (session.perform .discard).2.contents = session.contents ∧
      (session.perform .discard).2.Twins
        (plain.perform (.befall (session.perform .discard).2.medium)).2 := by
  obtain ⟨ongoing, held, rfl⟩ := h.held
  have performed : session.perform .discard =
      (.done, { session with store := session.store.discard ongoing, batch? := none }) := by
    simp [perform, held]
  have contents := congrArg (·.engine.contents) (space_discarded hs held)
  rw [performed]
  refine ⟨contents, h.ended hp rfl rfl rfl rfl rfl contents ?_⟩
  rw [Store.isLocked, database_discarded hs held]
  rfl

theorem Shelved.refused (h : Shelved session plain batch) (hs : session.Sound) (hp : plain.Sound)
    {error : StoreError} (failed : (session.perform .apply).1 = .failed error) :
    (session.perform .apply).2.contents = session.contents ∧
      (session.perform .apply).2.Twins
        (plain.perform (.befall (session.perform .apply).2.medium)).2 := by
  obtain ⟨ongoing, held, rfl⟩ := h.held
  obtain ⟨result, space, ends, performed⟩ := perform_apply hs.ownBatch held
  obtain ⟨engine, ledger, _, rfl⟩ := Batch.apply_spec ends
  rw [performed] at failed ⊢
  obtain ⟨taken, _⟩ | ⟨_, after, cause, refused⟩ :=
    (session.space.engine.write_spec ongoing.writes).outcome
  · rw [taken] at failed
    cases failed
  · rw [refused] at ledger
    have contents := (contents_applied hs space).trans ((congrArg Engine.contents engine).trans after)
    refine ⟨contents, h.ended hp rfl rfl rfl rfl ledger contents ?_⟩
    rw [Store.isLocked, Store.database_unlock_withWorkspace hs.present]
    rfl

/-- What is left of drafts without a batch changes nothing but what is kept under names. -/
theorem store_asides (session : Session) (drafts : List Draft) :
    (session.run (drafts.filterMap Draft.aside?)).2.store = session.store ∧
      (session.run (drafts.filterMap Draft.aside?)).2.database = session.database := by
  induction drafts generalizing session with
  | nil => exact ⟨rfl, rfl⟩
  | cons draft drafts ih =>
    cases draft with
    | mutate mutation => exact ih session
    | befall medium => exact ih session
    | bytes payload into => exact ih (session.keep into (some (.bytes payload)))
    | newMap into => exact ih (session.keep into (some (.ofMap (.new session.database))))
    | clone source into =>
      obtain ⟨store, database⟩ := ih (session.perform (.clone source into)).2
      have same : (session.perform (.clone source into)).2.store = session.store ∧
          (session.perform (.clone source into)).2.database = session.database := by
        unfold Session.perform
        dsimp only
        cases session.registers source <;> exact ⟨rfl, rfl⟩
      exact ⟨store.trans same.1, database.trans same.2⟩

/-- A batch that comes to nothing leaves a twin of the session without it. -/
theorem Accounted.afterBatch (ha : session.Accounted) (hs : session.Sound) (drafts : List Draft)
    (ending : Call) (opened : (session.perform .openBatch).1 = .done)
    (ends : session.ComesToNothing drafts ending) :
    (session.afterBatch drafts ending).contents = session.contents ∧
      (session.afterBatch drafts ending).Twins (session.withoutBatch drafts ending) := by
  have free : session.store.isLocked session.database = false := by
    cases locked : session.store.isLocked session.database with
    | false => rfl
    | true =>
      rw [perform_locked locked] at opened
      cases opened
  have opens := perform_spec hs .openBatch
  have shelved := (shelved_openBatch hs ha free).run (opens.sound hs) (ha.performs hs opens) drafts
  have sound := sound_run (opens.sound hs) (drafts.map Draft.call)
  have plain := sound_run hs (drafts.filterMap Draft.aside?)
  obtain ⟨store, database⟩ := store_asides session drafts
  have still : (session.run (drafts.filterMap Draft.aside?)).2.contents = session.contents := by
    rw [Session.contents, store, database]
    rfl
  rw [shelved.contents] at still
  unfold withoutBatch
  rw [afterBatch_eq, ← still]
  rcases ends with rfl | ⟨rfl, error, failed⟩
  · exact shelved.discard sound plain
  · have whole := (run_append (session.perform .openBatch).2 (drafts.map Draft.call) [.apply]).2
    have last (session : Session) : session.answers [.apply] = [(session.perform .apply).1] := rfl
    rw [answers_cons, whole, last, ← List.cons_append, List.getLast?_concat] at failed
    exact shelved.refused sound plain (Option.some.inj failed)

/-- **A discarded batch never happened.** Whatever was done with a database and whatever fails, a
batch that is discarded, or that the engine refuses, leaves the committed cells and their sequence,
and every value and handle as it was before the batch was opened, with the instance, the number and
the contents of what is staged on it at any depth. Whatever is called later is answered as if the
batch had never been opened, and leaves the same. -/
theorem discarded_batch_never_happened (store : Store) (database : DatabaseId)
    (history : List Call) (drafts : List Draft) (ending : Call) (later : List Call)
    (present : database < store.databases.size)
    (opened : (((start store database).run history).2.perform .openBatch).1 = .done)
    (ends : ((start store database).run history).2.ComesToNothing drafts ending) :
    (((start store database).run history).2.afterBatch drafts ending).contents =
        ((start store database).run history).2.contents ∧
      ((∀ draft ∈ drafts, draft.aside? = none) →
        (((start store database).run history).2.afterBatch drafts ending).ShowsAs
          ((start store database).run history).2) ∧
      (((start store database).run history).2.afterBatch drafts ending).answers later =
        (((start store database).run history).2.withoutBatch drafts ending).answers later ∧
      ((((start store database).run history).2.afterBatch drafts ending).run later).2.contents =
        ((((start store database).run history).2.withoutBatch drafts ending).run later).2.contents ∧
      ((((start store database).run history).2.afterBatch drafts ending).run later).2.ShowsAs
        ((((start store database).run history).2.withoutBatch drafts ending).run later).2 := by
  have fresh : (start store database).Sound := sound_start present
  have sound := sound_run fresh history
  have accounted := (accounted_start store database).run fresh history
  generalize ((start store database).run history).2 = session at *
  obtain ⟨contents, twins⟩ := accounted.afterBatch sound drafts ending opened ends
  have after := sound_run sound (.openBatch :: (drafts.map Draft.call ++ [ending]))
  have afterAccounted := accounted.run sound (.openBatch :: (drafts.map Draft.call ++ [ending]))
  have plain := sound_run sound (drafts.filterMap Draft.aside?)
  have plainAccounted := accounted.run sound (drafts.filterMap Draft.aside?)
  have befalls := perform_spec plain (.befall (session.afterBatch drafts ending).medium)
  obtain ⟨answers, last⟩ := twins.run after (befalls.sound plain) afterAccounted
    (plainAccounted.performs plain befalls) later
  refine ⟨contents, ?_, answers, last.contents, last.showsAs⟩
  intro mutating
  have nothing : drafts.filterMap Draft.aside? = [] := List.filterMap_eq_nil_iff.mpr mutating
  have shows := twins.showsAs
  unfold withoutBatch at shows
  rw [nothing] at shows
  exact shows

/-- A program that has a map in hand, with a map and bytes staged in it. -/
def nested : Session := ((start .single 0).run
  [.newMap 0, .newMap 1, .bytes [7] 2, .stage 1 [2] 2, .stage 0 [1] 1, .bytes [8] 3,
    .stage 0 [9] 3]).2

/-- Storing the map fails when the map inside it is stored already, and goes well the second time. -/
def halfBound : List Draft :=
  [.befall (.memory { Faults.none with readsLeft := some 3 }), .mutate (.putItem [1] [1] 0),
    .clone 0 4, .befall (.memory .none), .mutate (.putItem [1] [2] 4), .clone 4 5]

/-- A copy that was taken meanwhile is stored. -/
def storedAgain : List Call :=
  [.bytes [6] 6, .stage 5 [4] 6, .mutate false (.putItem [1] [3] 5), .snap 0, .getItem 0 [1] [2] 7,
    .getItem 0 [1] [3] 7, .stage 5 [4] 7]

/-- The copy is unbound after the batch, takes one more entry, and gets the instance that was handed
out in the batch. -/
theorem discarded_batch_never_happened_half_bound :
    nested.answers (.openBatch :: (halfBound.map Draft.call ++ [.discard])) =
        [.done, .done, .failed (.storage (.corrupted "injected read failure")), .done, .done, .done,
          .done, .done] ∧
      (nested.afterBatch halfBound .discard).contents = nested.contents ∧
      (nested.afterBatch halfBound .discard).answers storedAgain =
        [.done, .done, .done, .done, .absent, .done,
          .failed (.invalidOperation (.stagingOnPersisted ⟨1⟩))] ∧
      ((nested.afterBatch halfBound .discard).run storedAgain).2.stagedLength? 4 = some 2 := by
  have answered : nested.answers (.openBatch :: (halfBound.map Draft.call ++ [.discard])) =
      [.done, .done, .failed (.storage (.corrupted "injected read failure")), .done, .done, .done,
        .done, .done] := by decide +kernel
  have opened : (nested.perform .openBatch).1 = .done := by decide +kernel
  obtain ⟨contents, _, answers, _, shows⟩ := discarded_batch_never_happened .single 0
    [.newMap 0, .newMap 1, .bytes [7] 2, .stage 1 [2] 2, .stage 0 [1] 1, .bytes [8] 3, .stage 0 [9] 3]
    halfBound .discard storedAgain (by decide) opened (.inl rfl)
  have plain : (nested.withoutBatch halfBound .discard).answers storedAgain =
      [.done, .done, .done, .done, .absent, .done,
        .failed (.invalidOperation (.stagingOnPersisted ⟨1⟩))] := by decide +kernel
  have staged : ((nested.withoutBatch halfBound .discard).run storedAgain).2.stagedLength? 4 =
      some 2 := by decide +kernel
  exact ⟨answered, contents, answers.trans plain, (shows 4).2.2.trans staged⟩

end Session

end NestedStore
