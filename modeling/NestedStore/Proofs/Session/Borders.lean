import NestedStore.Proofs.Map.Handles
import NestedStore.Proofs.Session.Orderly

/-! # Calls on one database among others

Whatever a call does on one database, it spares the others (`Session.Performs.spares`). What it
takes from hand may be of another database, and nobody asks; but if it is not, then the database
stays in order, and so does what is said of it (`Session.Performs.advances`). -/
namespace NestedStore

/-! ## What a call leaves alone -/

/-- All databases but one are what they were. -/
structure Store.Aside (site : DatabaseId) (store next : Store) : Prop where
  other : ∀ {other}, other ≠ site → next.database other = store.database other
  size : next.databases.size = store.databases.size

namespace Store.Aside
variable {site : DatabaseId} {store next later : Store}

theorem refl (site : DatabaseId) (store : Store) : Aside site store store := ⟨fun _ => rfl, rfl⟩

theorem trans (h : Aside site store next) (rest : Aside site next later) : Aside site store later :=
  ⟨fun ne => (rest.other ne).trans (h.other ne), rest.size.trans h.size⟩

theorem modify (site : DatabaseId) (f : Database → Database) (store : Store) :
    Aside site store (store.modifyDatabase site f) := by
  refine ⟨fun {other} ne => ?_, size_modifyDatabase site f store⟩
  simp only [database, modifyDatabase, Array.getD_eq_getD_getElem?, Array.getElem?_modify,
    if_neg (Ne.symm ne)]

theorem withWorkspace (site : DatabaseId) (space : Workspace) (store : Store) :
    Aside site store (store.withWorkspace site space) :=
  have modified := modify site (fun database => { database with engine := space.engine }) store
  ⟨modified.other, modified.size⟩

end Store.Aside

namespace Ledger

/-- Only an undecided batch can be decided. -/
theorem outcome_conclude_or (ledger : Ledger) (batch : BatchId) (outcome : Outcome)
    (other : BatchId) : (ledger.conclude batch outcome).outcome other = ledger.outcome other ∨
      ledger.outcome other = .undecided ∧ other = batch := by
  cases decided : ledger.outcome batch with
  | applied | discarded => exact .inl (by rw [conclude, decided])
  | undecided =>
    by_cases mine : other = batch
    · exact .inr ⟨mine ▸ decided, mine⟩
    · have elsewhere : (ledger.outcomes.setIfInBounds batch outcome)[other]? =
          ledger.outcomes[other]? := Array.getElem?_setIfInBounds_ne (Ne.symm mine)
      rw [conclude, decided, Ledger.outcome, elsewhere]
      exact .inl rfl

theorem size_conclude (ledger : Ledger) (batch : BatchId) (outcome : Outcome) :
    (ledger.conclude batch outcome).outcomes.size = ledger.outcomes.size := by
  unfold conclude
  split
  · exact Array.size_setIfInBounds
  · rfl

end Ledger

namespace Session
variable {session next : Session} {call : Call} {answer : Answer} {owed : List InstanceId}

/-- What a call on one database is to the others: their databases are what they were, only the open
batch may have been decided, an open batch is the one that was open or a new one, and all snapshots
that were taken are of the database. -/
structure Spares (session next : Session) : Prop where
  database : next.database = session.database
  aside : Store.Aside session.database session.store next.store
  outcome : ∀ batch, next.store.ledger.outcome batch = session.store.ledger.outcome batch ∨
    session.store.ledger.outcome batch = .undecided ∧
      ∃ held, session.batch? = some held ∧ held.id = batch
  known : session.store.ledger.outcomes.size ≤ next.store.ledger.outcomes.size
  handedOut : handedOutIn session.store.events ≤ handedOutIn next.store.events
  batch : ∀ {later}, next.batch? = some later →
    (∃ held, session.batch? = some held ∧ held.id = later.id) ∨
      session.store.ledger.outcomes.size ≤ later.id
  ownBatch : next.OwnBatch
  snapshots : ∀ {name taken}, next.snapshots name = some taken →
    session.snapshots name = some taken ∨ taken.database = session.database

/-- What does not touch batches and snapshots. -/
theorem Spares.of_ledger (own : session.OwnBatch) (database : next.database = session.database)
    (aside : Store.Aside session.database session.store next.store)
    (ledger : next.store.ledger = session.store.ledger)
    (handedOut : handedOutIn session.store.events ≤ handedOutIn next.store.events)
    (batch? : next.batch? = session.batch?) (snapshots : next.snapshots = session.snapshots) :
    session.Spares next where
  database := database
  aside := aside
  outcome batch := .inl (congrArg (Ledger.outcome · batch) ledger)
  known := Nat.le_of_eq (congrArg (·.outcomes.size) ledger).symm
  handedOut := handedOut
  batch held := .inl ⟨_, batch? ▸ held, rfl⟩
  ownBatch batch held := database ▸ own batch (batch? ▸ held)
  snapshots given := .inl (snapshots ▸ given)

theorem Spares.keep (h : session.Spares next) (register : Register) (value? : Option Value) :
    session.Spares (next.keep register value?) :=
  ⟨h.database, h.aside, h.outcome, h.known, h.handedOut, h.batch, h.ownBatch, h.snapshots⟩

theorem Wrote.spares {batched : Bool} {effects : List Effect}
    (wrote : session.Wrote effects batched next) (own : session.OwnBatch) :
    session.Spares next := by
  have handedOut := Nat.le.intro wrote.handedOut.symm
  cases wrote with
  | atOnce free reached =>
    exact .of_ledger own rfl (.withWorkspace ..) (congrArg Setting.ledger reached.setting) handedOut
      rfl rfl
  | @later batch batched held reached =>
    have keeps := Batched.keeps_of_run reached.run
    have ledger : batched.space.ledger = session.store.ledger :=
      congrArg Setting.ledger reached.setting
    refine ⟨rfl, .withWorkspace .., fun batch => .inl (congrArg (Ledger.outcome · batch) ledger),
      Nat.le_of_eq (congrArg (·.outcomes.size) ledger).symm, handedOut, ?_, ?_, .inl⟩
    · intro later same
      cases same
      exact .inl ⟨batch, held, keeps.id.symm⟩
    · intro later same
      cases same
      exact ⟨reached.sound, keeps.database.trans (own batch held).2⟩

theorem Looked.spares {store : Store} (looked : session.Looked store) (own : session.OwnBatch) :
    session.Spares { session with store } := by
  have handedOut := Nat.le_of_eq looked.handedOut.symm
  obtain ⟨space, looks, rfl⟩ := looked
  exact .of_ledger own rfl (.withWorkspace ..) looks.ledger handedOut rfl rfl

theorem Spares.concluded {batch : Batch} (held : session.batch? = some batch)
    (database : next.database = session.database)
    (aside : Store.Aside session.database session.store next.store) {outcome : Outcome}
    (ledger : next.store.ledger = session.store.ledger.conclude batch.id outcome)
    (handedOut : handedOutIn session.store.events ≤ handedOutIn next.store.events)
    (closed : next.batch? = none) (snapshots : next.snapshots = session.snapshots) :
    session.Spares next where
  database := database
  aside := aside
  outcome other := by
    rw [ledger]
    exact (Ledger.outcome_conclude_or ..).imp_right fun ⟨undecided, mine⟩ =>
      ⟨undecided, batch, held, mine.symm⟩
  known := Nat.le_of_eq
    ((congrArg (·.outcomes.size) ledger).trans (Ledger.size_conclude ..)).symm
  handedOut := handedOut
  batch opened := nomatch closed.symm.trans opened
  ownBatch _ opened := nomatch closed.symm.trans opened
  snapshots given := .inl (snapshots ▸ given)

/-- **A call on one database spares the others.** -/
theorem Performs.spares (h : session.Performs call answer next) (own : session.OwnBatch) :
    session.Spares next := by
  have still : session.Spares session :=
    .of_ledger own rfl (.refl ..) rfl (Nat.le_refl _) rfl rfl
  cases h with
  | refused | illNamed => exact still
  | bytes | newMap | clone => exact still.keep _ _
  | stage _ _ _ looked => exact ((looked.spares own).keep _ _).keep _ _
  | mutate mutates =>
    cases mutates with
    | refused | illNamed => exact still
    | putItem _ _ wrote _ => exact (wrote.spares own).keep _ _
    | deleteItem _ wrote _ => exact wrote.spares own
    | setItem _ _ _ wrote _ => exact ((wrote.spares own).keep _ _).keep _ _
  | openBatch =>
    have modified := Store.Aside.modify session.database
      (fun database => { database with writer := some session.store.ledger.next }) session.store
    refine ⟨rfl, ⟨modified.other, modified.size⟩, fun batch => .inl (Ledger.outcome_openNext ..),
      ?_, Nat.le_refl _, ?_, ?_, .inl⟩
    · exact Nat.le_trans (Nat.le_succ _) (Nat.le_of_eq (Array.size_push _).symm)
    · intro later same
      cases same
      exact .inr (Nat.le_refl _)
    · intro later same
      cases same
      exact ⟨Batch.coherent_new _ _, rfl⟩
  | @apply batch space result held ends =>
    obtain ⟨_, ledger, events, _⟩ := Batch.apply_spec ends
    exact .concluded held rfl ((Store.Aside.withWorkspace ..).trans (.modify ..))
      ledger (Nat.le_of_eq events.symm) rfl rfl
  | @discard batch held =>
    have modified := Store.Aside.modify session.database
      (fun database => { database with writer := none }) session.store
    rw [← (own batch held).2] at modified
    refine .concluded held rfl ?_ rfl (Nat.le_refl _) rfl rfl
    rw [← (own batch held).2]
    exact ⟨modified.other, modified.size⟩
  | @snap into =>
    refine ⟨rfl, .refl .., still.outcome, still.known, Nat.le_refl _, still.batch, own, ?_⟩
    intro name taken given
    dsimp only at given
    split at given
    · cases given
      exact .inr rfl
    · exact .inl given
  | found _ _ _ looked => exact (looked.spares own).keep _ _
  | nothing looked => exact looked.spares own
  | befall => exact .of_ledger own rfl (.modify ..) rfl (Nat.le_refl _) rfl rfl

/-! ## What is in hand -/

/-- The handle is in some value in hand, at whatever depth. -/
def Has (session : Session) (handle : MapHandle) : Prop :=
  ∃ register value, session.registers register = some value ∧ handle ∈ value.handles

/-- The values that a mutation takes from hand. -/
def Mutation.takes : Mutation → List Register
  | .putItem _ _ register => [register]
  | .deleteItem _ _ => []
  | .setItem map _ register => [map, register]

/-- What the call takes from hand is of the database: all handles in the values that a mutation
stores, and the snapshot that is read. -/
def Fair (session : Session) : Call → Prop
  | .mutate _ mutation => ∀ register ∈ Mutation.takes mutation,
      ∀ value ∈ session.registers register, value.OwnedBy session.database
  | .getItem name _ _ _ | .getEntry name _ _ _ =>
    ∀ taken ∈ session.snapshots name, taken.database = session.database
  | _ => True

instance (session : Session) (call : Call) : Decidable (session.Fair call) := by
  unfold Fair Value.OwnedBy
  split <;> infer_instance

/-- The session with nothing in hand, and only with snapshots of its own database. -/
def bare (session : Session) : Session :=
  { session with
    registers := fun _ => none
    snapshots := fun name =>
      (session.snapshots name).filter fun taken => taken.database = session.database }

theorem sound_bare (present : session.database < session.store.databases.size)
    (own : session.OwnBatch) : session.bare.Sound :=
  ⟨present, fun held => own _ held, nofun⟩

theorem Has.of_keep {handle : MapHandle} {register : Register} {value? : Option Value}
    (has : (session.keep register value?).Has handle) :
    session.Has handle ∨ ∃ value, value? = some value ∧ handle ∈ value.handles := by
  obtain ⟨other, value, given, member⟩ := has
  dsimp only [keep] at given
  split at given
  · exact .inr ⟨value, given, member⟩
  · exact .inl ⟨other, value, given, member⟩

/-- What a call makes of a session in order: the database stays in order, what is said of it stays
true, and what is true is said by all handles of the database that the call makes. -/
structure Advances (session next : Session) : Prop where
  orderly : ∃ owed, next.bare.Orderly owed
  sanctions : ∀ batch? id, session.sanctioned batch? id → next.sanctioned batch? id
  has : ∀ {handle}, next.Has handle → session.Has handle ∨
    handle.owner = session.database ∧ handle.binding.Says next.sanctioned

theorem Advances.keep (h : session.Advances next) {register : Register} {value? : Option Value}
    (fine : ∀ value, value? = some value → ∀ handle ∈ value.handles, session.Has handle ∨
      handle.owner = session.database ∧ handle.binding.Says next.sanctioned) :
    session.Advances (next.keep register value?) := by
  refine ⟨h.orderly, h.sanctions, fun has => ?_⟩
  rcases has.of_keep with before | ⟨value, given, member⟩
  · exact h.has before
  · exact fine value given _ member

/-- Nothing is said of the database that is not true. -/
def Truthful (session : Session) : Prop :=
  ∀ handle, session.Has handle → handle.owner = session.database →
    handle.binding.Says session.sanctioned

theorem Truthful.every (h : session.Truthful) {register : Register} {value : Value}
    (given : session.registers register = some value) (mine : value.OwnedBy session.database) :
    value.Every session.sanctioned :=
  Value.every_iff.mpr fun handle member => h handle ⟨register, value, given, member⟩ (mine _ member)

/-- Values of the database that tell the truth are fine to have. -/
theorem Advances.keep_every (h : session.Advances next) {register : Register} {value : Value}
    (mine : value.OwnedBy session.database) (every : value.Every next.sanctioned) :
    session.Advances (next.keep register (some value)) := by
  refine h.keep fun _ same handle member => ?_
  cases same
  exact .inr ⟨mine handle member, Value.every_iff.mp every handle member⟩

theorem Wrote.bare {batched : Bool} {effects : List Effect}
    (wrote : session.Wrote effects batched next) : session.bare.Wrote effects batched next.bare := by
  cases wrote with
  | atOnce free reached => exact .atOnce free reached
  | later held reached => exact .later held reached

section Step
variable (sound : session.bare.Sound) (h : session.bare.Orderly owed)
include sound h

theorem Looked.advances {store : Store} (looked : session.Looked store) :
    session.Advances { session with store } := by
  have looked' : session.bare.Looked store := looked
  refine ⟨⟨owed, h.looked sound looked'⟩, ?_, .inl⟩
  have contents : Session.contents { session with store } = session.contents :=
    looked'.contents sound
  refine sanctioned_mono (fun batch => congrArg (Ledger.outcome · batch) looked.ledger) ?_
    fun held => ⟨_, held, rfl, fun stored => stored⟩
  intro id stored
  rwa [contents]

/-- A program that behaves lets the session advance, and what is said of new maps is true then. -/
theorem Wrote.advances {batched : Bool} {effects : List Effect}
    (wrote : session.Wrote effects batched next) {own : InstanceId → Prop}
    {result : Except StoreError Unit}
    (behaves : Behaves session.setting own session.view result effects) :
    session.Advances next ∧ ∀ batch? id,
      grown session.setting (applyAll session.view effects) session.sanctioned batch? id →
        next.sanctioned batch? id := by
  obtain ⟨late, orderly, _, sanctions⟩ := h.behaved sound wrote.bare behaves
  refine ⟨⟨⟨_, orderly⟩, fun batch? id known => sanctions batch? id (.inl known), fun has => ?_⟩,
    sanctions⟩
  obtain ⟨register, value, given, member⟩ := has
  exact .inl ⟨register, value, wrote.frame.2.1 ▸ given, member⟩

theorem PutsItem.advances {batched : Bool} {effects : List Effect} {table : Table} {key : Bytes}
    {register : Register} {value value' : Value} {result : Except StoreError Unit}
    (truthful : session.Truthful) (given : session.registers register = some value)
    (mine : value.OwnedBy session.database) (wrote : session.Wrote effects batched next)
    (room : handedOutIn next.store.events + 1 < UInt64.size)
    (puts : PutsItem session.setting session.view table key value result value' effects) :
    session.Advances (next.keep register (some value')) := by
  obtain ⟨behaves, every⟩ := puts.behaves h.consistent_view h.known
    (truthful.every given mine) (h.room wrote.bare room)
  obtain ⟨advances, sanctions⟩ := wrote.advances sound h behaves
  exact advances.keep_every (puts.ownedBy mine) (every.imp sanctions)

theorem SetsItem.advances {batched : Bool} {effects : List Effect} {key : Bytes}
    {mapRegister register : Register} {map map' : MapHandle} {value value' : Value}
    {result : Except StoreError Unit} (truthful : session.Truthful)
    (held : session.map? mapRegister = some map)
    (mapMine : (Value.ofMap map).OwnedBy session.database)
    (given : session.registers register = some value)
    (mine : value.OwnedBy session.database) (wrote : session.Wrote effects batched next)
    (room : handedOutIn next.store.events + 1 < UInt64.size)
    (sets : SetsItem session.setting session.view map key value result map' value' effects) :
    session.Advances ((next.keep mapRegister (some (.ofMap map'))).keep register (some value')) := by
  have mapEvery : map.binding.Every session.sanctioned :=
    truthful.every (registers_of_map? held) mapMine
  obtain ⟨⟨own, behaves⟩, mapEvery', every⟩ := sets.behaves h.consistent_view h.known mapEvery
    (truthful.every given mine) (h.room wrote.bare room)
  obtain ⟨advances, sanctions⟩ := wrote.advances sound h behaves
  obtain ⟨mapMine', mine'⟩ := sets.ownedBy mapMine mine
  exact (advances.keep_every mapMine' (mapEvery'.imp sanctions)).keep_every mine'
    (every.imp sanctions)

theorem Mutates.advances {batched : Bool} {mutation : Mutation} {effects : List Effect}
    (mutates : session.Mutates batched mutation effects answer next) (truthful : session.Truthful)
    (fair : session.Fair (.mutate batched mutation))
    (room : handedOutIn next.store.events + 1 < UInt64.size) : session.Advances next := by
  cases mutates with
  | refused | illNamed => exact ⟨⟨owed, h⟩, fun _ _ known => known, .inl⟩
  | putItem named given wrote puts =>
    exact PutsItem.advances sound h truthful given (fair _ List.mem_cons_self _ given) wrote room
      puts
  | deleteItem named wrote deletes =>
    have behaves : Behaves session.setting _ session.view (.ok ()) _ := deletes.steps.behaves
    exact (wrote.advances sound h behaves).1
  | @setItem mapRegister register _ _ _ _ _ _ _ _ held given differ wrote sets =>
    have kept := registers_of_map? held
    exact SetsItem.advances sound h truthful held (fair mapRegister List.mem_cons_self _ kept) given
      (fair register (List.mem_cons_of_mem _ List.mem_cons_self) _ given) wrote room sets

omit sound in
/-- A value that is read through a snapshot of the database is of it, and tells the truth. -/
theorem Reads.fine {name : Nat} {address : Address} {into : Register} {snapshot : Snapshot}
    {value : Value} (reads : session.Reads call name address into) (fair : session.Fair call)
    (given : session.snapshots name = some snapshot)
    (holds : snapshot.Holds session.database address.key value) :
    value.OwnedBy session.database ∧ value.Every session.sanctioned := by
  have mine : snapshot.database = session.database := by cases reads <;> exact fair snapshot given
  have taken : session.bare.snapshots name = some snapshot := by
    show (session.snapshots name).filter _ = some snapshot
    rw [given]
    exact if_pos (decide_eq_true mine)
  refine ⟨?_, h.offered reads taken holds⟩
  obtain ⟨form, rfl⟩ := holds.form
  cases form with
  | bytes => exact nofun
  | reference id => exact List.forall_mem_singleton.mpr rfl

omit sound in
/-- What a handle says stays true when something is staged on its map. -/
theorem Orderly.staging_says {map : MapHandle} (key : Bytes) (value : Value)
    (mine : map.binding.Says session.sanctioned) :
    (map.staging session.store.ledger key value).2.binding.Says session.sanctioned := by
  have applied {batch : BatchId} {id : InstanceId}
      (applied : session.store.ledger.outcome batch = .applied)
      (known : session.sanctioned (some batch) id) : session.sanctioned none id := by
    rw [← setting_ledger] at applied
    exact h.known.applied applied known
  have settled : (map.binding.settled session.store.ledger).Says session.sanctioned := by
    cases hb : map.binding with
    | unbound staged => trivial
    | bound id =>
      rw [hb] at mine
      exact mine
    | pending id batch staged =>
      rw [hb] at mine
      unfold Binding.settled
      dsimp only
      split
      · exact mine
      · next decided => exact applied decided mine
      · trivial
  unfold MapHandle.staging
  cases bound : map.binding.settled session.store.ledger with
  | unbound staged => trivial
  | bound id | pending id batch staged =>
    rw [bound] at settled
    exact settled

/-- **A call that takes only what is of its database advances the session.** -/
theorem Performs.advances (performs : session.Performs call answer next)
    (owned : ∀ {register map}, call.onMap? = some register → session.map? register = some map →
      map.owner = session.database)
    (truthful : session.Truthful) (fair : session.Fair call)
    (room : handedOutIn next.store.events + 1 < UInt64.size) : session.Advances next := by
  have still : session.Advances session := ⟨⟨owed, h⟩, fun _ _ known => known, .inl⟩
  cases performs with
  | refused | illNamed => exact still
  | bytes =>
    refine still.keep fun _ same => ?_
    cases same
    rintro _ ⟨⟩
  | newMap =>
    refine still.keep fun _ same handle member => ?_
    cases same
    cases List.mem_singleton.mp member
    exact .inr ⟨rfl, trivial⟩
  | clone given =>
    refine still.keep fun _ same handle member => ?_
    cases same
    exact .inl ⟨_, _, given, member⟩
  | @stage mapRegister register key map value store held given differ looked =>
    have advances := looked.advances sound h
    have kept := registers_of_map? held
    refine (advances.keep fun _ same handle member => ?_).keep (by rintro _ ⟨⟩)
    cases same
    rcases List.mem_cons.mp member with rfl | inside
    · have mine := owned rfl held
      have before := truthful map ⟨_, _, kept, List.mem_cons_self⟩ mine
      exact .inr ⟨(map.owner_staging ..).trans mine,
        (h.staging_says key value before).imp advances.sanctions⟩
    · rcases MapHandle.mem_handles_staging inside with ofValue | ofMap
      · exact .inl ⟨_, _, given, ofValue⟩
      · exact .inl ⟨_, _, kept, List.mem_cons_of_mem _ ofMap⟩
  | mutate mutates => exact mutates.advances sound h truthful fair room
  | openBatch free =>
    have noBatch : session.batch? = none := by
      cases held : session.batch? with
      | none => rfl
      | some batch => cases (h.batch held).locked.symm.trans free
    have contents := congrArg (·.engine.contents) (space_openBatch sound)
    refine ⟨⟨owed, h.openBatch sound free⟩,
      sanctioned_mono (fun batch => Ledger.outcome_openNext _ batch) ?_
        fun held => absurd (noBatch.symm.trans held) (by rintro ⟨⟩), .inl⟩
    exact fun {id} stored =>
      (congrArg (fun held : Contents => HasCount held.cells id) contents).mpr stored
  | apply held ends =>
    obtain ⟨outcome, ledger, decided⟩ := h.applied sound held ends
    exact ⟨⟨owed, h.apply sound held ends⟩, h.heard held decided ledger, .inl⟩
  | @discard batch held =>
    have cells : session.bare.Decided (Session.bare
        { session with store := session.store.discard batch, batch? := none }) batch .discarded :=
      .inl ⟨rfl, congrArg (·.engine.contents.cells) (space_discarded sound held)⟩
    exact ⟨⟨owed, h.concluded held rfl rfl rfl rfl rfl cells⟩, h.heard held cells rfl, .inl⟩
  | @snap into =>
    obtain ⟨owed', orderly, _⟩ := h.performs sound (@Performs.snap session.bare into) room
    have same : (session.perform (.snap into)).2.bare = (session.bare.perform (.snap into)).2 := by
      simp only [perform, bare, Session.mk.injEq, true_and, and_true]
      funext other
      split
      · exact if_pos (decide_eq_true rfl)
      · rfl
    exact ⟨⟨owed', same.symm ▸ orderly⟩, fun _ _ known => known, .inl⟩
  | @found call name address snapshot value store into reads given holds looked =>
    have advances := looked.advances sound h
    obtain ⟨mine, every⟩ := reads.fine h fair given holds
    exact advances.keep_every mine (every.imp advances.sanctions)
  | nothing looked => exact looked.advances sound h
  | @befall medium =>
    obtain ⟨owed', orderly, _⟩ := h.performs sound (@Performs.befall session.bare medium) room
    have contents := congrArg (·.engine.contents) (space_befall sound medium)
    refine ⟨⟨owed', orderly⟩, sanctioned_mono (fun _ => rfl) ?_
      fun held => ⟨_, held, rfl, fun stored => stored⟩, .inl⟩
    exact fun {id} stored =>
      (congrArg (fun held : Contents => HasCount held.cells id) contents).mpr stored

end Step

/-! ## A database among others -/

/-- A database stays in order while others are at work, with nothing in hand. -/
theorem Orderly.elsewhere (h : session.Orderly owed) (contents : next.contents = session.contents)
    (locked : next.store.isLocked next.database = session.store.isLocked session.database)
    (registers : ∀ register, next.registers register = none)
    (snapshots : ∀ {name taken}, next.snapshots name = some taken →
      session.snapshots name = some taken)
    (batch? : next.batch? = session.batch?)
    (outcome : ∀ {batch}, session.batch? = some batch →
      next.store.ledger.outcome batch.id = session.store.ledger.outcome batch.id)
    (known : session.store.ledger.outcomes.size ≤ next.store.ledger.outcomes.size)
    (handedOut : handedOutIn session.store.events ≤ handedOutIn next.store.events) :
    next.Orderly owed where
  consistent := by
    rw [contents]
    exact h.consistent
  numbered := by
    rw [contents]
    exact Nat.le_trans h.numbered (Nat.add_le_add_right handedOut 1)
  truthful given := nomatch (registers _).symm.trans given
  past taken := by
    rw [contents]
    exact h.past (snapshots taken)
  batch held := by
    rw [batch?] at held
    have tended := h.batch held
    refine ⟨⟨Nat.lt_of_lt_of_le tended.known known, (outcome held).trans tended.undecided, ?_⟩,
      tended.consistent, Nat.le_trans tended.numbered (Nat.add_le_add_right handedOut 1), ?_, ?_⟩
    · rw [contents]
      exact tended.pinned
    · rw [contents]
      exact tended.grown
    · rw [locked]
      exact tended.locked

end Session

end NestedStore
