import NestedStore.Proofs.Map.Resolved
import NestedStore.Proofs.Session.Calls

/-! # Sessions that cannot be told apart

Two sessions are twins when their databases are the same, their open batches are but for the number,
and whatever they keep under a name resolves to the same (`Twins`). Their ledgers may have counted
different batches. Twins answer every call alike and stay twins, whatever fails meanwhile
(`Twins.perform`, `Twins.run`), as no handle ever waits for another batch than the open one
(`Accounted`). -/
namespace NestedStore

/-! ## Workspaces and batches that are twins -/

/-- Workspaces on the same engine, each with its ledger. -/
structure Workspace.Twin (here there : Ledger) (s t : Workspace) : Prop where
  engine : t.engine = s.engine
  ledger : s.ledger = here
  ledger' : t.ledger = there

/-- The batch without its number. -/
def Batch.unnumbered (batch : Batch) : Batch := { batch with id := 0 }

/-- Batches of twin workspaces that are the same but for their numbers. -/
structure Batched.Twin (here there : Ledger) (id id' : BatchId) (s t : Batched) : Prop where
  space : Workspace.Twin here there s.space t.space
  number : s.batch.id = id
  number' : t.batch.id = id'
  batch : t.batch.unnumbered = s.batch.unnumbered

section Surfaces
variable {here there : Ledger} {id id' : BatchId}

theorem Workspace.serveRead_lockstep : Lockstep (Workspace.Twin here there) Eq
    Workspace.serveRead.run Workspace.serveRead.run := by
  unfold Workspace.serveRead
  refine Lockstep.bindExcept_get fun s t r => ?_
  rw [r.engine]
  generalize s.engine.serveRead = answer
  obtain ⟨engine, result⟩ := answer
  refine Lockstep.bindExcept_set ⟨rfl, r.ledger, r.ledger'⟩ ?_
  cases result <;> exact .pure rfl

theorem Workspace.write_lockstep (batch : WriteBatch) : Lockstep (Workspace.Twin here there) Eq
    (Workspace.write batch).run (Workspace.write batch).run := by
  unfold Workspace.write
  refine Lockstep.bindExcept_get fun s t r => ?_
  rw [r.engine]
  generalize s.engine.write batch = answer
  obtain ⟨engine, result, events⟩ := answer
  refine Lockstep.bindExcept_set ⟨rfl, r.ledger, r.ledger'⟩ ?_
  cases result <;> exact .pure rfl

theorem Snapshot.read_lockstep (snapshot : Snapshot) (key : Bytes) :
    Lockstep (Workspace.Twin here there) Eq (snapshot.read key).run (snapshot.read key).run :=
  Workspace.serveRead_lockstep.bindExcept fun _ => .pure rfl

/-- A workspace is twinned with one that has another ledger. -/
theorem Workspace.twinned : Twinned here there none none (Workspace.Twin here there) where
  get key := by
    refine Workspace.serveRead_lockstep.bindExcept fun _ => Lockstep.bindExcept_get fun s t r => ?_
    rw [r.engine]
    exact .pure rfl
  put _ _ := Workspace.write_lockstep _
  delete _ := Workspace.write_lockstep _
  note _ _ _ r := ⟨r.engine, r.ledger, r.ledger'⟩
  here_eq _ _ r := ⟨r.ledger, rfl⟩
  there_eq _ _ r := ⟨r.ledger', rfl⟩
  noteHere _ _ _ r := ⟨r.engine, r.ledger, r.ledger'⟩
  noteThere _ _ _ r := ⟨r.engine, r.ledger, r.ledger'⟩
  mode := rfl
  undecided := nofun
  undecided' := nofun

theorem Batch.read_lockstep {batch batch' : Batch} (same : batch'.unnumbered = batch.unnumbered)
    (key : Bytes) :
    Lockstep (Workspace.Twin here there) Eq (batch.read key).run (batch'.read key).run := by
  obtain ⟨-, -, snapshot, -, pending⟩ := Batch.mk.inj same
  unfold Batch.read
  rw [pending, snapshot]
  cases batch.pending[key]? with
  | some value? => exact .pure rfl
  | none => exact Snapshot.read_lockstep _ _

theorem Batched.add_lockstep (op : BatchOp) : Lockstep (Batched.Twin here there id id') Eq
    (Batched.add op).run (Batched.add op).run := by
  intro s t r
  refine ⟨rfl, r.space, r.number, r.number', ?_⟩
  exact congrArg (Batch.add · op) r.batch

/-- A batch is twinned with one that has another number. -/
theorem Batched.twinned (undecided : here.outcome id = .undecided)
    (undecided' : there.outcome id' = .undecided) :
    Twinned here there (some id) (some id') (Batched.Twin here there id id') where
  get key s t r := by
    obtain ⟨answers, spaces⟩ := Batch.read_lockstep r.batch key _ _ r.space
    exact ⟨answers, spaces, r.number, r.number', r.batch⟩
  put _ _ := Batched.add_lockstep _
  delete _ := Batched.add_lockstep _
  note _ _ _ r := ⟨⟨r.space.engine, r.space.ledger, r.space.ledger'⟩, r.number, r.number', r.batch⟩
  here_eq _ _ r := ⟨r.space.ledger, congrArg some r.number⟩
  there_eq _ _ r := ⟨r.space.ledger', congrArg some r.number'⟩
  noteHere _ _ _ r :=
    ⟨⟨r.space.engine, r.space.ledger, r.space.ledger'⟩, r.number, r.number', r.batch⟩
  noteThere _ _ _ r :=
    ⟨⟨r.space.engine, r.space.ledger, r.space.ledger'⟩, r.number, r.number', r.batch⟩
  mode := rfl
  undecided _ same := Option.some.inj same ▸ undecided
  undecided' _ same := Option.some.inj same ▸ undecided'

theorem Table.getItem_lockstep (table : Table) (snapshot : Snapshot) (key : Bytes) :
    Lockstep (Workspace.Twin here there) Eq (table.getItem snapshot key).run
      (table.getItem snapshot key).run := by
  refine (Snapshot.read_lockstep _ _).bindExcept fun stored? => ?_
  cases stored? with
  | none => exact .pure rfl
  | some stored => exact .lift

/-- Entries are read in lockstep through handles that resolve to the same. -/
theorem MapHandle.getItem_lockstep (snapshot : Snapshot) (key : Bytes) {map map' : MapHandle}
    (alike : map.resolved here = map'.resolved there) :
    Lockstep (Workspace.Twin here there) Eq (map.getItem snapshot key).run
      (map'.getItem snapshot key).run := by
  obtain ⟨owner, binding⟩ := map
  obtain ⟨_, binding'⟩ := map'
  obtain ⟨rfl, alike⟩ := MapHandle.mk.inj alike
  have instances := congrArg (Binding.instance? Ledger.empty)
    (congrArg (Binding.seen Ledger.empty) alike)
  rw [Binding.seen_resolved, Binding.seen_resolved, Binding.instance?_seen,
    Binding.instance?_seen] at instances
  refine Lockstep.bindExcept (Lockstep.bindExcept_get fun s t r => ?_) fun id => ?_
  · rw [r.ledger, r.ledger', MapHandle.instance?, MapHandle.instance?, instances]
    cases binding'.instance? there with
    | some id => exact .pure rfl
    | none => exact (Workspace.twinned.toInStep.report _).bindExcept fun _ => .pure rfl
  · refine (Snapshot.read_lockstep _ _).bindExcept fun stored? => ?_
    cases stored? with
    | none => exact .pure rfl
    | some stored => exact .lift

end Surfaces

namespace Session

/-! ## Handles that wait -/

/-- A handle that waits for a batch to be decided waits for the open one. -/
def heard (session : Session) (batch? : Option BatchId) (_ : InstanceId) : Prop :=
  ∀ batch, batch? = some batch → session.store.ledger.outcome batch = .undecided →
    ∃ held, session.batch? = some held ∧ held.id = batch

/-- Every batch that a handle waits for is the open one, which nobody else can take away. -/
structure Accounted (session : Session) : Prop where
  heard : ∀ {register value}, session.registers register = some value → value.Every session.heard
  known : ∀ {batch}, session.batch? = some batch →
    batch.id < session.store.ledger.outcomes.size ∧
      session.store.ledger.outcome batch.id = .undecided
  locked : ∀ {batch}, session.batch? = some batch →
    session.store.isLocked session.database = true

variable {session next : Session}

theorem accounted_start (store : Store) (database : DatabaseId) : (start store database).Accounted :=
  ⟨nofun, nofun, nofun⟩

theorem Accounted.keep (h : session.Accounted) (register : Register) {value? : Option Value}
    (every : ∀ value, value? = some value → value.Every session.heard) :
    (session.keep register value?).Accounted where
  heard given := by
    dsimp only [Session.keep] at given
    split at given
    · exact every _ given
    · exact h.heard given
  known := h.known
  locked := h.locked

theorem Accounted.put (h : session.Accounted) (register : Register) {value : Value}
    (every : value.Every session.heard) : (session.keep register (some value)).Accounted := by
  refine h.keep register ?_
  intro _ same
  cases same
  exact every

theorem Accounted.waitsFor (h : session.Accounted) {batch : Batch}
    (held : session.batch? = some batch) {register : Register} {value : Value}
    (given : session.registers register = some value) :
    value.Every (session.store.ledger.WaitsFor batch.id) := by
  refine (h.heard given).imp fun batch? id waits other same undecided => ?_
  obtain ⟨opened, theirs, mine⟩ := waits other same undecided
  cases held.symm.trans theirs
  exact mine.symm

/-- Handles go on waiting for the open batch, as long as no other is decided. -/
theorem heard_mono
    (outcomes : ∀ batch, next.store.ledger.outcome batch = .undecided →
      session.store.ledger.outcome batch = .undecided ∧ ∀ held, session.batch? = some held →
        held.id = batch → ∃ later, next.batch? = some later ∧ later.id = batch)
    (batch? : Option BatchId) (id : InstanceId) (waits : session.heard batch? id) :
    next.heard batch? id := by
  intro batch same undecided
  obtain ⟨before, goesOn⟩ := outcomes batch undecided
  obtain ⟨held, opened, mine⟩ := waits batch same before
  exact goesOn held opened mine

theorem Accounted.advance (h : session.Accounted) (registers : next.registers = session.registers)
    (outcomes : ∀ batch, next.store.ledger.outcome batch = .undecided →
      session.store.ledger.outcome batch = .undecided ∧ ∀ held, session.batch? = some held →
        held.id = batch → ∃ later, next.batch? = some later ∧ later.id = batch)
    (known : ∀ {batch}, next.batch? = some batch → batch.id < next.store.ledger.outcomes.size ∧
      next.store.ledger.outcome batch.id = .undecided)
    (locked : ∀ {batch}, next.batch? = some batch →
      next.store.isLocked next.database = true) : next.Accounted where
  heard given := (h.heard (registers ▸ given)).imp (heard_mono outcomes)
  known := known
  locked := locked

/-- The ledger and the open batch are what they were, but for the writes in it. -/
structure Unmoved (session next : Session) : Prop where
  ledger : next.store.ledger = session.store.ledger
  batch : next.batch?.map Batch.id = session.batch?.map Batch.id
  locked : next.store.isLocked next.database = session.store.isLocked session.database

theorem Unmoved.goesOn (h : session.Unmoved next) (batch : BatchId)
    (undecided : next.store.ledger.outcome batch = .undecided) :
    session.store.ledger.outcome batch = .undecided ∧ ∀ held, session.batch? = some held →
      held.id = batch → ∃ later, next.batch? = some later ∧ later.id = batch := by
  refine ⟨h.ledger ▸ undecided, ?_⟩
  intro held opened same
  subst same
  have same := h.batch
  rw [opened] at same
  exact Option.map_eq_some_iff.mp same

theorem Accounted.unmoved (h : session.Accounted) (still : session.Unmoved next)
    (registers : next.registers = session.registers) : next.Accounted := by
  have before {later : Batch} (opened : next.batch? = some later) :
      ∃ held, session.batch? = some held ∧ held.id = later.id := by
    have same := still.batch
    rw [opened] at same
    exact Option.map_eq_some_iff.mp same.symm
  refine h.advance registers still.goesOn ?_ ?_
  · intro batch opened
    obtain ⟨held, mine, same⟩ := before opened
    rw [still.ledger, ← same]
    exact h.known mine
  · intro batch opened
    obtain ⟨held, mine, _⟩ := before opened
    rw [still.locked]
    exact h.locked mine

theorem Looked.unmoved {store : Store} (h : session.Looked store) (hs : session.Sound) :
    session.Unmoved { session with store } := ⟨h.ledger, rfl, h.isLocked hs⟩

theorem Wrote.unmoved {batched : Bool} {effects : List Effect}
    (h : session.Wrote effects batched next) (hs : session.Sound) : session.Unmoved next := by
  obtain ⟨ledger, locked, shape⟩ := h.outcome hs
  refine ⟨ledger, ?_, locked⟩
  obtain ⟨_, free, still, _⟩ | ⟨_, _, _, _, held, now, same, _⟩ := shape
  · rw [free, still]
  · rw [held, now, Option.map_some, Option.map_some, same]

/-- What is bound now waits for the open batch, if one is open. -/
theorem heard_own (session : Session) (id : InstanceId) :
    session.heard session.setting.batch? id := by
  intro batch same undecided
  unfold setting at same
  cases held : session.batch? with
  | none =>
    rw [held] at same
    cases same
  | some opened =>
    rw [held] at same
    exact ⟨opened, rfl, Option.some.inj same⟩

theorem heard_none (session : Session) (id : InstanceId) : session.heard none id := nofun

theorem heard_binds {value value' : Value} {cells : KeySpace} {result : Except StoreError Unit}
    {effects : List Effect} (bind : value.Binds session.setting cells result value' effects)
    (every : value.Every session.heard) : value'.Every session.heard :=
  Value.Binds.every session.heard_own (fun _ _ => session.heard_none _) bind every

theorem PutsItem.heard {table : Table} {key : Bytes} {value value' : Value}
    {result : Except StoreError Unit} {effects : List Effect}
    (h : PutsItem session.setting session.view table key value result value' effects)
    (every : value.Every session.heard) : value'.Every session.heard := by
  cases h with
  | failed bind | unbound bind | refused bind | stored bind => exact heard_binds bind every

theorem SetsItem.heard {map map' : MapHandle} {key : Bytes} {value value' : Value}
    {result : Except StoreError Unit} {effects : List Effect}
    (h : SetsItem session.setting session.view map key value result map' value' effects)
    (mapEvery : map.binding.Every session.heard) (every : value.Every session.heard) :
    (Value.ofMap map').Every session.heard ∧ value'.Every session.heard := by
  cases h with
  | unbound bind =>
    exact ⟨Binding.Binds.every session.heard_own (fun _ _ => session.heard_none _) bind mapEvery,
      every⟩
  | set bind entry =>
    exact ⟨Binding.Binds.every session.heard_own (fun _ _ => session.heard_none _) bind mapEvery,
      entry.every every fun bind => heard_binds bind every⟩

theorem Accounted.every_map (h : session.Accounted) {register : Register} {map : MapHandle}
    (held : session.map? register = some map) : map.binding.Every session.heard :=
  h.heard (registers_of_map? held)

theorem Accounted.mutates (h : session.Accounted) (hs : session.Sound) {batched : Bool}
    {mutation : Mutation} {effects : List Effect} {answer : Answer}
    (mutates : session.Mutates batched mutation effects answer next) : next.Accounted := by
  cases mutates with
  | refused | illNamed => exact h
  | putItem named given wrote puts =>
    have still := wrote.unmoved hs
    exact (h.unmoved still wrote.frame.2.1).put _
      ((PutsItem.heard puts (h.heard given)).imp (heard_mono still.goesOn))
  | deleteItem named wrote deletes => exact h.unmoved (wrote.unmoved hs) wrote.frame.2.1
  | setItem held given differ wrote sets =>
    have still := wrote.unmoved hs
    obtain ⟨mapEvery, every⟩ := SetsItem.heard sets (h.every_map held) (h.heard given)
    exact ((h.unmoved still wrote.frame.2.1).put _ (mapEvery.imp (heard_mono still.goesOn))).put _
      (every.imp (heard_mono still.goesOn))

/-- A batch that was decided is waited for no more. -/
theorem Accounted.concluded (h : session.Accounted) {batch : Batch} {outcome : Outcome}
    (held : session.batch? = some batch) (closed : next.batch? = none)
    (registers : next.registers = session.registers)
    (ledger : next.store.ledger = session.store.ledger.conclude batch.id outcome)
    (decided : outcome ≠ .undecided) : next.Accounted := by
  obtain ⟨known, undecided⟩ := h.known held
  refine h.advance registers ?_ (fun opened => absurd (closed.symm.trans opened) nofun)
    (fun opened => absurd (closed.symm.trans opened) nofun)
  intro other waits
  rw [ledger, Ledger.outcome_conclude known undecided] at waits
  by_cases mine : other = batch.id
  · rw [if_pos mine] at waits
    exact absurd waits decided
  · rw [if_neg mine] at waits
    refine ⟨waits, ?_⟩
    intro opened same theirs
    cases held.symm.trans same
    exact absurd theirs.symm mine

/-- **Calls leave every handle waiting for the open batch**, or for none. -/
theorem Accounted.performs (h : session.Accounted) (hs : session.Sound) {call : Call}
    {answer : Answer} (performs : session.Performs call answer next) : next.Accounted := by
  cases performs with
  | refused | illNamed => exact h
  | bytes | newMap => exact h.put _ trivial
  | clone given => exact h.put _ (h.heard given)
  | @stage _ _ key map value _ held given differ looked =>
    have still := looked.unmoved hs
    have every : (Value.ofMap (map.staging session.store.ledger key value).2).Every session.heard :=
      MapHandle.staging_every (fun _ _ => session.heard_none _) (h.every_map held) (h.heard given) key
    exact ((h.unmoved still rfl).put _ (every.imp (heard_mono still.goesOn))).keep _ (by rintro _ ⟨⟩)
  | mutate mutates => exact h.mutates hs mutates
  | openBatch free =>
    have noBatch : session.batch? = none := by
      cases held : session.batch? with
      | none => rfl
      | some batch => cases (h.locked held).symm.trans free
    have current := current_openBatch hs
    refine h.advance rfl ?_ ?_ ?_
    · intro batch undecided
      refine ⟨(Ledger.outcome_openNext _ _).symm.trans undecided, ?_⟩
      intro held opened
      cases noBatch.symm.trans opened
    · intro _ same
      cases same
      exact ⟨current.known, current.undecided⟩
    · intro _ _
      rw [Store.isLocked, Store.database_openBatch hs.present]
      rfl
  | apply held ends =>
    obtain ⟨_, ledger, _, _⟩ := Batch.apply_spec ends
    refine h.concluded held rfl rfl ledger ?_
    split <;> rintro ⟨⟩
  | discard held => exact h.concluded held rfl rfl rfl (by rintro ⟨⟩)
  | snap => exact ⟨h.heard, h.known, h.locked⟩
  | found _ taken holds looked =>
    obtain ⟨form, rfl⟩ := holds.form
    refine (h.unmoved (looked.unmoved hs) rfl).put _ ?_
    cases form with
    | bytes payload => trivial
    | reference id => exact heard_none _ id
  | nothing looked => exact h.unmoved (looked.unmoved hs) rfl
  | befall =>
    exact h.unmoved ⟨rfl, rfl, isLocked_befall hs _⟩ rfl

theorem Accounted.run (h : session.Accounted) (hs : session.Sound) (calls : List Call) :
    (session.run calls).2.Accounted := by
  induction calls generalizing session with
  | nil => exact h
  | cons call calls ih =>
    have performs := perform_spec hs call
    exact ih (h.performs hs performs) (performs.sound hs)

/-! ## Twins -/

/-- Two sessions that nothing which is answered tells apart. -/
structure Twins (session other : Session) : Prop where
  database : other.database = session.database
  engine : other.space.engine = session.space.engine
  locked : other.store.isLocked other.database = session.store.isLocked session.database
  snapshots : other.snapshots = session.snapshots
  batch : other.batch?.map Batch.unnumbered = session.batch?.map Batch.unnumbered
  registers : ∀ register, (other.registers register).map (Value.resolved other.store.ledger) =
    (session.registers register).map (Value.resolved session.store.ledger)

variable {other next' : Session}

/-- A name stands for nothing with both, or for values that resolve to the same. -/
theorem Twins.register (h : session.Twins other) (register : Register) :
    (session.registers register = none ∧ other.registers register = none) ∨
      ∃ value value', session.registers register = some value ∧
        other.registers register = some value' ∧
        value.resolved session.store.ledger = value'.resolved other.store.ledger := by
  have same := h.registers register
  cases given : session.registers register with
  | none =>
    rw [given] at same
    exact .inl ⟨rfl, Option.map_eq_none_iff.mp same⟩
  | some value =>
    rw [given] at same
    obtain ⟨value', given', same⟩ := Option.map_eq_some_iff.mp same
    exact .inr ⟨value, value', rfl, given', same.symm⟩

/-- A name stands for no map with either, or for maps that resolve to the same. -/
theorem Twins.map (h : session.Twins other) (register : Register) :
    (session.map? register = none ∧ other.map? register = none) ∨
      ∃ map map', session.map? register = some map ∧ other.map? register = some map' ∧
        map.resolved session.store.ledger = map'.resolved other.store.ledger := by
  unfold map?
  rcases h.register register with ⟨given, given'⟩ | ⟨value, value', given, given', same⟩
  · rw [given, given']
    exact .inl ⟨rfl, rfl⟩
  · rw [given, given', Option.bind_some, Option.bind_some]
    have maps := congrArg Value.asMap? same
    rw [Value.asMap?_resolved, Value.asMap?_resolved] at maps
    cases held : value.asMap? with
    | none =>
      rw [held] at maps
      exact .inl ⟨rfl, Option.map_eq_none_iff.mp maps.symm⟩
    | some map =>
      rw [held] at maps
      obtain ⟨map', held', alike⟩ := Option.map_eq_some_iff.mp maps.symm
      exact .inr ⟨map, map', rfl, held', alike.symm⟩

/-- No batch is open with either, or the same one but for its number. -/
theorem Twins.open_ (h : session.Twins other) :
    (session.batch? = none ∧ other.batch? = none) ∨
      ∃ batch batch', session.batch? = some batch ∧ other.batch? = some batch' ∧
        batch'.unnumbered = batch.unnumbered := by
  have same := h.batch
  cases held : session.batch? with
  | none =>
    rw [held] at same
    exact .inl ⟨rfl, Option.map_eq_none_iff.mp same⟩
  | some batch =>
    rw [held] at same
    obtain ⟨batch', held', same⟩ := Option.map_eq_some_iff.mp same
    exact .inr ⟨batch, batch', rfl, held', same⟩

theorem Twins.keep (h : session.Twins other) (register : Register) {value? value?' : Option Value}
    (same : value?.map (Value.resolved session.store.ledger) =
      value?'.map (Value.resolved other.store.ledger)) :
    (session.keep register value?).Twins (other.keep register value?') := by
  refine ⟨h.database, h.engine, h.locked, h.snapshots, h.batch, fun name => ?_⟩
  have named := h.registers name
  unfold Session.keep
  dsimp only
  split
  · exact same.symm
  · exact named

theorem Twins.put (h : session.Twins other) (register : Register) {value value' : Value}
    (same : value.resolved session.store.ledger = value'.resolved other.store.ledger) :
    (session.keep register (some value)).Twins (other.keep register (some value')) :=
  h.keep register (congrArg some same)

/-- Twins whose workspaces and batches move in lockstep remain twins. -/
theorem Twins.moved (h : session.Twins other) (hs : session.Sound) (ho : other.Sound)
    {space space' : Workspace} {batch? batch?' : Option Batch}
    (spaces : Workspace.Twin session.store.ledger other.store.ledger space space')
    (batches : batch?'.map Batch.unnumbered = batch?.map Batch.unnumbered) :
    Twins
      { session with store := session.store.withWorkspace session.database space, batch? }
      { other with
        store := other.store.withWorkspace other.database space', batch? := batch?' } where
  database := h.database
  engine := by
    rw [Session.space, Session.space, Store.workspace_withWorkspace ho.present,
      Store.workspace_withWorkspace hs.present]
    exact spaces.engine
  locked := by
    rw [isLocked_withWorkspace hs, isLocked_withWorkspace ho]
    exact h.locked
  snapshots := h.snapshots
  batch := batches
  registers register := by
    have same := h.registers register
    rw [← spaces.ledger, ← spaces.ledger'] at same
    exact same

theorem Twins.space (h : session.Twins other) :
    Workspace.Twin session.store.ledger other.store.ledger session.space other.space :=
  ⟨h.engine, rfl, rfl⟩

/-- What works on one database moves twins in lockstep. -/
theorem Twins.on {α : Type} (h : session.Twins other) (hs : session.Sound) (ho : other.Sound)
    {Q : α → α → Prop} {action action' : StateM Workspace α}
    (lockstep : Lockstep (Workspace.Twin session.store.ledger other.store.ledger) Q action action') :
    ∃ a a' store store', (Store.on session.database action).run session.store = (a, store) ∧
      (Store.on other.database action').run other.store = (a', store') ∧ Q a a' ∧
      Twins { session with store } { other with store := store' } ∧
      store.ledger = session.store.ledger ∧ store'.ledger = other.store.ledger := by
  obtain ⟨answers, spaces⟩ := lockstep _ _ h.space
  exact ⟨_, _, _, _, rfl, rfl, answers, h.moved hs ho spaces h.batch, spaces.ledger, spaces.ledger'⟩

/-- What works on the open batch moves twins in lockstep. -/
theorem Twins.onBatch {α : Type} (h : session.Twins other) (hs : session.Sound) (ho : other.Sound)
    {batch batch' : Batch} (held : session.batch? = some batch) (held' : other.batch? = some batch')
    (same : batch'.unnumbered = batch.unnumbered) {Q : α → α → Prop}
    {action action' : StateM Batched α}
    (lockstep : Lockstep (Batched.Twin session.store.ledger other.store.ledger batch.id batch'.id) Q
      action action') :
    ∃ a a' later later' store store',
      (Store.onBatch batch action).run session.store = ((a, later), store) ∧
      (Store.onBatch batch' action').run other.store = ((a', later'), store') ∧ Q a a' ∧
      Twins { session with store, batch? := some later }
        { other with store := store', batch? := some later' } ∧
      store.ledger = session.store.ledger ∧ store'.ledger = other.store.ledger := by
  obtain ⟨_, mine⟩ := hs.coherent held
  obtain ⟨_, mine'⟩ := ho.coherent held'
  obtain ⟨answers, ended⟩ := lockstep ⟨session.space, batch⟩ ⟨other.space, batch'⟩
    ⟨h.space, rfl, rfl, same⟩
  unfold Store.onBatch
  rw [mine, mine']
  refine ⟨_, _, _, _, _, _, rfl, rfl, answers, ?_, ended.space.ledger, ended.space.ledger'⟩
  refine h.moved hs ho ended.space ?_
  rw [Option.map_some, Option.map_some]
  exact congrArg some ended.batch

/-- What is written at once, or left to the open batch, moves twins in lockstep. -/
theorem Twins.write {α : Type} (h : session.Twins other) (hs : session.Sound) (ho : other.Sound)
    (ha : session.Accounted) (hb : other.Accounted) {Q : α → α → Prop}
    (action action' : (σ : Type) → [Surface σ] → StateM σ α)
    (lockstep : ∀ {σ : Type} [Surface σ] {batch? batch?' : Option BatchId} {R : σ → σ → Prop},
      Twinned session.store.ledger other.store.ledger batch? batch?' R →
        Lockstep R Q (action σ) (action' σ)) (batched : Bool) :
    (session.write batched (Store.on session.database (action Workspace))
          (fun batch => Store.onBatch batch (action Batched)) = none ∧
        other.write batched (Store.on other.database (action' Workspace))
          (fun batch => Store.onBatch batch (action' Batched)) = none) ∨
      ∃ a a' next next', session.write batched (Store.on session.database (action Workspace))
          (fun batch => Store.onBatch batch (action Batched)) = some (a, next) ∧
        other.write batched (Store.on other.database (action' Workspace))
          (fun batch => Store.onBatch batch (action' Batched)) = some (a', next') ∧
        Q a a' ∧ next.Twins next' ∧ next.store.ledger = session.store.ledger ∧
        next'.store.ledger = other.store.ledger := by
  unfold Session.write
  rcases h.open_ with ⟨free, free'⟩ | ⟨batch, batch', held, held', same⟩
  · rw [free, free']
    cases batched with
    | true => exact .inl ⟨rfl, rfl⟩
    | false =>
      obtain ⟨a, a', store, store', ended, ended', answers, twins, ledgers⟩ :=
        h.on hs ho (lockstep Workspace.twinned)
      dsimp only
      rw [ended, ended']
      rw [free, free'] at twins
      exact .inr ⟨_, _, _, _, rfl, rfl, answers, twins, ledgers⟩
  · rw [held, held']
    cases batched with
    | false => exact .inl ⟨rfl, rfl⟩
    | true =>
      obtain ⟨a, a', later, later', store, store', ended, ended', whole⟩ := h.onBatch hs ho held
        held' same (lockstep (Batched.twinned (ha.known held).2 (hb.known held').2))
      dsimp only
      rw [ended, ended']
      exact .inr ⟨_, _, _, _, rfl, rfl, whole⟩

/-! ## Calls -/

/-- The same is answered, and twins are left. -/
def Same (first second : Answer × Session) : Prop :=
  first.1 = second.1 ∧ first.2.Twins second.2

theorem Twins.snapshot (h : session.Twins other) :
    other.store.snapshot other.database = session.store.snapshot session.database := by
  have contents : other.contents = session.contents := congrArg Engine.contents h.engine
  show Snapshot.mk other.database other.contents = Snapshot.mk session.database session.contents
  rw [h.database, contents]

section Calls
variable (h : session.Twins other) (hs : session.Sound) (ho : other.Sound)
include h hs ho

theorem Twins.putItem (ha : session.Accounted) (hb : other.Accounted) (batched : Bool)
    (tablePrefix key : Bytes) (register : Register) :
    Same (session.mutate batched (.putItem tablePrefix key register))
      (other.mutate batched (.putItem tablePrefix key register)) := by
  have named' : Table.named other.database tablePrefix = Table.named session.database tablePrefix :=
    congrArg (Table.named · tablePrefix) h.database
  unfold mutate
  dsimp only
  rcases h.register register with ⟨given, given'⟩ | ⟨value, value', given, given', same⟩
  · rw [given, given']
    exact ⟨rfl, h⟩
  · cases named : Table.named session.database tablePrefix with
    | error error =>
      rw [given, given', named', named]
      exact ⟨rfl, h⟩
    | ok table =>
      have owner := Table.named_owner named
      rw [given, given', named', named]
      dsimp only
      rw [write_putItem hs.ownBatch owner, write_putItem ho.ownBatch (owner.trans h.database.symm)]
      obtain ⟨refused, refused'⟩ | ⟨⟨result, value⟩, ⟨_, value'⟩, next, next', wrote, wrote', answers,
        twins, ledger, ledger'⟩ := h.write hs ho ha hb (fun _ => table.putItem key value)
          (fun _ => table.putItem key value')
          (fun twinned => Table.putItem_lockstep twinned table key same) batched
      · rw [refused, refused']
        exact ⟨rfl, h⟩
      · obtain ⟨rfl, same⟩ := answers
        rw [wrote, wrote']
        rw [← ledger, ← ledger'] at same
        exact ⟨rfl, twins.put register same⟩

theorem Twins.deleteItem (ha : session.Accounted) (hb : other.Accounted) (batched : Bool)
    (tablePrefix key : Bytes) :
    Same (session.mutate batched (.deleteItem tablePrefix key))
      (other.mutate batched (.deleteItem tablePrefix key)) := by
  have named' : Table.named other.database tablePrefix = Table.named session.database tablePrefix :=
    congrArg (Table.named · tablePrefix) h.database
  unfold mutate
  dsimp only
  cases named : Table.named session.database tablePrefix with
  | error error =>
    rw [named', named]
    exact ⟨rfl, h⟩
  | ok table =>
    have owner := Table.named_owner named
    rw [named', named]
    dsimp only
    rw [write_deleteItem hs.ownBatch owner, write_deleteItem ho.ownBatch (owner.trans h.database.symm)]
    obtain ⟨refused, refused'⟩ | ⟨result, _, next, next', wrote, wrote', rfl, twins, _⟩ :=
      h.write hs ho ha hb (fun σ => (table.deleteItem key : Action σ Unit).run)
        (fun σ => (table.deleteItem key : Action σ Unit).run)
        (fun twinned => twinned.delete _) batched
    · rw [refused, refused']
      exact ⟨rfl, h⟩
    · rw [wrote, wrote']
      exact ⟨rfl, twins⟩

theorem Twins.setItem (ha : session.Accounted) (hb : other.Accounted) (batched : Bool)
    (mapRegister : Register) (key : Bytes) (register : Register) :
    Same (session.mutate batched (.setItem mapRegister key register))
      (other.mutate batched (.setItem mapRegister key register)) := by
  unfold mutate
  dsimp only
  rcases h.map mapRegister with ⟨held, held'⟩ | ⟨map, map', held, held', alike⟩
  · rw [held, held']
    exact ⟨rfl, h⟩
  · rcases h.register register with ⟨given, given'⟩ | ⟨value, value', given, given', same⟩
    · rw [held, held', given, given']
      exact ⟨rfl, h⟩
    · rw [held, held', given, given']
      dsimp only
      by_cases itself : register = mapRegister
      · rw [if_pos itself, if_pos itself]
        exact ⟨rfl, h⟩
      · rw [if_neg itself, if_neg itself, write_setItem hs.ownBatch (hs.owned held),
          write_setItem ho.ownBatch (ho.owned held')]
        obtain ⟨refused, refused'⟩ | ⟨⟨result, mapped, after⟩, ⟨_, mapped', after'⟩, next, next', wrote,
          wrote', answers, twins, ledger, ledger'⟩ := h.write hs ho ha hb
            (fun _ => map.setItem key value) (fun _ => map'.setItem key value')
            (fun twinned => MapHandle.setItem_lockstep twinned key alike same) batched
        · rw [refused, refused']
          exact ⟨rfl, h⟩
        · obtain ⟨rfl, alike, same⟩ := answers
          rw [wrote, wrote']
          rw [← ledger, ← ledger'] at alike same
          have maps : (Value.ofMap mapped).resolved next.store.ledger =
              (Value.ofMap mapped').resolved next'.store.ledger := congrArg Value.ofMap alike
          exact ⟨rfl, (twins.put mapRegister maps).put register same⟩

theorem Twins.stage (mapRegister : Register) (key : Bytes) (register : Register) :
    Same (session.perform (.stage mapRegister key register))
      (other.perform (.stage mapRegister key register)) := by
  unfold perform
  dsimp only
  rcases h.map mapRegister with ⟨held, held'⟩ | ⟨map, map', held, held', alike⟩
  · rw [held, held']
    exact ⟨rfl, h⟩
  · rcases h.register register with ⟨given, given'⟩ | ⟨value, value', given, given', same⟩
    · rw [held, held', given, given']
      exact ⟨rfl, h⟩
    · rw [held, held', given, given']
      dsimp only
      by_cases itself : register = mapRegister
      · rw [if_pos itself, if_pos itself]
        exact ⟨rfl, h⟩
      · rw [if_neg itself, if_neg itself, Store.stage, Store.stage, hs.owned held, ho.owned held']
        obtain ⟨⟨result, mapped⟩, ⟨_, mapped'⟩, store, store', ended, ended', answers, twins, ledger,
          ledger'⟩ := h.on hs ho (MapHandle.stage_lockstep Workspace.twinned key alike same)
        obtain ⟨rfl, alike⟩ := answers
        rw [ended, ended']
        rw [← ledger, ← ledger'] at alike
        have maps : (Value.ofMap mapped).resolved store.ledger =
            (Value.ofMap mapped').resolved store'.ledger := congrArg Value.ofMap alike
        exact ⟨rfl, (twins.put mapRegister maps).keep register rfl⟩

/-- What is read through a snapshot is the same. -/
theorem Twins.read {action action' : Action Workspace (Option Value)} (into : Register)
    (lockstep : Lockstep (Workspace.Twin session.store.ledger other.store.ledger) Eq action.run
      action'.run)
    (plain : ∀ {s t : Workspace} {value : Value}, Ends action s (.ok (some value)) t →
      ∃ owner form, value = .ofStored owner form) :
    Same (session.read action into) (other.read action' into) := by
  unfold Session.read
  obtain ⟨result, _, store, store', ended, ended', rfl, twins, _⟩ := h.on hs ho lockstep
  rw [ended, ended']
  dsimp only
  cases result with
  | error error => exact ⟨rfl, twins⟩
  | ok value? =>
    cases value? with
    | none => exact ⟨rfl, twins⟩
    | some value =>
      obtain ⟨_, found, _⟩ := Store.on_spec ended
      obtain ⟨owner, form, rfl⟩ := plain found
      refine ⟨rfl, twins.put into ?_⟩
      rw [Value.resolved_ofStored, Value.resolved_ofStored]

omit hs ho in
/-- A decision on the open batch makes the same of every handle. -/
theorem Twins.registers_concluded (ha : session.Accounted) (hb : other.Accounted)
    {batch batch' : Batch} (held : session.batch? = some batch) (held' : other.batch? = some batch')
    (outcome : Outcome) (register : Register) :
    (other.registers register).map
        (Value.resolved (other.store.ledger.conclude batch'.id outcome)) =
      (session.registers register).map
        (Value.resolved (session.store.ledger.conclude batch.id outcome)) := by
  obtain ⟨known, undecided⟩ := ha.known held
  obtain ⟨known', undecided'⟩ := hb.known held'
  rcases h.register register with ⟨given, given'⟩ | ⟨value, value', given, given', same⟩
  · rw [given, given']
    rfl
  · have waits := ha.waitsFor held given
    have waits' := hb.waitsFor held' given'
    rw [given, given', Option.map_some, Option.map_some,
      Value.resolved_conclude (Ledger.concludes known undecided outcome) waits,
      Value.resolved_conclude (Ledger.concludes known' undecided' outcome) waits', same]

theorem Twins.openBatch (ha : session.Accounted) (hb : other.Accounted) :
    Same (session.perform .openBatch) (other.perform .openBatch) := by
  cases locked : session.store.isLocked session.database with
  | true =>
    rw [perform_locked locked, perform_locked (h.locked.trans locked)]
    exact ⟨rfl, h⟩
  | false =>
    have locked' := h.locked.trans locked
    have engine := h.engine
    rw [perform_openBatch locked, perform_openBatch locked']
    refine ⟨rfl, h.database, ?_, ?_, h.snapshots, ?_, fun register => ?_⟩
    · rw [space_openBatch hs, space_openBatch ho]
      exact engine
    · rw [Store.isLocked, Store.isLocked, Store.database_openBatch hs.present,
        Store.database_openBatch ho.present]
      rfl
    · exact congrArg (fun snapshot => some (Batch.new 0 snapshot)) h.snapshot
    · have agrees {session : Session} (ha : session.Accounted) {value : Value}
          (given : session.registers register = some value) :
          value.resolved session.store.ledger.openNext = value.resolved session.store.ledger :=
        Value.resolved_congr ((ha.heard given).imp fun _ _ _ _ _ => Ledger.outcome_openNext _ _)
      rcases h.register register with ⟨given, given'⟩ | ⟨value, value', given, given', same⟩
      · rw [given, given']
        rfl
      · rw [given, given', Option.map_some, Option.map_some]
        exact congrArg some (((agrees hb given').trans same.symm).trans (agrees ha given).symm)

theorem Twins.apply (ha : session.Accounted) (hb : other.Accounted) :
    Same (session.perform .apply) (other.perform .apply) := by
  rcases h.open_ with ⟨free, free'⟩ | ⟨batch, batch', held, held', same⟩
  · unfold perform
    rw [free, free']
    exact ⟨rfl, h⟩
  · obtain ⟨result, space, ends, performed⟩ := perform_apply hs.ownBatch held
    obtain ⟨result', space', ends', performed'⟩ := perform_apply ho.ownBatch held'
    obtain ⟨engine, ledger, _, rfl⟩ := Batch.apply_spec ends
    obtain ⟨engine', ledger', _, rfl⟩ := Batch.apply_spec ends'
    obtain ⟨-, -, -, queued, -⟩ := Batch.mk.inj same
    have writes : batch'.writes = batch.writes := by rw [Batch.writes, Batch.writes, queued]
    rw [h.engine, writes] at engine' ledger'
    rw [performed, performed', h.engine, writes]
    refine ⟨rfl, h.database, ?_, ?_, h.snapshots, rfl, fun register => ?_⟩
    · rw [space_applied hs, space_applied ho, engine, engine']
    · rw [Store.isLocked, Store.isLocked, Store.database_unlock_withWorkspace hs.present,
        Store.database_unlock_withWorkspace ho.present]
    · show (other.registers register).map (Value.resolved space'.ledger) =
        (session.registers register).map (Value.resolved space.ledger)
      rw [ledger, ledger']
      exact h.registers_concluded ha hb held held' _ register

theorem Twins.discard (ha : session.Accounted) (hb : other.Accounted) :
    Same (session.perform .discard) (other.perform .discard) := by
  unfold perform
  rcases h.open_ with ⟨free, free'⟩ | ⟨batch, batch', held, held', same⟩
  · rw [free, free']
    exact ⟨rfl, h⟩
  · rw [held, held']
    have engine := h.engine
    refine ⟨rfl, h.database, ?_, ?_, h.snapshots, rfl, ?_⟩
    · rw [space_discarded hs held, space_discarded ho held']
      exact engine
    · rw [Store.isLocked, Store.isLocked, database_discarded hs held, database_discarded ho held']
    · exact h.registers_concluded ha hb held held' .discarded

/-- **Twins answer every call alike**, and remain twins, whatever fails. -/
theorem Twins.perform (ha : session.Accounted) (hb : other.Accounted) (call : Call) :
    Same (session.perform call) (other.perform call) := by
  cases call with
  | bytes payload into => exact ⟨rfl, h.put into rfl⟩
  | newMap into =>
    refine ⟨rfl, h.put into ?_⟩
    rw [h.database]
    rfl
  | clone source into =>
    unfold Session.perform
    dsimp only
    rcases h.register source with ⟨given, given'⟩ | ⟨value, value', given, given', same⟩
    · rw [given, given']
      exact ⟨rfl, h⟩
    · rw [given, given']
      exact ⟨rfl, h.put into same⟩
  | stage map key value => exact h.stage hs ho map key value
  | mutate batched mutation =>
    cases mutation with
    | putItem tablePrefix key value => exact h.putItem hs ho ha hb batched tablePrefix key value
    | deleteItem tablePrefix key => exact h.deleteItem hs ho ha hb batched tablePrefix key
    | setItem map key value => exact h.setItem hs ho ha hb batched map key value
  | openBatch => exact h.openBatch hs ho ha hb
  | apply => exact h.apply hs ho ha hb
  | discard => exact h.discard hs ho ha hb
  | snap into =>
    refine ⟨rfl, h.database, h.engine, h.locked, ?_, h.batch, h.registers⟩
    dsimp only [Session.perform]
    rw [h.snapshot, h.snapshots]
  | getItem name tablePrefix key into =>
    unfold Session.perform
    dsimp only
    rw [h.snapshots, h.database]
    cases session.snapshots name with
    | none => exact ⟨rfl, h⟩
    | some snapshot =>
      cases Table.named session.database tablePrefix with
      | error error => exact ⟨rfl, h⟩
      | ok table =>
        refine h.read hs ho into (Table.getItem_lockstep table snapshot key) fun ends => ?_
        exact ⟨_, ((Table.getItem_looks ends).2 rfl).form⟩
  | getEntry name mapRegister key into =>
    unfold Session.perform
    dsimp only
    rw [h.snapshots]
    rcases h.map mapRegister with ⟨held, held'⟩ | ⟨map, map', held, held', alike⟩
    · rw [held, held']
      cases session.snapshots name <;> exact ⟨rfl, h⟩
    · rw [held, held']
      cases session.snapshots name with
      | none => exact ⟨rfl, h⟩
      | some snapshot =>
        refine h.read hs ho into (MapHandle.getItem_lockstep snapshot key alike) fun ends => ?_
        obtain ⟨_, _, holds⟩ := (MapHandle.getItem_looks ends).2 rfl
        exact ⟨_, holds.form⟩
  | befall medium =>
    have contents : other.contents = session.contents := congrArg Engine.contents h.engine
    refine ⟨rfl, h.database, ?_, ?_, h.snapshots, h.batch, h.registers⟩
    · have here := congrArg Workspace.engine (space_befall hs medium)
      have there := congrArg Workspace.engine (space_befall ho medium)
      exact (there.trans (congrArg (Engine.mk · medium) contents)).trans here.symm
    · exact ((isLocked_befall ho medium).trans h.locked).trans (isLocked_befall hs medium).symm

end Calls

/-- **Twins answer alike for ever.** -/
theorem Twins.run (h : session.Twins other) (hs : session.Sound) (ho : other.Sound)
    (ha : session.Accounted) (hb : other.Accounted) (calls : List Call) :
    session.answers calls = other.answers calls ∧
      (session.run calls).2.Twins (other.run calls).2 := by
  induction calls generalizing session other with
  | nil => exact ⟨rfl, h⟩
  | cons call calls ih =>
    obtain ⟨answer, twins⟩ := h.perform hs ho ha hb call
    have performs := perform_spec hs call
    have performs' := perform_spec ho call
    obtain ⟨answers, last⟩ := ih twins (performs.sound hs) (performs'.sound ho)
      (ha.performs hs performs) (hb.performs ho performs')
    refine ⟨?_, last⟩
    rw [answers_cons, answers_cons, answer, answers]

end Session

end NestedStore
