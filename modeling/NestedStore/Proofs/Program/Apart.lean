import NestedStore.Proofs.Program.Owners
import NestedStore.Proofs.Session.Borders

/-! # Databases beside each other

Whatever is asked for on one database leaves the others alone, and nothing gets into the batch of
another database. Whose map a value is is not asked, though, and all are taken for maps of the
database that they are stored in: it is up to the program not to pass on values and snapshots of
other databases. As long as it keeps to that, every database stays in order by itself, and every
handle names an instance of its own database (`databases_keep_apart`). -/
namespace NestedStore

/-! ## Batches of other databases -/

namespace Session
variable {session : Session}

/-- The mutation has everything that it needs. -/
def Affords (session : Session) : Mutation → Prop
  | .putItem tablePrefix _ register =>
    Layout.separator ∉ tablePrefix ∧ (session.registers register).isSome = true
  | .deleteItem tablePrefix _ => Layout.separator ∉ tablePrefix
  | .setItem map _ register =>
    (session.map? map).isSome = true ∧ (session.registers register).isSome = true ∧ register ≠ map

instance (session : Session) (mutation : Mutation) : Decidable (session.Affords mutation) := by
  unfold Affords
  split <;> infer_instance

/-- A session with the batch of another database at hand does not write. -/
theorem write_foreign {α : Type} {atOnce : StateM Store α}
    {later : Batch → StateM Store (α × Batch)} {a : α}
    (refuses : ∀ batch, session.batch? = some batch →
      (later batch).run session.store = ((a, batch), session.store)) :
    session.write true atOnce later = session.batch?.map fun _ => (a, session) := by
  unfold write
  cases held : session.batch? with
  | none => rfl
  | some batch =>
    dsimp only
    rw [refuses batch held]
    show some (a, { session with batch? := some batch }) = some (a, session)
    rw [← held]

theorem keep_given {register : Register} {value : Value}
    (given : session.registers register = some value) :
    session.keep register (some value) = session := by
  have same : (fun other => if other = register then some value else session.registers other) =
      session.registers := by
    funext other
    split
    · next here => rw [here, given]
    · rfl
  rw [keep, same]

/-- The mutation does nothing through the batch at hand, and is answered with what is wrong about
that. -/
def Rebuffs (session : Session) (mutation : Mutation) : Prop :=
  (session.mutate true mutation).2 = session ∧
    (session.batch?.isSome = true → session.Affords mutation →
      (session.mutate true mutation).1 = .failed (.invalidOperation .foreignBatch))

section Foreign
variable (foreign : ∀ batch, session.batch? = some batch → session.database ≠ batch.database)
include foreign

theorem checkOwner_foreign {owner : DatabaseId} (mine : owner = session.database) {batch : Batch}
    (held : session.batch? = some batch) :
    Store.checkOwner owner batch = .error (.invalidOperation .foreignBatch) := by
  rw [Store.checkOwner, mine, if_neg (foreign batch held)]

theorem putItem_foreign (tablePrefix key : Bytes) (register : Register) :
    session.Rebuffs (.putItem tablePrefix key register) := by
  unfold Rebuffs
  cases given : session.registers register with
  | none =>
    refine ⟨by simp only [mutate, given], fun _ ⟨_, something⟩ => ?_⟩
    simp [given] at something
  | some value =>
    cases named : Table.named session.database tablePrefix with
    | error error =>
      refine ⟨by simp only [mutate, given, named], fun _ ⟨fits, _⟩ => ?_⟩
      rw [Table.named, dif_pos fits] at named
      cases named
    | ok table =>
      have written : session.write true (Store.putItem table key value)
          (fun batch => Store.batchPutItem batch table key value) = session.batch?.map fun _ =>
            ((.error (.invalidOperation .foreignBatch), value), session) := by
        refine write_foreign fun batch held => ?_
        rw [Store.batchPutItem, checkOwner_foreign foreign (Table.named_owner named) held]
        rfl
      simp only [mutate, given, named, written]
      cases session.batch? with
      | none => exact ⟨rfl, by rintro ⟨⟩⟩
      | some batch => exact ⟨keep_given given, fun _ _ => rfl⟩

theorem deleteItem_foreign (tablePrefix key : Bytes) :
    session.Rebuffs (.deleteItem tablePrefix key) := by
  unfold Rebuffs
  cases named : Table.named session.database tablePrefix with
  | error error =>
    refine ⟨by simp only [mutate, named], fun _ (fits : Layout.separator ∉ tablePrefix) => ?_⟩
    rw [Table.named, dif_pos fits] at named
    cases named
  | ok table =>
    have written : session.write true (Store.deleteItem table key)
        (fun batch => Store.batchDeleteItem batch table key) = session.batch?.map fun _ =>
          (.error (.invalidOperation .foreignBatch), session) := by
      refine write_foreign fun batch held => ?_
      rw [Store.batchDeleteItem, checkOwner_foreign foreign (Table.named_owner named) held]
      rfl
    simp only [mutate, named, written]
    cases session.batch? with
    | none => exact ⟨rfl, by rintro ⟨⟩⟩
    | some batch => exact ⟨rfl, fun _ _ => rfl⟩

theorem setItem_foreign (mapRegister : Register) (key : Bytes) (register : Register)
    (owned : ∀ {map}, session.map? mapRegister = some map → map.owner = session.database) :
    session.Rebuffs (.setItem mapRegister key register) := by
  unfold Rebuffs
  cases kept : session.map? mapRegister with
  | none =>
    refine ⟨by simp only [mutate, kept], ?_⟩
    rintro _ ⟨something, _⟩
    simp [kept] at something
  | some map =>
    cases given : session.registers register with
    | none =>
      refine ⟨by simp only [mutate, kept, given], ?_⟩
      rintro _ ⟨_, something, _⟩
      simp [given] at something
    | some value =>
      by_cases itself : register = mapRegister
      · simp only [mutate, kept, given, if_pos itself]
        refine ⟨trivial, ?_⟩
        rintro _ ⟨_, _, differ⟩
        exact absurd itself differ
      · have written : session.write true (Store.setItem map key value)
            (fun batch => Store.batchSetItem batch map key value) = session.batch?.map fun _ =>
              ((.error (.invalidOperation .foreignBatch), map, value), session) := by
          refine write_foreign fun batch held => ?_
          rw [Store.batchSetItem, checkOwner_foreign foreign (owned kept) held]
          rfl
        simp only [mutate, kept, given, if_neg itself, written]
        cases session.batch? with
        | none => exact ⟨rfl, by rintro ⟨⟩⟩
        | some batch =>
          refine ⟨?_, fun _ _ => rfl⟩
          show (session.keep mapRegister (some (.ofMap map))).keep register (some value) = session
          rw [keep_given (registers_of_map? kept), keep_given given]

/-- **A mutation through the batch of another database does nothing**, and is answered with what is
wrong about it. -/
theorem mutate_foreign (mutation : Mutation)
    (owned : ∀ {register map}, (Call.mutate true mutation).onMap? = some register →
      session.map? register = some map → map.owner = session.database) :
    session.Rebuffs mutation := by
  cases mutation with
  | putItem tablePrefix key register => exact putItem_foreign foreign tablePrefix key register
  | deleteItem tablePrefix key => exact deleteItem_foreign foreign tablePrefix key
  | setItem mapRegister key register =>
    exact setItem_foreign foreign mapRegister key register (owned rfl)

end Foreign

end Session

namespace Program
variable {program : Program} {request : Request} {database other : DatabaseId}

/-- Open batches are of the databases that they are open on. -/
def Sound (program : Program) : Prop := ∀ database batch, program.batch? database = some batch →
  database < program.store.databases.size ∧ batch.Coherent ∧ batch.database = database

theorem site_eq {register : Register} {map : MapHandle}
    (onMap : request.call.onMap? = some register) (held : program.map? register = some map) :
    program.site request = map.owner := by
  unfold site
  rw [onMap, Option.bind_some, held]

theorem perform_absent (absent : ¬ program.site request < program.store.databases.size) :
    program.perform request = (.refused, program) := if_neg absent

theorem perform_present (present : program.site request < program.store.databases.size) :
    program.perform request =
      (((program.session (program.desk request) (program.site request)).perform request.call).1,
        program.resume (program.desk request)
          ((program.session (program.desk request) (program.site request)).perform request.call).2) :=
  if_pos present

theorem resume_session (desk site : DatabaseId) :
    program.resume desk (program.session desk site) = program := by
  have same : (fun other => if other = desk then program.batch? desk else program.batch? other) =
      program.batch? := by
    funext other
    split
    · next here => rw [here]
    · rfl
  show Program.mk _ _ _ _ = program
  exact congrArg (Program.mk program.store program.registers program.snapshots) same

/-- What is asked for through the batch of another database is not done. -/
theorem Sound.perform_foreign (h : program.Sound)
    (foreign : program.desk request ≠ program.site request) :
    (program.perform request).2 = program ∧
      (program.site request < program.store.databases.size →
        ∀ mutation, request.call = .mutate true mutation →
          (program.batch? (program.desk request)).isSome = true →
          (program.session (program.desk request) (program.site request)).Affords mutation →
          (program.perform request).1 = .failed (.invalidOperation .foreignBatch)) := by
  by_cases present : program.site request < program.store.databases.size
  · cases request with
    | on => exact absurd rfl foreign
    | through desk site mutation =>
      obtain ⟨unchanged, answer⟩ := @Session.mutate_foreign
        (program.session desk (program.site (.through desk site mutation)))
        (fun batch held => (h desk batch held).2.2 ▸ foreign.symm) mutation
        (fun onMap kept => (@site_eq program (.through desk site mutation) _ _ onMap kept).symm)
      rw [perform_present present]
      refine ⟨?_, fun _ other same ongoing affords => ?_⟩
      · exact (congrArg (program.resume desk) unchanged).trans (resume_session ..)
      · cases same
        exact answer ongoing affords
  · rw [perform_absent present]
    exact ⟨rfl, fun present' => absurd present' present⟩

/-- What is asked for is done as in a session with the database, or nothing is done. -/
theorem Sound.perform_cases (h : program.Sound) (request : Request) :
    (program.perform request).2 = program ∨
      program.desk request = program.site request ∧
      program.site request < program.store.databases.size ∧
      ∃ answer next,
        (program.session (program.site request) (program.site request)).Ready request.call ∧
        (program.session (program.site request) (program.site request)).Performs request.call answer
          next ∧
        program.perform request = (answer, program.resume (program.site request) next) := by
  by_cases present : program.site request < program.store.databases.size
  · by_cases here : program.desk request = program.site request
    · have ready : (program.session (program.site request) (program.site request)).Ready
          request.call :=
        ⟨fun batch held => (h _ batch held).2, fun onMap kept => (site_eq onMap kept).symm⟩
      refine .inr ⟨here, present, _, _, ready, ready.performs, ?_⟩
      rw [perform_present present, here]
    · exact .inl (h.perform_foreign here).1
  · rw [perform_absent present]
    exact .inl rfl

/-! ## Runs -/

section Resume
variable {next : Session}

theorem batch?_resume (site : DatabaseId) (next : Session) :
    (program.resume site next).batch? site = next.batch? := if_pos rfl

theorem batch?_resume_of_ne (ne : other ≠ database) :
    (program.resume database next).batch? other = program.batch? other := if_neg ne

theorem Sound.resume (h : program.Sound) (present : database < program.store.databases.size)
    (spares : (program.session database database).Spares next) :
    (program.resume database next).Sound := by
  have size : next.store.databases.size = program.store.databases.size := spares.aside.size
  intro other batch held
  show other < next.store.databases.size ∧ batch.Coherent ∧ batch.database = other
  rw [size]
  by_cases here : other = database
  · subst here
    rw [batch?_resume] at held
    obtain ⟨coherent, mine⟩ := spares.ownBatch batch held
    exact ⟨present, coherent, mine.trans spares.database⟩
  · rw [batch?_resume_of_ne here] at held
    exact h other batch held

end Resume

/-- **What is asked for on one database leaves the others as they are.** -/
theorem Sound.perform_aside (h : program.Sound) (request : Request) :
    Store.Aside (program.site request) program.store (program.perform request).2.store ∧
      (∀ other, other ≠ program.site request →
        (program.perform request).2.batch? other = program.batch? other) ∧
      handedOutIn program.store.events ≤ handedOutIn (program.perform request).2.store.events ∧
      (program.perform request).2.Sound := by
  rcases h.perform_cases request with same | ⟨_, present, answer, next, ready, performs, performed⟩
  · rw [same]
    exact ⟨.refl .., fun _ _ => rfl, Nat.le_refl _, h⟩
  · have spares := performs.spares ready.batch
    rw [performed]
    exact ⟨spares.aside, fun _ ne => batch?_resume_of_ne ne, spares.handedOut,
      h.resume present spares⟩

theorem sound_start (store : Store) : (start store).Sound := nofun

theorem Sound.after (h : program.Sound) (requests : List Request) :
    (program.after requests).Sound ∧
      (program.after requests).store.databases.size = program.store.databases.size ∧
      handedOutIn program.store.events ≤ handedOutIn (program.after requests).store.events := by
  induction requests generalizing program with
  | nil => exact ⟨h, rfl, Nat.le_refl _⟩
  | cons request requests ih =>
    obtain ⟨aside, _, handedOut, sound⟩ := h.perform_aside request
    obtain ⟨last, size, more⟩ := ih sound
    exact ⟨last, size.trans aside.size, Nat.le_trans handedOut more⟩

/-! ## What is in hand -/

/-- The handle is in some value in hand, at whatever depth. -/
def Has (program : Program) (handle : MapHandle) : Prop :=
  ∃ register value, program.registers register = some value ∧ handle ∈ value.handles

/-- A program keeps databases apart as long as all that it passes on, values and snapshots, is of
the database that the request is for. -/
def KeepsApart (program : Program) (requests : List Request) : Prop :=
  ∀ before request later, requests = before ++ request :: later →
    ((program.after before).session ((program.after before).site request)
      ((program.after before).site request)).Fair request.call

theorem keepsApart_cons (program : Program) (request : Request) (requests : List Request) :
    program.KeepsApart (request :: requests) ↔
      (program.session (program.site request) (program.site request)).Fair request.call ∧
        (program.perform request).2.KeepsApart requests := by
  constructor
  · intro apart
    refine ⟨apart [] request requests rfl, ?_⟩
    rintro before request' later rfl
    exact apart (request :: before) request' later rfl
  · rintro ⟨fair, apart⟩ before request' later split
    cases before with
    | nil =>
      cases split
      exact fair
    | cons first before =>
      cases split
      exact apart before request' later rfl

instance decidableKeepsApart (program : Program) :
    (requests : List Request) → Decidable (program.KeepsApart requests)
  | [] => .isTrue fun before _ _ nothing => by cases before <;> cases nothing
  | request :: requests =>
    have : Decidable ((program.perform request).2.KeepsApart requests) :=
      decidableKeepsApart _ requests
    decidable_of_iff' _ (program.keepsApart_cons request requests)

/-- What handles of a database may say. -/
def sanctioned (program : Program) (database : DatabaseId) : Option BatchId → InstanceId → Prop :=
  (program.session database database).sanctioned

/-- Every database is in order by itself, and so is what is said of it. -/
structure Orderly (program : Program) : Prop where
  sound : program.Sound
  distinct : ∀ {database other batch batch'}, program.batch? database = some batch →
    program.batch? other = some batch' → batch.id = batch'.id → database = other
  part : ∀ {database}, database < program.store.databases.size →
    ∃ owed, (program.session database database).bare.Orderly owed
  truthful : ∀ handle, program.Has handle →
    handle.binding.Says (program.sanctioned handle.owner)

section Step
variable {site : DatabaseId} {next : Session} (h : program.Orderly)
  (spares : (program.session site site).Spares next)

include spares in
theorem session_resume : (program.resume site next).session site site = next := by
  have database : next.database = site := spares.database
  show Session.mk _ _ _ _ _ = next
  rw [batch?_resume, ← database]
  rfl

theorem session_resume_of_ne (ne : other ≠ site) :
    (program.resume site next).session other other =
      ⟨next.store, other, next.registers, next.snapshots, program.batch? other⟩ := by
  rw [session, batch?_resume_of_ne ne]
  rfl

include h spares

/-- What became of the batches of another database is as before. -/
theorem Orderly.outcome_elsewhere (ne : other ≠ site) {batch : Batch}
    (held : program.batch? other = some batch) :
    next.store.ledger.outcome batch.id = program.store.ledger.outcome batch.id := by
  rcases spares.outcome batch.id with same | ⟨_, _, ongoing, same⟩
  · exact same
  · exact absurd (h.distinct held ongoing same.symm) ne

/-- What is said of another database is as true as before. -/
theorem Orderly.sanctioned_elsewhere (ne : other ≠ site) (batch? : Option BatchId)
    (id : InstanceId) (known : program.sanctioned other batch? id) :
    (program.resume site next).sanctioned other batch? id := by
  have contents : Session.contents
      ⟨next.store, other, next.registers, next.snapshots, program.batch? other⟩ =
        (program.session other other).contents :=
    congrArg (·.engine.contents) (spares.aside.other ne)
  rw [sanctioned, session_resume_of_ne ne]
  rw [sanctioned] at known
  unfold Session.sanctioned at known ⊢
  rw [contents]
  cases batch? with
  | none => exact known
  | some batch =>
    rcases spares.outcome batch with same | ⟨undecided, _, ongoing, rfl⟩
    · dsimp only
      rw [same]
      exact known
    · have undecided : program.store.ledger.outcome _ = .undecided := undecided
      dsimp only [session] at known
      rw [undecided] at known
      obtain ⟨_, held, same, _⟩ := known
      exact absurd (h.distinct held ongoing same) ne

/-- Another database is in as good order as before. -/
theorem Orderly.part_elsewhere (ne : other ≠ site) (present : other < program.store.databases.size) :
    ∃ owed, ((program.resume site next).session other other).bare.Orderly owed := by
  obtain ⟨owed, orderly⟩ := h.part present
  have same : next.store.database other = program.store.database other := spares.aside.other ne
  rw [session_resume_of_ne ne]
  refine ⟨owed, orderly.elsewhere (congrArg (·.engine.contents) same)
    (congrArg (·.writer.isSome) same) (fun _ => rfl) ?_ rfl (h.outcome_elsewhere spares ne)
    spares.known spares.handedOut⟩
  intro name taken given
  obtain ⟨given, mine⟩ := Option.filter_eq_some_iff.mp given
  rcases spares.snapshots given with before | foreign
  · exact Option.filter_eq_some_iff.mpr ⟨before, mine⟩
  · exact absurd ((of_decide_eq_true mine).symm.trans foreign) ne

/-- Batches that are open on two databases stay different. -/
theorem Orderly.distinct_resume {a b : DatabaseId} {batch batch' : Batch}
    (held : (program.resume site next).batch? a = some batch)
    (held' : (program.resume site next).batch? b = some batch') (same : batch.id = batch'.id) :
    a = b := by
  -- A batch that is open elsewhere is none that was just opened.
  have elsewhere {other : DatabaseId} {batch later : Batch} (ne : other ≠ site)
      (held : program.batch? other = some batch) (ongoing : next.batch? = some later) :
      batch.id ≠ later.id := by
    intro same
    rcases spares.batch ongoing with ⟨_, before, mine⟩ | opened
    · exact absurd (h.distinct held before (same.trans mine.symm)) ne
    · obtain ⟨owed, orderly⟩ := h.part (h.sound other batch held).1
      have known := (orderly.batch held).known
      exact absurd (Nat.lt_of_lt_of_le known (same ▸ opened)) (Nat.lt_irrefl _)
  by_cases here : a = site
  · subst here
    rw [batch?_resume] at held
    by_cases here' : b = a
    · exact here'.symm
    · rw [batch?_resume_of_ne here'] at held'
      exact absurd same.symm (elsewhere here' held' held)
  · rw [batch?_resume_of_ne here] at held
    by_cases here' : b = site
    · subst here'
      rw [batch?_resume] at held'
      exact absurd same (elsewhere here held held')
    · rw [batch?_resume_of_ne here'] at held'
      exact h.distinct held held' same

end Step

/-- **What is asked for keeps all databases in order**, as long as it takes nothing from hand that is
of another database. -/
theorem Orderly.perform (h : program.Orderly) {request : Request}
    (fair : (program.session (program.site request) (program.site request)).Fair request.call)
    (room : handedOutIn (program.perform request).2.store.events + 1 < UInt64.size) :
    (program.perform request).2.Orderly := by
  rcases h.sound.perform_cases request with same | ⟨_, present, answer, next, ready, performs, done⟩
  · rwa [same]
  have spares := performs.spares ready.batch
  rw [done] at room ⊢
  generalize program.site request = site at *
  obtain ⟨owed, orderly⟩ := h.part present
  have truthful : (program.session site site).Truthful := by
    rintro handle ⟨register, value, given, member⟩ mine
    have told := h.truthful handle ⟨register, value, given, member⟩
    have mine : handle.owner = site := mine
    rwa [mine] at told
  have advances := performs.advances (Session.sound_bare present ready.batch) orderly ready.map
    truthful fair room
  have resumed := session_resume spares
  have size : next.store.databases.size = program.store.databases.size := spares.aside.size
  refine ⟨h.sound.resume present spares, h.distinct_resume spares, ?_, ?_⟩
  · intro database within
    by_cases here : database = site
    · rw [here, resumed]
      exact advances.orderly
    · exact h.part_elsewhere spares here (size ▸ within)
  · rintro handle ⟨register, value, given, member⟩
    have sanctions (batch? : Option BatchId) (id : InstanceId)
        (known : program.sanctioned handle.owner batch? id) :
        (program.resume site next).sanctioned handle.owner batch? id := by
      by_cases here : handle.owner = site
      · rw [here, sanctioned] at known ⊢
        rw [resumed]
        exact advances.sanctions batch? id known
      · exact h.sanctioned_elsewhere spares here batch? id known
    rcases advances.has ⟨register, value, given, member⟩ with before | ⟨mine, told⟩
    · exact (h.truthful handle before).imp sanctions
    · have mine : handle.owner = site := mine
      rw [mine, sanctioned, resumed]
      exact told

theorem orderly_start {store : Store}
    (empty : ∀ database < store.databases.size, (store.database database).engine.contents = .empty) :
    (start store).Orderly where
  sound := sound_start store
  distinct := nofun
  part present := ⟨[], Session.orderly_start (empty _ present)⟩
  truthful _ has := by
    obtain ⟨_, _, given, _⟩ := has
    cases given

/-- **A program that keeps databases apart keeps them in order.** -/
theorem Orderly.after (h : program.Orderly) {requests : List Request}
    (apart : program.KeepsApart requests)
    (room : handedOutIn (program.after requests).store.events + 1 < UInt64.size) :
    (program.after requests).Orderly := by
  induction requests generalizing program with
  | nil => exact h
  | cons request requests ih =>
    obtain ⟨_, _, more⟩ := (h.sound.perform_aside request).2.2.2.after requests
    obtain ⟨fair, apart⟩ := (program.keepsApart_cons request requests).mp apart
    exact ih (h.perform fair (Nat.lt_of_le_of_lt (Nat.add_le_add_right more 1) room)) apart room

/-- What a handle reports is stored in its database, or in the batch that is open on it. -/
theorem Orderly.stored (h : program.Orderly) {handle : MapHandle} {id : InstanceId}
    (has : program.Has handle) (reports : handle.instance? program.store.ledger = some id) :
    HasCount (program.store.database handle.owner).engine.contents.cells id ∨
      ∃ batch, program.batch? handle.owner = some batch ∧ HasCount batch.after id := by
  have told := h.truthful handle has
  obtain ⟨owner, binding⟩ := handle
  cases binding with
  | unbound staged => cases reports
  | bound on =>
    cases reports
    exact .inl told
  | pending on batch staged =>
    have told : program.sanctioned owner (some batch) on := told
    unfold sanctioned Session.sanctioned at told
    dsimp only [session] at told
    cases decided : program.store.ledger.outcome batch with
    | discarded => simp [MapHandle.instance?, Binding.instance?, decided] at reports
    | applied =>
      simp [MapHandle.instance?, Binding.instance?, decided] at reports
      rw [decided] at told
      exact .inl (reports ▸ told)
    | undecided =>
      simp [MapHandle.instance?, Binding.instance?, decided] at reports
      rw [decided] at told
      obtain ⟨held, ongoing, _, housed⟩ := told
      exact .inr ⟨held, ongoing, reports ▸ housed⟩

/-- **Databases keep apart.** However a program uses databases that start empty, as long as
instances remain to be handed out: what is asked for through the batch of another database is
refused and changes nothing, what is asked for on one database leaves the others and their batches
as they are, and a mutation ends as if all that is in hand were of the database that it is made on,
whichever databases the maps in it are of. If the program passes nothing on to a database but values and snapshots of it,
then every reference in a database is to an instance that was handed out by it and is stored in it,
verification finds no reference that leads nowhere, and every handle that reports an instance
reports one that is stored in its own database, or in the batch that is open on it. -/
theorem databases_keep_apart (store : Store) (requests : List Request)
    (empty : ∀ database < store.databases.size, (store.database database).engine.contents = .empty)
    (room : handedOutIn ((start store).after requests).store.events < UInt64.size - 1) :
    let program := (start store).after requests
    (∀ desk database mutation, desk ≠ program.site (.through desk database mutation) →
      (program.perform (.through desk database mutation)).2 = program ∧
      (program.site (.through desk database mutation) < program.store.databases.size →
        (program.batch? desk).isSome = true →
        (program.session desk (program.site (.through desk database mutation))).Affords mutation →
        (program.perform (.through desk database mutation)).1 =
          .failed (.invalidOperation .foreignBatch))) ∧
    (∀ request other, other ≠ program.site request →
      (program.perform request).2.store.database other = program.store.database other ∧
        (program.perform request).2.batch? other = program.batch? other) ∧
    (∀ request batched mutation, request.call = .mutate batched mutation →
      (program.ownedBy (program.site request)).perform request =
        ((program.perform request).1,
          (program.perform request).2.ownedBy (program.site request))) ∧
    ((start store).KeepsApart requests →
      (∀ database < program.store.databases.size, ∀ key value id,
        (program.store.database database).engine.contents.cells[key]? = some value →
        Verification.referenceOf? key value = some id →
          HasCount (program.store.database database).engine.contents.cells id ∧
            id.val.toNat < nextNumber (program.store.database database).engine.contents.cells) ∧
      (∀ database < program.store.databases.size, ∀ space : Workspace, space.engine.ReadsWork →
        ∃ report : Verification,
          ((verify (program.store.snapshot database)).run.run space).1 = .ok report ∧
          ∀ key id, .danglingReference key id ∉ report.problems) ∧
      ∀ handle id, program.Has handle → handle.instance? program.store.ledger = some id →
        HasCount (program.store.database handle.owner).engine.contents.cells id ∨
          ∃ batch, program.batch? handle.owner = some batch ∧ HasCount batch.after id) := by
  intro program
  obtain ⟨sound, _, _⟩ := (sound_start store).after requests
  refine ⟨?_, ?_, fun request batched mutation made => perform_ownedBy made, fun apart => ?_⟩
  · intro desk database mutation foreign
    obtain ⟨unchanged, answer⟩ :=
      @Sound.perform_foreign program (.through desk database mutation) sound foreign
    exact ⟨unchanged, fun present ongoing affords => answer present mutation rfl ongoing affords⟩
  · intro request other ne
    obtain ⟨aside, batches, _⟩ := sound.perform_aside request
    exact ⟨aside.other ne, batches other ne⟩
  have orderly : program.Orderly := (orderly_start empty).after apart (Nat.add_lt_of_lt_sub room)
  have consistent {database : DatabaseId} (present : database < program.store.databases.size) :
      ∃ owed, Consistent (program.store.database database).engine.contents.cells owed := by
    obtain ⟨owed, part⟩ := orderly.part present
    exact ⟨owed, part.consistent⟩
  refine ⟨?_, ?_, fun handle id has reports => orderly.stored has reports⟩
  · intro database present key value id given refers
    obtain ⟨owed, inOrder⟩ := consistent present
    have housed := inOrder.hasCount_of_reference given refers
    exact ⟨housed, inOrder.allocated housed⟩
  · intro database present space working
    obtain ⟨owed, inOrder⟩ := consistent present
    have held : Consistent (program.store.snapshot database).contents.cells owed := inOrder
    obtain ⟨report, reported, behind⟩ := verify_consistent working held
    refine ⟨report, reported, fun key id member => ?_⟩
    obtain ⟨_, _, _, same, _⟩ := behind.behind _ member
    cases same

/-- A store with two empty databases in memory. -/
def two : Store :=
  { Store.empty with databases := #[.inMemory .default .none, .inMemory .default .none] }

/-- Nobody asks whose map a value is: a map of one database is stored in another, which then refers
to an instance that it does not have. Nor is it asked whose snapshot is read, which makes a handle of
the database on an instance that it does not have. -/
theorem foreign_map_is_stored :
    let program := (start two).after
      [.on 1 (.newMap 0), .on 1 (.mutate false (.putItem [1] [1] 0)), .on 1 (.snap 0)]
    let stored := program.perform (.on 0 (.mutate false (.putItem [2] [2] 0)))
    let found := program.perform (.on 0 (.getItem 0 [1] [1] 1))
    (program.registers 0).map (·.handles.map MapHandle.owner) = some [1] ∧
      stored.1 = .done ∧
      ((stored.2.store.database 0).engine.contents.cells[(Address.item [2] [2]).key]?.bind
        (Verification.referenceOf? (Address.item [2] [2]).key)) = some ⟨1⟩ ∧
      ¬ HasCount (stored.2.store.database 0).engine.contents.cells ⟨1⟩ ∧
      (found.2.registers 1).map (·.handles.map fun handle =>
        (handle.owner, handle.instance? found.2.store.ledger)) = some [(0, some ⟨1⟩)] ∧
      ¬ HasCount (found.2.store.database 0).engine.contents.cells ⟨1⟩ := by
  unfold HasCount
  decide +kernel

/-- Batches are open on both databases, and each takes a map of its own. One of them is applied. -/
def bothAtWork : List Request :=
  [.on 0 (.newMap 0), .on 1 (.newMap 1), .on 0 .openBatch, .on 1 .openBatch,
    .on 0 (.mutate true (.putItem [1] [1] 0)), .on 1 (.mutate true (.putItem [1] [1] 1)),
    .on 0 .apply]

/-- Both maps are the first of their databases: one is stored, the other waits in its batch, which
takes nothing of the first database. -/
theorem databases_keep_apart_both_at_work :
    let program := (start two).after bothAtWork
    program.perform (.through 1 0 (.putItem [1] [2] 0)) =
        (.failed (.invalidOperation .foreignBatch), program) ∧
      HasCount (program.store.database 0).engine.contents.cells ⟨1⟩ ∧
      ∃ batch, program.batch? 1 = some batch ∧ HasCount batch.after ⟨1⟩ := by
  intro program
  have empty (database : DatabaseId) (present : database < two.databases.size) :
      (two.database database).engine.contents = .empty := by
    obtain rfl | rfl := Nat.le_one_iff_eq_zero_or_eq_one.mp (Nat.le_of_lt_succ present)
    · rfl
    · rfl
  obtain ⟨foreign, _, _, apart⟩ := databases_keep_apart two bothAtWork empty (by decide +kernel)
  obtain ⟨references, _, handles⟩ := apart (by decide +kernel)
  obtain ⟨unchanged, answer⟩ := foreign 1 0 (.putItem [1] [2] 0) (by decide +kernel)
  have answered := answer (by decide +kernel) (by decide +kernel) (by decide +kernel)
  have refers : (program.store.database 0).engine.contents.cells[(Address.item [1] [1]).key]? =
      some (StoredValue.reference ⟨1⟩).encode := by decide +kernel
  have shown : (program.registers 1).map (·.handles.map fun handle =>
      (handle.owner, handle.instance? program.store.ledger)) = some [(1, some ⟨1⟩)] := by
    decide +kernel
  obtain ⟨value, given, shows⟩ := Option.map_eq_some_iff.mp shown
  have listed : ((1, some ⟨1⟩) : DatabaseId × Option InstanceId) ∈ value.handles.map fun handle =>
      (handle.owner, handle.instance? program.store.ledger) := by
    rw [shows]
    exact List.mem_cons_self
  obtain ⟨handle, member, same⟩ := List.mem_map.mp listed
  obtain ⟨owner, reports⟩ := Prod.mk.inj same
  have placed := handles handle ⟨1⟩ ⟨1, value, given, member⟩ reports
  rw [owner] at placed
  refine ⟨Prod.ext answered unchanged, ?_, placed.resolve_left ?_⟩
  · exact (references 0 (by decide +kernel) _ _ _ refers (by decide +kernel)).1
  · unfold HasCount
    decide +kernel

end Program

end NestedStore
