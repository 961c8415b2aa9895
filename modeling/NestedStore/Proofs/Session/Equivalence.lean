import NestedStore.Proofs.Map.Agreement
import NestedStore.Proofs.Session.Calls

/-! # At once or in a batch

A program that makes values, stages entries and mutates may make its mutations at once, or in one
batch that it applies at the end. Where nothing fails, it cannot tell which: two sessions that show
it the same handles and the same cells (`Alike`) answer every edit alike and show the same again,
whether one of them has a batch open or not (`Alike.perform`). When the batch is applied the
database holds the cells that the batch showed. -/
namespace NestedStore

/-- Whether the call opens or decides a batch, or is something that befalls the engine. -/
def Call.isTurn : Call → Bool
  | openBatch | apply | discard | befall _ => true
  | _ => false

/-- What a program does that looks nothing up. -/
inductive Edit where
  | bytes (payload : Bytes) (into : Register)
  | newMap (into : Register)
  | clone (source into : Register)
  | stage (map : Register) (key : Bytes) (value : Register)
  | mutate (mutation : Mutation)

namespace Edit

/-- The call that makes the edit, at once or in the open batch. -/
def call (batched : Bool) : Edit → Call
  | bytes payload into => .bytes payload into
  | newMap into => .newMap into
  | clone source into => .clone source into
  | stage map key value => .stage map key value
  | mutate mutation => .mutate batched mutation

theorem isTurn_call (edit : Edit) (batched : Bool) : (edit.call batched).isTurn = false := by
  cases edit <;> rfl

/-- The calls that make every edit at once. -/
def atOnce (edits : List Edit) : List Call := edits.map (call false)

/-- The calls that make the edits in one batch, which is then applied. -/
def inBatch (edits : List Edit) : List Call := .openBatch :: (edits.map (call true) ++ [.apply])

end Edit

namespace Session

/-- What is kept under a name, as it is seen. -/
def shown (session : Session) (register : Register) : Option Value :=
  (session.registers register).map (Value.seen session.store.ledger)

/-- The instance of the map under a name, and the entries staged on it as they are seen. -/
def handle? (session : Session) (register : Register) :
    Option (Option InstanceId × Option Staged) :=
  (session.map? register).map fun map =>
    (map.instance? session.store.ledger,
      (map.binding.staged? session.store.ledger).map (Staged.seen session.store.ledger))

/-- Two sessions that show a program the same. -/
structure Alike (session other : Session) : Prop where
  database : other.database = session.database
  view : other.view = session.view
  shown : ∀ register, other.shown register = session.shown register

/-- Nothing fails in the session, and its batch, if one is open, is of now. -/
structure Healthy (session : Session) (batched : Bool) : Prop where
  sound : session.Sound
  mode : session.batch?.isSome = batched
  reads : session.space.engine.servesReads = true
  writes : session.space.engine.takesWrites = true
  current : ∀ {batch}, session.batch? = some batch → session.Current batch

variable {session other next next' : Session} {batched batched' : Bool}

/-! ## Sessions that stay healthy -/

theorem Healthy.reliable (h : session.Healthy batched) : session.setting.Reliable := by
  have reads := h.reads
  have writes := h.writes
  unfold setting
  cases held : session.batch? with
  | none => exact ⟨by simp [Workspace.setting, reads], by simp [Workspace.setting, writes], nofun⟩
  | some batch =>
    refine ⟨by simp [Batched.setting, reads], rfl, ?_⟩
    intro _ same discarded
    cases same
    cases (h.current held).undecided.symm.trans discarded

theorem Healthy.closed (h : session.Healthy false) : session.batch? = none := by
  cases held : session.batch? with
  | none => rfl
  | some batch =>
    have mode := h.mode
    rw [held] at mode
    cases mode

/-- A session is as healthy as before when only what is kept under names has changed. -/
theorem Healthy.same (h : session.Healthy batched) (sound : next.Sound)
    (store : next.store = session.store) (database : next.database = session.database)
    (batch? : next.batch? = session.batch?) : next.Healthy batched := by
  have space : next.space = session.space := by rw [Session.space, store, database]; rfl
  have contents : next.contents = session.contents := congrArg (·.engine.contents) space
  refine ⟨sound, batch? ▸ h.mode, space ▸ h.reads, space ▸ h.writes, ?_⟩
  intro batch held
  exact (h.current (batch? ▸ held)).moved (congrArg Store.ledger store) contents rfl rfl

theorem Healthy.looked (h : session.Healthy batched) {store : Store}
    (looked : session.Looked store) : Healthy { session with store } batched := by
  have contents := looked.contents h.sound
  have engine := looked.engine h.sound h.reads
  refine ⟨looked.sound h.sound, h.mode, engine ▸ h.reads, engine ▸ h.writes, ?_⟩
  intro batch held
  exact (h.current held).moved looked.ledger contents rfl rfl

theorem Healthy.wrote (h : session.Healthy batched) {effects : List Effect}
    (wrote : session.Wrote effects batched next) : next.Healthy batched := by
  have sound := wrote.sound h.sound
  cases wrote with
  | @atOnce space free reached =>
    have noBatch {batch : Batch} (held : session.batch? = some batch) : False := by
      cases free.symm.trans held
    refine ⟨sound, h.mode, ?_, ?_, fun held => (noBatch held).elim⟩
    · rw [space_withWorkspace h.sound]
      have same : (!space.engine.servesReads) = !session.space.engine.servesReads :=
        congrArg Setting.readsFail reached.setting
      rw [Bool.not_inj same]
      exact h.reads
    · rw [space_withWorkspace h.sound]
      have same : (!space.engine.takesWrites) = !session.space.engine.takesWrites :=
        congrArg Setting.writesFail reached.setting
      rw [Bool.not_inj same]
      exact h.writes
  | @later batch later held reached =>
    have keeps := Batched.keeps_of_run reached.run
    have engine : later.space.engine = session.space.engine := keeps.engine h.reads
    have space : Session.space { session with
        store := session.store.withWorkspace session.database later.space
        batch? := some later.batch } = later.space :=
      Store.workspace_withWorkspace h.sound.present _
    have ledger : later.space.ledger = session.store.ledger :=
      congrArg Setting.ledger reached.setting
    have contents := congrArg (·.engine.contents) space
    refine ⟨sound, rfl, ?_, ?_, ?_⟩
    · rw [space, engine]
      exact h.reads
    · rw [space, engine]
      exact h.writes
    · intro _ same
      cases same
      exact (h.current held).moved ledger (contents.trans keeps.contents) keeps.id keeps.snapshot

/-- What is written is written in the mode that the session is in. -/
theorem Wrote.mode {effects : List Effect} (wrote : session.Wrote effects batched next) :
    session.batch?.isSome = batched := by
  cases wrote with
  | atOnce free _ => rw [free]; rfl
  | later held _ => rw [held]; rfl

/-- Only what opens or decides a batch, or befalls the engine, can make a session another one. -/
theorem Healthy.performs (h : session.Healthy batched) {call : Call} {answer : Answer}
    (calm : call.isTurn = false) (performs : session.Performs call answer next) :
    next.Healthy batched := by
  have sound := performs.sound h.sound
  cases performs with
  | refused | illNamed => exact h
  | bytes | newMap | clone | snap => exact h.same sound rfl rfl rfl
  | stage _ _ _ looked | found _ _ _ looked => exact (h.looked looked).same sound rfl rfl rfl
  | nothing looked => exact h.looked looked
  | mutate mutates =>
    cases mutates with
    | refused | illNamed => exact h
    | putItem _ _ wrote _ | setItem _ _ _ wrote _ =>
      obtain rfl := h.mode.symm.trans wrote.mode
      exact (h.wrote wrote).same sound rfl rfl rfl
    | deleteItem _ wrote _ =>
      obtain rfl := h.mode.symm.trans wrote.mode
      exact h.wrote wrote
  | openBatch | apply | discard | befall => cases calm

theorem Wrote.cursorMoves {effects : List Effect} (wrote : session.Wrote effects batched next)
    (hs : session.Sound) (reads : session.space.engine.servesReads = true) :
    next.space.engine.faults.cursorMoves = session.space.engine.faults.cursorMoves := by
  cases wrote with
  | atOnce free reached =>
    rw [space_withWorkspace hs]
    exact Workspace.cursorMoves_of_run reached.run
  | @later batch later held reached =>
    have after := congrArg Workspace.engine
      (Store.workspace_withWorkspace hs.present later.space)
    have engine := (Batched.keeps_of_run reached.run).engine reads
    exact congrArg (·.faults.cursorMoves) (after.trans engine)

/-- Only what befalls the engine can change what moves cursors get. -/
theorem Healthy.cursorMoves (h : session.Healthy batched) {call : Call} {answer : Answer}
    (undisturbed : ∀ medium, call ≠ .befall medium)
    (performs : session.Performs call answer next) :
    next.space.engine.faults.cursorMoves = session.space.engine.faults.cursorMoves := by
  cases performs with
  | refused | illNamed | bytes | newMap | clone | snap => rfl
  | stage _ _ _ looked | found _ _ _ looked | nothing looked =>
    exact congrArg (·.faults.cursorMoves) (looked.engine h.sound h.reads)
  | mutate mutates =>
    cases mutates with
    | refused | illNamed => rfl
    | putItem _ _ wrote _ | deleteItem _ wrote _ | setItem _ _ _ wrote _ =>
      have same := wrote.cursorMoves h.sound h.reads
      exact same
  | openBatch free =>
    exact congrArg (·.engine.faults.cursorMoves) (Store.database_openBatch h.sound.present)
  | @apply batch space result held ends =>
    obtain ⟨engine, _⟩ := Batch.apply_spec ends
    have unlocked := congrArg Database.engine
      (Store.database_unlock_withWorkspace h.sound.present space)
    have written := congrArg (·.faults.cursorMoves) (unlocked.trans engine)
    exact written.trans (session.space.engine.cursorMoves_write batch.writes)
  | @discard batch held =>
    obtain ⟨_, mine⟩ := h.sound.coherent held
    rw [Session.space, Store.discard, mine]
    exact congrArg (·.engine.faults.cursorMoves) (Store.database_unlock h.sound.present)
  | befall => exact absurd rfl (undisturbed _)

/-! ## Sessions that stay alike -/

/-- A name stands for nothing in both sessions, or for values that are seen as the same. -/
theorem Alike.register (h : session.Alike other) (register : Register) :
    (session.registers register = none ∧ other.registers register = none) ∨
      ∃ value value', session.registers register = some value ∧
        other.registers register = some value' ∧
        value.seen session.setting.ledger = value'.seen other.setting.ledger := by
  have shown := h.shown register
  unfold Session.shown at shown
  rw [setting_ledger, setting_ledger]
  cases given : session.registers register with
  | none =>
    rw [given] at shown
    exact .inl ⟨rfl, Option.map_eq_none_iff.mp shown⟩
  | some value =>
    rw [given] at shown
    obtain ⟨value', given', same⟩ := Option.map_eq_some_iff.mp shown
    exact .inr ⟨value, value', rfl, given', same.symm⟩

/-- A name stands for no map in either session, or for maps that are seen as the same. -/
theorem Alike.map (h : session.Alike other) (register : Register) :
    (session.map? register = none ∧ other.map? register = none) ∨
      ∃ map map', session.map? register = some map ∧ other.map? register = some map' ∧
        map.seen session.setting.ledger = map'.seen other.setting.ledger := by
  unfold map?
  rcases h.register register with ⟨given, given'⟩ | ⟨value, value', given, given', same⟩
  · rw [given, given']
    exact .inl ⟨rfl, rfl⟩
  · rw [given, given', Option.bind_some, Option.bind_some]
    have maps := congrArg Value.asMap? same
    rw [Value.asMap?_seen, Value.asMap?_seen] at maps
    cases held : value.asMap? with
    | none =>
      rw [held] at maps
      exact .inl ⟨rfl, Option.map_eq_none_iff.mp maps.symm⟩
    | some map =>
      rw [held] at maps
      obtain ⟨map', held', alike⟩ := Option.map_eq_some_iff.mp maps.symm
      exact .inr ⟨map, map', rfl, held', alike.symm⟩

/-- What a handle shows is a matter of the value that is shown. -/
theorem handle?_eq (session : Session) (register : Register) :
    session.handle? register = ((session.shown register).bind Value.asMap?).map fun map =>
      (map.instance? .empty, map.binding.staged? .empty) := by
  unfold Session.handle? Session.shown Session.map?
  cases session.registers register with
  | none => rfl
  | some value =>
    rw [Option.map_some, Option.bind_some, Option.bind_some, Value.asMap?_seen]
    cases value.asMap? with
    | none => rfl
    | some map =>
      rw [Option.map_some, Option.map_some, Option.map_some, MapHandle.instance?,
        MapHandle.instance?, MapHandle.seen, Binding.instance?_seen, Binding.staged?_seen]

theorem Alike.handle? (h : session.Alike other) (register : Register) :
    other.handle? register = session.handle? register := by
  rw [handle?_eq, handle?_eq, h.shown]

theorem Alike.keep (h : session.Alike other) (register : Register) {value? value?' : Option Value}
    (same : value?.map (Value.seen session.store.ledger) =
      value?'.map (Value.seen other.store.ledger)) :
    (session.keep register value?).Alike (other.keep register value?') := by
  refine ⟨h.database, h.view, fun name => ?_⟩
  have shown := h.shown name
  unfold Session.shown Session.keep at *
  dsimp only
  split
  · exact same.symm
  · exact shown

theorem Alike.trans {third : Session} (h : session.Alike other) (later : other.Alike third) :
    session.Alike third where
  database := later.database.trans h.database
  view := later.view.trans h.view
  shown register := (later.shown register).trans (h.shown register)

/-- Sessions stay alike when cells and ledgers stay what they were to both. -/
theorem Alike.moved (h : session.Alike other) (database : next.database = session.database)
    (database' : next'.database = other.database) (registers : next.registers = session.registers)
    (registers' : next'.registers = other.registers)
    (ledger : next.store.ledger = session.store.ledger)
    (ledger' : next'.store.ledger = other.store.ledger) (view : next'.view = next.view) :
    next.Alike next' := by
  refine ⟨?_, view, fun register => ?_⟩
  · rw [database, database', h.database]
  · have shown := h.shown register
    unfold Session.shown at *
    rw [registers, registers', ledger, ledger']
    exact shown

theorem Wrote.ledger {effects : List Effect} (wrote : session.Wrote effects batched next)
    (hs : session.Sound) : next.store.ledger = session.setting.ledger := by
  rw [setting_ledger]
  exact (wrote.outcome hs).1

theorem Looked.view {store : Store} (looked : session.Looked store) (hs : session.Sound) :
    Session.view { session with store } = session.view := by
  unfold Session.view
  rw [looked.contents hs]

/-- The same writes leave the same to be seen. -/
theorem Alike.wrote (h : session.Alike other) (hs : session.Sound) (ho : other.Sound)
    {effects effects' : List Effect} (wrote : session.Wrote effects batched next)
    (wrote' : other.Wrote effects' batched' next') (writes : writesOf effects = writesOf effects') :
    next.Alike next' := by
  obtain ⟨database, registers, _⟩ := wrote.frame
  obtain ⟨database', registers', _⟩ := wrote'.frame
  refine h.moved database database' registers registers' (wrote.outcome hs).1 (wrote'.outcome ho).1 ?_
  rw [wrote.view hs, wrote'.view ho, h.view, applyAll_eq, applyAll_eq, writes]

theorem Alike.looked (h : session.Alike other) (hs : session.Sound) (ho : other.Sound)
    {store store' : Store} (looked : session.Looked store) (looked' : other.Looked store') :
    Alike { session with store } { other with store := store' } := by
  refine h.moved rfl rfl rfl rfl looked.ledger looked'.ledger ?_
  rw [looked.view hs, looked'.view ho, h.view]

/-! ## Edits -/

/-- Two sessions answer alike, and stay so. -/
def Matches (first second : Answer × Session) : Prop :=
  first.1 = second.1 ∧ first.2.Alike second.2

theorem Alike.putItem (h : session.Alike other) (hs : session.Healthy batched)
    (ho : other.Healthy batched') (tablePrefix key : Bytes) (register : Register) :
    Matches (session.mutate batched (.putItem tablePrefix key register))
      (other.mutate batched' (.putItem tablePrefix key register)) := by
  have named' : Table.named other.database tablePrefix = Table.named session.database tablePrefix :=
    congrArg (Table.named · tablePrefix) h.database
  unfold mutate
  dsimp only
  rcases h.register register with ⟨given, given'⟩ | ⟨value, value', given, given', same⟩
  · rw [given, given']
    exact ⟨rfl, h⟩
  · cases named : Table.named session.database tablePrefix with
    | error error =>
      rw [given, given', named', named]
      exact ⟨rfl, h⟩
    | ok table =>
      rw [named] at named'
      rw [given, given', named']
      obtain ⟨⟨result, after⟩, next, written⟩ := write_ready hs.mode
        (Store.putItem table key value) (fun batch => Store.batchPutItem batch table key value)
      obtain ⟨⟨result', after'⟩, next', written'⟩ := write_ready ho.mode
        (Store.putItem table key value') (fun batch => Store.batchPutItem batch table key value')
      obtain ⟨wrote, puts⟩ := putItem_wrote hs.sound.ownBatch named written
      obtain ⟨wrote', puts'⟩ := putItem_wrote ho.sound.ownBatch named' written'
      rw [h.view] at puts'
      obtain ⟨rfl, seen, writes⟩ := puts.agree hs.reliable ho.reliable same puts'
      dsimp only
      rw [written, written']
      refine ⟨rfl, (h.wrote hs.sound ho.sound wrote wrote' writes).keep _ ?_⟩
      rw [wrote.ledger hs.sound, wrote'.ledger ho.sound]
      exact congrArg some seen

theorem Alike.deleteItem (h : session.Alike other) (hs : session.Healthy batched)
    (ho : other.Healthy batched') (tablePrefix key : Bytes) :
    Matches (session.mutate batched (.deleteItem tablePrefix key))
      (other.mutate batched' (.deleteItem tablePrefix key)) := by
  have named' : Table.named other.database tablePrefix = Table.named session.database tablePrefix :=
    congrArg (Table.named · tablePrefix) h.database
  unfold mutate
  dsimp only
  cases named : Table.named session.database tablePrefix with
  | error error =>
    rw [named', named]
    exact ⟨rfl, h⟩
  | ok table =>
    rw [named] at named'
    rw [named']
    obtain ⟨result, next, written⟩ := write_ready hs.mode (Store.deleteItem table key)
      (fun batch => Store.batchDeleteItem batch table key)
    obtain ⟨result', next', written'⟩ := write_ready ho.mode (Store.deleteItem table key)
      (fun batch => Store.batchDeleteItem batch table key)
    obtain ⟨wrote, deletes⟩ := deleteItem_wrote hs.sound.ownBatch named written
    obtain ⟨wrote', deletes'⟩ := deleteItem_wrote ho.sound.ownBatch named' written'
    obtain ⟨rfl, writes⟩ := deletes.agree hs.reliable ho.reliable deletes'
    dsimp only
    rw [written, written']
    exact ⟨rfl, h.wrote hs.sound ho.sound wrote wrote' writes⟩

theorem Alike.setItem (h : session.Alike other) (hs : session.Healthy batched)
    (ho : other.Healthy batched') (mapRegister : Register) (key : Bytes) (register : Register) :
    Matches (session.mutate batched (.setItem mapRegister key register))
      (other.mutate batched' (.setItem mapRegister key register)) := by
  unfold mutate
  dsimp only
  rcases h.map mapRegister with ⟨held, held'⟩ | ⟨map, map', held, held', alike⟩
  · rw [held, held']
    exact ⟨rfl, h⟩
  · rcases h.register register with ⟨given, given'⟩ | ⟨value, value', given, given', same⟩
    · rw [held, held', given, given']
      exact ⟨rfl, h⟩
    · rw [held, held', given, given']
      dsimp only
      by_cases itself : register = mapRegister
      · rw [if_pos itself, if_pos itself]
        exact ⟨rfl, h⟩
      · rw [if_neg itself, if_neg itself]
        obtain ⟨⟨result, mapped, after⟩, next, written⟩ := write_ready hs.mode
          (Store.setItem map key value) (fun batch => Store.batchSetItem batch map key value)
        obtain ⟨⟨result', mapped', after'⟩, next', written'⟩ := write_ready ho.mode
          (Store.setItem map' key value') (fun batch => Store.batchSetItem batch map' key value')
        obtain ⟨wrote, sets⟩ := setItem_wrote hs.sound.ownBatch (hs.sound.owned held) written
        obtain ⟨wrote', sets'⟩ := setItem_wrote ho.sound.ownBatch (ho.sound.owned held') written'
        rw [h.view] at sets'
        obtain ⟨rfl, shown, seen, writes⟩ :=
          sets.agree hs.reliable ho.reliable alike same sets'
        rw [written, written']
        have written := h.wrote hs.sound ho.sound wrote wrote' writes
        refine ⟨rfl, (written.keep _ ?_).keep _ ?_⟩
        · rw [wrote.ledger hs.sound, wrote'.ledger ho.sound]
          exact congrArg (fun map => some (Value.ofMap map)) shown
        · show some (after.seen next.store.ledger) = some (after'.seen next'.store.ledger)
          rw [wrote.ledger hs.sound, wrote'.ledger ho.sound, seen]

theorem Alike.stage (h : session.Alike other) (hs : session.Healthy batched)
    (ho : other.Healthy batched') (mapRegister : Register) (key : Bytes) (register : Register) :
    Matches (session.perform (.stage mapRegister key register))
      (other.perform (.stage mapRegister key register)) := by
  unfold perform
  dsimp only
  rcases h.map mapRegister with ⟨held, held'⟩ | ⟨map, map', held, held', alike⟩
  · rw [held, held']
    exact ⟨rfl, h⟩
  · rcases h.register register with ⟨given, given'⟩ | ⟨value, value', given, given', same⟩
    · rw [held, held', given, given']
      exact ⟨rfl, h⟩
    · rw [held, held', given, given']
      dsimp only
      by_cases itself : register = mapRegister
      · rw [if_pos itself, if_pos itself]
        exact ⟨rfl, h⟩
      · rw [if_neg itself, if_neg itself]
        obtain ⟨store, looked, staged⟩ := stage_looked (hs.sound.owned held) key value
        obtain ⟨store', looked', staged'⟩ := stage_looked (ho.sound.owned held') key value'
        rw [setting_ledger, setting_ledger] at alike same
        obtain ⟨answers, shown⟩ := MapHandle.staging_agree alike same
        rw [staged, staged']
        refine ⟨congrArg Answer.ofResult answers, ((h.looked hs.sound ho.sound looked looked').keep _
          ?_).keep _ rfl⟩
        show some (Value.seen store.ledger _) = some (Value.seen store'.ledger _)
        rw [looked.ledger, looked'.ledger]
        exact congrArg (fun map => some (Value.ofMap map)) shown

/-- **Sessions that are alike answer an edit alike**, and stay alike, in whichever mode each is. -/
theorem Alike.perform (h : session.Alike other) (hs : session.Healthy batched)
    (ho : other.Healthy batched') (edit : Edit) :
    Matches (session.perform (edit.call batched)) (other.perform (edit.call batched')) := by
  cases edit with
  | bytes payload into => exact ⟨rfl, h.keep into rfl⟩
  | newMap into =>
    refine ⟨rfl, h.keep into ?_⟩
    rw [h.database]
    rfl
  | clone source into =>
    unfold Session.perform Edit.call
    dsimp only
    rcases h.register source with ⟨given, given'⟩ | ⟨value, value', given, given', same⟩
    · rw [given, given']
      exact ⟨rfl, h⟩
    · rw [given, given']
      rw [setting_ledger, setting_ledger] at same
      exact ⟨rfl, h.keep into (congrArg some same)⟩
  | stage map key value => exact h.stage hs ho map key value
  | mutate mutation =>
    cases mutation with
    | putItem tablePrefix key value => exact h.putItem hs ho tablePrefix key value
    | deleteItem tablePrefix key => exact h.deleteItem hs ho tablePrefix key
    | setItem map key value => exact h.setItem hs ho map key value

theorem Alike.run (h : session.Alike other) (hs : session.Healthy batched)
    (ho : other.Healthy batched') (edits : List Edit) :
    session.answers (edits.map (Edit.call batched)) =
        other.answers (edits.map (Edit.call batched')) ∧
      (session.run (edits.map (Edit.call batched))).2.Alike
        (other.run (edits.map (Edit.call batched'))).2 ∧
      (session.run (edits.map (Edit.call batched))).2.Healthy batched ∧
      (other.run (edits.map (Edit.call batched'))).2.Healthy batched' := by
  induction edits generalizing session other with
  | nil => exact ⟨rfl, h, hs, ho⟩
  | cons edit edits ih =>
    obtain ⟨answer, alike⟩ := h.perform hs ho edit
    have healthy := hs.performs (edit.isTurn_call _) (perform_spec hs.sound (edit.call batched))
    have healthy' := ho.performs (edit.isTurn_call _) (perform_spec ho.sound (edit.call batched'))
    obtain ⟨answers, whole⟩ := ih alike healthy healthy'
    refine ⟨?_, whole⟩
    rw [List.map_cons, List.map_cons, answers_cons, answers_cons, answer, answers]

/-! ## Opening and applying -/

/-- A batch that was just opened shows what the database holds. -/
theorem Healthy.openBatch (h : session.Healthy false)
    (free : session.store.isLocked session.database = false) :
    (session.perform .openBatch).1 = .done ∧ session.Alike (session.perform .openBatch).2 ∧
      (session.perform .openBatch).2.Healthy true := by
  have performs := perform_spec h.sound .openBatch
  have sound := performs.sound h.sound
  rw [perform_openBatch free] at sound ⊢
  have closed := h.closed
  have space := space_openBatch h.sound
  refine ⟨rfl, ⟨rfl, ?_, fun register => ?_⟩, sound, rfl, ?_, ?_, ?_⟩
  · rw [view_atOnce closed]
    rfl
  · refine congrArg (Option.map · (session.registers register)) (funext fun value => ?_)
    refine value.seen_congr fun batch => ?_
    have same := session.store.ledger.outcome_openNext batch
    exact iff_of_eq (congrArg (· = Outcome.discarded) same)
  · rw [space]
    exact h.reads
  · rw [space]
    exact h.writes
  · intro _ same
    cases same
    exact current_openBatch h.sound

/-- A batch that is applied leaves the cells that it showed. -/
theorem Healthy.apply (h : session.Healthy true) :
    (session.perform .apply).1 = .done ∧
      (session.perform .apply).2.contents.cells = session.view ∧
      session.Alike (session.perform .apply).2 := by
  obtain ⟨batch, held⟩ := Option.isSome_iff_exists.mp h.mode
  obtain ⟨result, space, ends, same⟩ := perform_apply h.sound.ownBatch held
  obtain ⟨engine, ledger, _, answer⟩ := Batch.apply_spec ends
  obtain ⟨taken, after⟩ | ⟨fails, _⟩ := (session.space.engine.write_spec batch.writes).outcome
  · have contents := contents_applied h.sound space
    have cells : space.engine.contents.cells = session.view := by
      have pinned : session.space.engine.contents = batch.snapshot.contents :=
        (h.current held).pinned.symm
      rw [engine, after, view_later held, pinned, batch.cells_taken]
    rw [same, answer, taken, contents]
    refine ⟨rfl, cells, rfl, ?_, fun register => ?_⟩
    · rw [view_atOnce rfl, contents, cells]
    · refine congrArg (Option.map · (session.registers register)) (funext fun value => ?_)
      refine value.seen_congr fun other => ?_
      rw [taken] at ledger
      show space.ledger.outcome other = .discarded ↔ session.store.ledger.outcome other = .discarded
      rw [ledger]
      exact Ledger.discarded_conclude (h.current held).known (h.current held).undecided other
  · cases h.writes.symm.trans fails

/-- Applying a batch harms nothing. -/
theorem Healthy.applied (h : session.Healthy true) : (session.perform .apply).2.Healthy false := by
  obtain ⟨batch, held⟩ := Option.isSome_iff_exists.mp h.mode
  obtain ⟨result, space, ends, same⟩ := perform_apply h.sound.ownBatch held
  obtain ⟨engine, _⟩ := Batch.apply_spec ends
  have sound := (perform_spec h.sound .apply).sound h.sound
  obtain ⟨reads, writes⟩ := (session.space.engine.write_spec batch.writes).reliable
  have now := space_applied h.sound space
  rw [same] at sound ⊢
  refine ⟨sound, rfl, ?_, ?_, nofun⟩
  · rw [now, engine, reads]
    exact h.reads
  · rw [now, engine, writes]
    exact h.writes

/-- **Edits made at once and edits made in a batch come to the same**, whatever the cells are and
whatever is staged on the handles: the same answers, errors included, the same cells once the batch
is applied, and the same instance and staged entries for every handle. -/
theorem edits_in_batch (session : Session) (edits : List Edit) (sound : session.Sound)
    (closed : session.batch? = none) (free : session.store.isLocked session.database = false)
    (reads : session.space.engine.servesReads = true)
    (writes : session.space.engine.takesWrites = true) :
    session.answers (Edit.inBatch edits) =
        .done :: (session.answers (Edit.atOnce edits) ++ [.done]) ∧
      (session.run (Edit.inBatch edits)).2.contents.cells =
        (session.run (Edit.atOnce edits)).2.contents.cells ∧
      ∀ register,
        (session.run (Edit.inBatch edits)).2.shown register =
            (session.run (Edit.atOnce edits)).2.shown register ∧
          (session.run (Edit.inBatch edits)).2.handle? register =
            (session.run (Edit.atOnce edits)).2.handle? register := by
  have noBatch {batch : Batch} (held : session.batch? = some batch) : False := by
    cases closed.symm.trans held
  have healthy : session.Healthy false :=
    ⟨sound, by rw [closed]; rfl, reads, writes, fun held => (noBatch held).elim⟩
  obtain ⟨opened, start, batched⟩ := healthy.openBatch free
  obtain ⟨answers, seen, direct, batched⟩ := start.run healthy batched edits
  obtain ⟨applied, cells, same⟩ := batched.apply
  obtain ⟨last, whole⟩ := run_append (session.perform .openBatch).2 (edits.map (Edit.call true))
    [.apply]
  have ends : (session.run (Edit.inBatch edits)).2 =
      ((((session.perform .openBatch).2.run (edits.map (Edit.call true))).2).perform .apply).2 :=
    last
  have alike : Alike (session.run (Edit.atOnce edits)).2 (session.run (Edit.inBatch edits)).2 := by
    rw [ends]
    exact seen.trans same
  refine ⟨?_, ?_, fun register => ⟨alike.shown register, alike.handle? register⟩⟩
  · rw [Edit.inBatch, answers_cons, opened, whole, ← answers, answers_cons, applied]
    rfl
  · have closed : (session.run (Edit.atOnce edits)).2.batch? = none := direct.closed
    rw [← view_atOnce closed, ends, cells]
    exact seen.view

/-- A database whose only map has a count that cannot be read; a handle on it, and one with a map
staged in it. -/
def damaged : Session where
  store := { Store.empty with databases := #[{ Database.inMemory .default .none with
    engine := ⟨⟨((∅ : KeySpace).insert Layout.allocatorKey (Counter.encode 2)).insert
      (Layout.countKey ⟨1⟩) [7, 7], 0⟩, .memory .none⟩ }] }
  database := 0
  registers register := match register with
    | 0 => some (.map 0 (.bound ⟨1⟩))
    | 1 => some (.map 0 (.unbound (.cons [5] (.map 0 (.unbound (.cons [6] (.bytes [7]) .nil))) .nil)))
    | 2 => some (.bytes [8])
    | _ => none
  snapshots _ := none
  batch? := none

/-- Some of these edits fail on the way. -/
def mixedEdits : List Edit :=
  [.mutate (.setItem 1 [9] 2), .clone 2 3, .stage 1 [3] 3, .mutate (.setItem 0 [4] 1),
    .mutate (.setItem 0 [4] 2), .mutate (.putItem [1] [1] 1), .mutate (.deleteItem [1] [2])]

/-- In a damaged database both ways fail at the same edits, and leave the same behind. -/
theorem edits_in_batch_damaged :
    damaged.answers (Edit.atOnce mixedEdits) =
        [.done, .done, .failed (.invalidOperation (.stagingOnPersisted ⟨2⟩)),
          .failed (.decode (.counterWidth .mapCount 2)),
          .failed (.decode (.counterWidth .mapCount 2)), .done, .done] ∧
      damaged.answers (Edit.inBatch mixedEdits) =
        .done :: (damaged.answers (Edit.atOnce mixedEdits) ++ [.done]) ∧
      (damaged.run (Edit.inBatch mixedEdits)).2.contents.cells =
        (damaged.run (Edit.atOnce mixedEdits)).2.contents.cells ∧
      (damaged.run (Edit.inBatch mixedEdits)).2.handle? 1 =
        (damaged.run (Edit.atOnce mixedEdits)).2.handle? 1 := by
  have answers : damaged.answers (Edit.atOnce mixedEdits) =
      [.done, .done, .failed (.invalidOperation (.stagingOnPersisted ⟨2⟩)),
        .failed (.decode (.counterWidth .mapCount 2)),
        .failed (.decode (.counterWidth .mapCount 2)), .done, .done] := by decide +kernel
  have sound : damaged.Sound := by
    refine ⟨by decide, nofun, ?_⟩
    intro register map held
    match register with
    | 0 | 1 =>
      cases held
      rfl
    | 2 | _ + 3 => cases held
  obtain ⟨batched, cells, handles⟩ := edits_in_batch damaged mixedEdits sound rfl rfl rfl rfl
  exact ⟨answers, batched, cells, (handles 1).2⟩

end Session

end NestedStore
