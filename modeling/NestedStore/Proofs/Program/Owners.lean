import NestedStore.Proofs.Map.Owners
import NestedStore.Proofs.Program

/-! # Mutations with values of other databases

Nobody asks whose maps the values are that are passed to a mutation. It ends as if they all were of
the database that it is made on (`Program.perform_ownedBy`), so a map of another database is stored
there by the number of its instance, whatever that number stands for. -/
namespace NestedStore

variable {owner : DatabaseId}

/-! ## Stores -/

namespace Store
variable (table : Table) (map : MapHandle) (batch : Batch) (key : Bytes) (value : Value)

theorem putItem_ownedBy : putItem table key (value.ownedBy owner) =
    Prod.map id (Value.ownedBy owner) <$> putItem table key value := by
  rw [putItem, table.putItem_ownedBy]
  rfl

theorem batchPutItem_ownedBy : batchPutItem batch table key (value.ownedBy owner) =
    Prod.map (Prod.map id (Value.ownedBy owner)) id <$> batchPutItem batch table key value := by
  unfold batchPutItem
  cases checkOwner table.owner batch with
  | error error => rfl
  | ok _ =>
    dsimp only
    rw [table.putItem_ownedBy]
    rfl

variable {map}

theorem setItem_ownedBy (mine : map.owner = owner) :
    setItem (map.ownedBy owner) key (value.ownedBy owner) =
      Prod.map id (Prod.map (MapHandle.ownedBy owner) (Value.ownedBy owner)) <$>
        setItem map key value := by
  subst mine
  rw [setItem, map.setItem_ownedBy]
  rfl

theorem batchSetItem_ownedBy (mine : map.owner = owner) :
    batchSetItem batch (map.ownedBy owner) key (value.ownedBy owner) =
      Prod.map (Prod.map id (Prod.map (MapHandle.ownedBy owner) (Value.ownedBy owner))) id <$>
        batchSetItem batch map key value := by
  subst mine
  unfold batchSetItem
  rw [show (map.ownedBy map.owner).owner = map.owner from rfl]
  cases checkOwner map.owner batch with
  | error error => rfl
  | ok _ =>
    dsimp only
    rw [map.setItem_ownedBy]
    rfl

end Store

/-! ## Sessions -/

namespace Session
variable {session : Session}

/-- The session with all that is in hand being of one database. -/
def ownedBy (owner : DatabaseId) (session : Session) : Session :=
  { session with
    registers := fun register => (session.registers register).map (Value.ownedBy owner) }

theorem map?_ownedBy (register : Register) : (session.ownedBy owner).map? register =
    (session.map? register).map (MapHandle.ownedBy owner) := by
  show ((session.registers register).map (Value.ownedBy owner)).bind Value.asMap? =
    ((session.registers register).bind Value.asMap?).map (MapHandle.ownedBy owner)
  cases session.registers register with
  | none => rfl
  | some value => exact value.asMap?_ownedBy

theorem keep_ownedBy (register : Register) (value : Value) :
    (session.ownedBy owner).keep register (some (value.ownedBy owner)) =
      (session.keep register (some value)).ownedBy owner := by
  have registers : (fun other => if other = register then some (value.ownedBy owner)
        else (session.registers other).map (Value.ownedBy owner)) =
      fun other => (if other = register then some value else session.registers other).map
        (Value.ownedBy owner) := by
    funext other
    split <;> rfl
  exact congrArg (fun registers => { session with registers }) registers

/-- Writing takes nothing from hand by itself. -/
theorem write_ownedBy {α : Type} {f : α → α} {atOnce atOnce' : StateM Store α}
    {later later' : Batch → StateM Store (α × Batch)} (once : atOnce' = f <$> atOnce)
    (left : ∀ batch, later' batch = Prod.map f id <$> later batch) (batched : Bool) :
    (session.ownedBy owner).write batched atOnce' later' =
      (session.write batched atOnce later).map (Prod.map f (ownedBy owner)) := by
  obtain rfl : later' = fun batch => Prod.map f id <$> later batch := funext left
  subst once
  unfold write
  rw [show (session.ownedBy owner).batch? = session.batch? from rfl]
  cases batched <;> cases session.batch? <;> rfl

theorem registers_ownedBy (register : Register) : (session.ownedBy owner).registers register =
    (session.registers register).map (Value.ownedBy owner) := rfl

theorem database_ownedBy : (session.ownedBy owner).database = session.database := rfl

variable (batched : Bool)

theorem putItem_ownedBy (tablePrefix key : Bytes) (register : Register) :
    (session.ownedBy owner).mutate batched (.putItem tablePrefix key register) =
      Prod.map id (ownedBy owner) (session.mutate batched (.putItem tablePrefix key register)) := by
  simp only [mutate, database_ownedBy, registers_ownedBy]
  cases session.registers register with
  | none => rfl
  | some value =>
    cases Table.named session.database tablePrefix with
    | error error => rfl
    | ok table =>
      simp only [Option.map_some]
      rw [write_ownedBy (Store.putItem_ownedBy table key value)
        fun batch => Store.batchPutItem_ownedBy table batch key value]
      cases session.write batched (Store.putItem table key value)
          (fun batch => Store.batchPutItem batch table key value) with
      | none => rfl
      | some written => exact congrArg (Prod.mk _) (keep_ownedBy register _)

theorem deleteItem_ownedBy (tablePrefix key : Bytes) :
    (session.ownedBy owner).mutate batched (.deleteItem tablePrefix key) =
      Prod.map id (ownedBy owner) (session.mutate batched (.deleteItem tablePrefix key)) := by
  simp only [mutate, database_ownedBy]
  cases Table.named session.database tablePrefix with
  | error error => rfl
  | ok table =>
    simp only
    rw [write_ownedBy (id_map _).symm fun batch => (id_map _).symm]
    cases session.write batched (Store.deleteItem table key)
        (fun batch => Store.batchDeleteItem batch table key) with
    | none => rfl
    | some written => rfl

theorem setItem_ownedBy (mapRegister : Register) (key : Bytes) (register : Register)
    (mine : ∀ {map}, session.map? mapRegister = some map → map.owner = owner) :
    (session.ownedBy owner).mutate batched (.setItem mapRegister key register) =
      Prod.map id (ownedBy owner) (session.mutate batched (.setItem mapRegister key register)) := by
  simp only [mutate, map?_ownedBy, registers_ownedBy]
  cases kept : session.map? mapRegister with
  | none => rfl
  | some map =>
    cases session.registers register with
    | none => rfl
    | some value =>
      simp only [Option.map_some]
      split
      · rfl
      · rw [write_ownedBy (Store.setItem_ownedBy key value (mine kept))
          fun batch => Store.batchSetItem_ownedBy batch key value (mine kept)]
        cases session.write batched (Store.setItem map key value)
            (fun batch => Store.batchSetItem batch map key value) with
        | none => rfl
        | some written =>
          obtain ⟨⟨result, left, value⟩, next⟩ := written
          refine congrArg (Prod.mk _) ?_
          calc ((next.ownedBy owner).keep mapRegister (some (.ofMap (left.ownedBy owner)))).keep
                register (some (value.ownedBy owner))
            _ = ((next.keep mapRegister (some (.ofMap left))).ownedBy owner).keep register
                  (some (value.ownedBy owner)) := by rw [Value.ofMap_ownedBy, keep_ownedBy]
            _ = ((next.keep mapRegister (some (.ofMap left))).keep register (some value)).ownedBy
                  owner := keep_ownedBy register value

/-- A mutation ends as if all that is in hand were of one database. A map that an entry is set in
has to be of this one. -/
theorem mutate_ownedBy (mutation : Mutation)
    (mine : ∀ {register map}, (Call.mutate batched mutation).onMap? = some register →
      session.map? register = some map → map.owner = owner) :
    (session.ownedBy owner).mutate batched mutation =
      Prod.map id (ownedBy owner) (session.mutate batched mutation) := by
  cases mutation with
  | putItem tablePrefix key register => exact putItem_ownedBy batched tablePrefix key register
  | deleteItem tablePrefix key => exact deleteItem_ownedBy batched tablePrefix key
  | setItem mapRegister key register =>
    exact setItem_ownedBy batched mapRegister key register (mine rfl)

end Session

/-! ## Programs -/

namespace Program
variable {program : Program} {request : Request}

/-- The program with all that is in hand being of one database. -/
def ownedBy (owner : DatabaseId) (program : Program) : Program :=
  { program with
    registers := fun register => (program.registers register).map (Value.ownedBy owner) }

theorem session_ownedBy (desk site : DatabaseId) :
    (program.ownedBy owner).session desk site = (program.session desk site).ownedBy owner := rfl

/-- What is asked for is for the same database if all in hand is of that. -/
theorem map?_ownedBy (register : Register) : (program.ownedBy owner).map? register =
    (program.map? register).map (MapHandle.ownedBy owner) :=
  (program.session owner owner).map?_ownedBy register

theorem site_ownedBy : (program.ownedBy (program.site request)).site request =
    program.site request := by
  cases onMap : request.call.onMap? with
  | none => simp only [site, onMap, Option.bind_none]
  | some register =>
    simp only [site, onMap, Option.bind_some, map?_ownedBy]
    cases program.map? register <;> rfl

/-- **A mutation ends as if all that is in hand were of the database that it is made on.** -/
theorem perform_ownedBy {batched : Bool} {mutation : Mutation}
    (made : request.call = .mutate batched mutation) :
    (program.ownedBy (program.site request)).perform request =
      Prod.map id (ownedBy (program.site request)) (program.perform request) := by
  have desk : (program.ownedBy (program.site request)).desk request = program.desk request := by
    cases request with
    | on => exact site_ownedBy
    | through => rfl
  have mine {register : Register} {map : MapHandle}
      (onMap : (Call.mutate batched mutation).onMap? = some register)
      (kept : program.map? register = some map) : map.owner = program.site request := by
    simp only [site, made, onMap, Option.bind_some, kept]
  have ended := (program.session (program.desk request) (program.site request)).mutate_ownedBy
    batched mutation mine
  simp only [perform, site_ownedBy, desk, session_ownedBy, made, Session.perform, ended]
  by_cases present : program.site request < program.store.databases.size
  · rw [if_pos present]
    exact if_pos present
  · rw [if_neg present]
    exact if_neg present

end Program

end NestedStore
