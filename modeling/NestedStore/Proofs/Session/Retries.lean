import NestedStore.Proofs.Map.ReadBack
import NestedStore.Proofs.Session.Orderly

/-! # Putting a tree again and again

An item may be put again when putting it failed. However often that happened, and wherever in the
tree each time, a handle in the tree is on an instance only if everything that was staged on it is
there (`Kept`), so what is found once the item is put well is the tree as it was at first
(`retried_put_finds_tree`). -/
namespace NestedStore

/-- Staging leaves entries in order. -/
theorem MapHandle.ordered_staging {ledger : Ledger} {key : Bytes} {value : Value} {map : MapHandle}
    (whole : map.binding.Ordered) (mine : value.Ordered) :
    (map.staging ledger key value).2.binding.Ordered := by
  obtain ⟨owner, binding⟩ := map
  unfold staging
  cases binding with
  | unbound staged => exact Staged.Ordered.insert mine whole
  | bound id => trivial
  | pending id batch staged =>
    have entries : staged.Ordered := whole
    dsimp only [Binding.settled]
    cases ledger.outcome batch with
    | undecided => exact entries
    | applied => trivial
    | discarded => exact Staged.Ordered.insert mine entries

theorem PutsItem.ordered {setting : Setting} {cells : KeySpace} {table : Table} {key : Bytes}
    {value value' : Value} {result : Except StoreError Unit} {effects : List Effect}
    (h : PutsItem setting cells table key value result value' effects) (mine : value.Ordered) :
    value'.Ordered := by
  cases h with
  | failed bind | unbound bind _ | refused bind _ | stored bind _ => exact bind.ordered mine

theorem SetsItem.ordered {setting : Setting} {cells : KeySpace} {map map' : MapHandle}
    {key : Bytes} {value value' : Value} {result : Except StoreError Unit} {effects : List Effect}
    (h : SetsItem setting cells map key value result map' value' effects)
    (whole : map.binding.Ordered) (mine : value.Ordered) :
    map'.binding.Ordered ∧ value'.Ordered := by
  cases h with
  | unbound bind => exact ⟨bind.ordered whole, mine⟩
  | set bind entry => exact ⟨bind.ordered whole, entry.ordered mine fun bind => bind.ordered mine⟩

namespace Session

/-! ## Everything in hand is in order -/

/-- Every value in hand is in order. -/
def Sorted (session : Session) : Prop :=
  ∀ register value, session.registers register = some value → value.Ordered

variable {session next : Session}

theorem Sorted.keep (h : session.Sorted) (register : Register) {value? : Option Value}
    (mine : ∀ value, value? = some value → value.Ordered) : (session.keep register value?).Sorted := by
  intro other value given
  dsimp only [Session.keep] at given
  split at given
  · exact mine value given
  · exact h other value given

theorem Sorted.map (h : session.Sorted) {register : Register} {map : MapHandle}
    (held : session.map? register = some map) : map.binding.Ordered :=
  h _ _ (registers_of_map? held)

theorem Sorted.mutates (h : session.Sorted) {batched : Bool} {mutation : Mutation}
    {effects : List Effect} {answer : Answer}
    (mutates : session.Mutates batched mutation effects answer next) : next.Sorted := by
  have still {mid : Session} {batched : Bool} {effects : List Effect}
      (wrote : session.Wrote effects batched mid) : mid.Sorted := fun _ _ given =>
    h _ _ (wrote.frame.2.1 ▸ given)
  cases mutates with
  | refused | illNamed => exact h
  | putItem _ given wrote puts =>
    refine (still wrote).keep _ ?_
    rintro _ ⟨⟩
    exact puts.ordered (h _ _ given)
  | deleteItem _ wrote _ => exact still wrote
  | setItem held given _ wrote sets =>
    obtain ⟨whole, mine⟩ := sets.ordered (h.map held) (h _ _ given)
    refine ((still wrote).keep _ ?_).keep _ ?_
    · rintro _ ⟨⟩
      exact whole
    · rintro _ ⟨⟩
      exact mine

/-- **Whatever a call does, every value in hand is in order.** -/
theorem Sorted.performs (h : session.Sorted) {call : Call} {answer : Answer}
    (performs : session.Performs call answer next) : next.Sorted := by
  cases performs with
  | refused | illNamed | openBatch | apply | discard | snap | nothing | befall => exact h
  | bytes | newMap =>
    refine h.keep _ ?_
    rintro _ ⟨⟩
    trivial
  | clone given =>
    refine h.keep _ ?_
    rintro _ ⟨⟩
    exact h _ _ given
  | stage held given differ looked =>
    have still : Sorted { session with store := _ } := h
    refine (still.keep _ ?_).keep _ nofun
    rintro _ ⟨⟩
    exact MapHandle.ordered_staging (h.map held) (h _ _ given)
  | mutate mutates => exact h.mutates mutates
  | @found _ _ _ _ value _ _ reads given holds looked =>
    have still : Sorted { session with store := _ } := h
    refine still.keep _ ?_
    rintro _ ⟨⟩
    obtain ⟨form, rfl⟩ := holds.form
    cases form <;> trivial

theorem Sorted.run (h : session.Sorted) (hs : session.Sound) (calls : List Call) :
    (session.run calls).2.Sorted := by
  induction calls generalizing session with
  | nil => exact h
  | cons call calls ih =>
    have performs := perform_spec hs call
    exact ih (h.performs performs) (performs.sound hs)

/-! ## Attempts -/

/-- An attempt to put an item, on a medium that may fail wherever it likes. -/
def attempt (tablePrefix key : Bytes) (register : Register) (medium : Medium) : List Call :=
  [.befall medium, .mutate false (.putItem tablePrefix key register)]

/-- What is in hand is the tree, planted in parts: on instances that are numbered from `floor` on,
each map on its own. -/
structure Kept (session : Session) (register : Register) (tree : Value) (floor : Nat)
    (made : List InstanceId) : Prop where
  part : ∃ now, session.registers register = some now ∧
    tree.Partly session.store.ledger session.contents.cells now made
  alone : made.Nodup
  numbered : ∀ id ∈ made, floor ≤ id.val.toNat ∧
    id.val.toNat < nextNumber session.contents.cells
  floor : floor ≤ nextNumber session.contents.cells

/-- The item is there, with all of the tree planted under it. -/
def Houses (session : Session) (tablePrefix key : Bytes) (tree : Value)
    (made : List InstanceId) : Prop :=
  ∃ table stored, Table.named session.database tablePrefix = .ok table ∧
    session.contents.cells[table.itemKey key]? = some stored.encode ∧
    tree.PlantedAs session.contents.cells stored made

variable {register : Register} {tree : Value} {floor : Nat} {made : List InstanceId}
  {owed : List InstanceId} {tablePrefix key : Bytes}

/-- What is in hand is kept where neither the cells nor the ledger change. -/
theorem Kept.still (h : session.Kept register tree floor made)
    (registers : next.registers = session.registers)
    (ledger : next.store.ledger = session.store.ledger)
    (contents : next.contents = session.contents) : next.Kept register tree floor made where
  part := by
    rw [registers, ledger, contents]
    exact h.part
  alone := h.alone
  numbered := by
    rw [contents]
    exact h.numbered
  floor := by
    rw [contents]
    exact h.floor

/-- Instances that are handed out join those of a tree with numbers of their own. -/
theorem numbered_joined {new made' : List InstanceId} {middle top : Nat}
    (joined : Joined made new made') (alone : made.Nodup)
    (old : ∀ id ∈ made, floor ≤ id.val.toNat ∧ id.val.toNat < middle) (apart : new.Nodup)
    (fresh : ∀ id ∈ new, middle ≤ id.val.toNat ∧ id.val.toNat < top) (above : floor ≤ middle)
    (grows : middle ≤ top) :
    made'.Nodup ∧ ∀ id ∈ made', floor ≤ id.val.toNat ∧ id.val.toNat < top := by
  constructor
  · refine joined.all.nodup_iff.mpr (List.nodup_append.mpr ⟨alone, apart, ?_⟩)
    rintro id mine _ member rfl
    have := (old id mine).2
    have := (fresh id member).1
    omega
  · intro id member
    rcases List.mem_append.mp (joined.all.mem_iff.mp member) with mine | member
    · have := old id mine
      omega
    · have := fresh id member
      omega

/-- Putting what is in hand keeps it, and if that ends well, the item is there. -/
theorem Kept.put (h : session.Kept register tree floor made) (ordered : tree.Ordered)
    (orderly : session.Orderly owed) (hs : session.Sound) {effects : List Effect} {answer : Answer}
    (mutates : session.Mutates false (.putItem tablePrefix key register) effects answer next)
    (room : handedOutIn next.store.events + 1 < UInt64.size) :
    ∃ made', next.Kept register tree floor made' ∧
      (answer = .done → next.Houses tablePrefix key tree made') := by
  cases mutates with
  | refused | illNamed => exact ⟨made, h, nofun⟩
  | @putItem _ _ _ table value value' result _ next named given wrote puts =>
    obtain ⟨now, held, part⟩ := h.part
    obtain rfl : value = now := Option.some.inj (given.symm.trans held)
    obtain ⟨ledger, -, ⟨-, free, -, cells⟩ | ⟨⟨⟩, -⟩⟩ := wrote.outcome hs
    have standing : session.setting.Standing := by
      intro batch within
      rw [Session.setting, free] at within
      cases within
    have bound := orderly.room wrote room
    rw [view_atOnce free, ← length_allocatedIn] at bound
    rw [view_atOnce free] at puts cells
    rw [← setting_ledger] at part
    obtain ⟨first, fallow, number⟩ := orderly.consistent.fallow
    have fertile : Fertile session.contents.cells first made effects :=
      ⟨fallow, number ▸ bound, fun id member => number ▸ (h.numbered id member).2⟩
    obtain ⟨new, made', handed, joined, part, whole⟩ := puts.advances standing ordered part fertile
    obtain ⟨last, later, number'⟩ := fallow.after puts.confined (by rintro _ _ rfl ⟨⟩) fertile.room
    rw [← cells] at part whole later
    have known : nextNumber next.contents.cells = last.val.toNat := later.nextNumber_eq
    obtain ⟨alone, numbered⟩ := numbered_joined joined h.alone h.numbered
      ((puts.confined.nodup_handed fallow.allocator fertile.room).sublist handed)
      (fun id member =>
        number ▸ puts.confined.between fallow.allocator fertile.room (handed.subset member))
      h.floor (Nat.le_add_right ..)
    have grown : nextNumber session.contents.cells + (allocatedIn effects).length =
        nextNumber next.contents.cells := by omega
    rw [grown] at numbered
    refine ⟨made', ⟨⟨value', if_pos rfl, ?_⟩, alone, numbered, ?_⟩, fun done => ?_⟩
    · rw [setting_ledger, ← ledger] at part
      exact part
    · exact h.floor.trans (grown ▸ Nat.le_add_right ..)
    · cases result with
      | error error => cases done
      | ok _ =>
        obtain ⟨-, stored, -, item, planted⟩ := whole rfl
        have same : next.database = session.database := wrote.frame.1
        exact ⟨table, stored, (congrArg (Table.named · tablePrefix) same).trans named, item, planted⟩

theorem Kept.tried (h : session.Kept register tree floor made) (ordered : tree.Ordered)
    (orderly : session.Orderly owed) (hs : session.Sound) (tablePrefix key : Bytes)
    (medium : Medium)
    (room : handedOutIn (session.run (attempt tablePrefix key register medium)).2.store.events + 1 <
      UInt64.size) :
    ∃ made', (session.run (attempt tablePrefix key register medium)).2.Kept register tree floor
        made' ∧
      ((session.answers (attempt tablePrefix key register medium)).getLast? = some .done →
        (session.run (attempt tablePrefix key register medium)).2.Houses tablePrefix key tree
          made') := by
  have befalls := perform_spec hs (.befall medium)
  have sound := befalls.sound hs
  have mutates : Mutates _ false (.putItem tablePrefix key register) _ _ _ := mutate_spec sound
  have before := handedOut_le_run sound [.mutate false (.putItem tablePrefix key register)]
  rw [attempt, run_cons] at room
  dsimp only at room
  obtain ⟨_, orderly, -⟩ := orderly.performs hs befalls (by omega)
  have kept : (session.perform (.befall medium)).2.Kept register tree floor made :=
    h.still rfl rfl (congrArg (·.engine.contents) (space_befall hs medium))
  obtain ⟨made', kept, houses⟩ := kept.put ordered orderly sound mutates room
  exact ⟨made', kept, fun last => houses (Option.some.inj last)⟩

/-- However often it is tried, what is in hand is kept. -/
theorem Kept.retried (h : session.Kept register tree floor made) (ordered : tree.Ordered)
    (orderly : session.Orderly owed) (hs : session.Sound) (tablePrefix key : Bytes)
    (media : List Medium)
    (room : handedOutIn (session.run (media.flatMap (attempt tablePrefix key register))).2.store.events
      + 1 < UInt64.size) : ∃ made',
      (session.run (media.flatMap (attempt tablePrefix key register))).2.Kept register tree
        floor made' := by
  induction media generalizing session made owed with
  | nil => exact ⟨made, h⟩
  | cons medium media ih =>
    rw [List.flatMap_cons, (run_append session _ _).1] at room ⊢
    have sound := sound_run hs (attempt tablePrefix key register medium)
    have before := handedOut_le_run sound (media.flatMap (attempt tablePrefix key register))
    obtain ⟨made', kept, -⟩ := h.tried ordered orderly hs tablePrefix key medium (by omega)
    obtain ⟨_, orderly, -⟩ := orderly.run hs (attempt tablePrefix key register medium)
      (by omega)
    exact ih kept orderly sound room

/-- A tree that is there is read back. -/
theorem Houses.readBack (h : session.Houses tablePrefix key tree made) (ordered : tree.Ordered)
    {space : Workspace} (working : space.engine.ReadsWork) : ∃ table found,
      Table.named session.database tablePrefix = .ok table ∧
      ((table.getItem (session.store.snapshot session.database) key).run.run space).1 =
        .ok (some found) ∧
      tree.ReadBack (session.store.snapshot session.database) space session.database found made := by
  obtain ⟨table, stored, named, held, planted⟩ := h
  refine ⟨table, .ofStored session.database stored, named, ?_,
    Value.PlantedAs.readBack working session.database planted ordered⟩
  have whole : Ends (table.getItem (session.store.snapshot session.database) key) space _ _ :=
    returns_self _ space
  have read := (Snapshot.decode_read working.reads whole).1
  have there : (session.store.snapshot session.database).contents.cells[table.itemKey key]? =
    some stored.encode := held
  rw [there, Option.elim_some, Value.decode_encode_stored, Table.named_owner named] at read
  exact read

/-- **An item can be put again after any failure.** Whatever was done before with a database that
started empty, and wherever the attempts to put a tree failed, once the last one ends well the item
is read back as the tree that was in hand before the first, every map counting as many entries as
were staged on it. No two of its maps are on one instance, and none of those that were not bound
before is on one that was handed out before. Instances must remain to be handed out (`room`): the
failed attempts use some up too, and numbers that start over would be handed out twice. -/
theorem retried_put_finds_tree (store : Store) (database : DatabaseId) (history : List Call)
    (tablePrefix key : Bytes) (register : Register) (media : List Medium) (space : Workspace)
    {value : Value} {before after : Session} (present : database < store.databases.size)
    (empty : (store.database database).engine.contents = .empty)
    (reached : ((start store database).run history).2 = before)
    (given : before.registers register = some value)
    (tried : (before.run (media.flatMap (attempt tablePrefix key register))).2 = after)
    (done : (before.answers (media.flatMap (attempt tablePrefix key register))).getLast? =
      some .done)
    (room : handedOutIn after.store.events < UInt64.size - 1) (working : space.engine.ReadsWork) :
    ∃ table found made, Table.named database tablePrefix = .ok table ∧
      ((table.getItem (after.store.snapshot database) key).run.run space).1 = .ok (some found) ∧
      (value.seen before.store.ledger).ReadBack (after.store.snapshot database) space database found
        made ∧
      made.Nodup ∧ ∀ id ∈ made, nextNumber before.contents.cells ≤ id.val.toNat := by
  subst tried
  have present : (start store database).Sound := sound_start present
  have sound : before.Sound := reached ▸ sound_run present history
  have same : before.database = database := reached ▸ database_run present history
  have ordered : value.Ordered := by
    have sorted : (start store database).Sorted := nofun
    exact sorted.run present history _ _ (reached ▸ given)
  obtain rfl | ⟨earlier, last, rfl⟩ := List.eq_nil_or_concat media
  · cases done
  rw [List.concat_eq_append, List.flatMap_append, List.flatMap_singleton] at done room ⊢
  rw [(run_append _ _ _).1] at room ⊢
  rw [(run_append _ _ _).2, List.getLast?_append] at done
  have between := sound_run sound (earlier.flatMap (attempt tablePrefix key register))
  have first := handedOut_le_run sound (earlier.flatMap (attempt tablePrefix key register))
  have second := handedOut_le_run between (attempt tablePrefix key register last)
  obtain ⟨_, orderly, -⟩ := (orderly_start empty).run present history (by rw [reached]; omega)
  rw [reached] at orderly
  have start : before.Kept register (value.seen before.store.ledger)
      (nextNumber before.contents.cells) [] :=
    ⟨⟨value, given, value.partly_seen⟩, List.nodup_nil, nofun, Nat.le_refl _⟩
  obtain ⟨made, kept⟩ := start.retried ordered.seen orderly sound tablePrefix key earlier (by omega)
  obtain ⟨_, orderly, -⟩ := orderly.run sound
    (earlier.flatMap (attempt tablePrefix key register)) (by omega)
  obtain ⟨made, kept, houses⟩ := kept.tried ordered.seen orderly between tablePrefix key last (by omega)
  obtain ⟨table, found, named, item, tree⟩ := (houses done).readBack ordered.seen working
  rw [database_run between, database_run sound, same] at named item tree
  exact ⟨table, found, made, named, item, tree, kept.alone, fun id member =>
    (kept.numbered id member).1⟩

/-- A map is staged on another, and has bytes staged on it. -/
def nesting : List Call := [.newMap 0, .newMap 1, .bytes [7] 2, .stage 1 [9] 2, .stage 0 [1] 1]

/-- The first attempt comes as far as the inner map, which is left unbound, the second as far as the
reference to it, and the third goes through. -/
def lessAndLess : List Medium :=
  [.memory { Faults.none with writesLeft := some 3 },
    .memory { Faults.none with writesLeft := some 6 }, .memory .none]

/-- The third attempt ends well, and both maps are there. -/
theorem retried_put_finds_tree_third_time : ∃ (before after : Session) (value : Value)
    (table : Table) (found : Value) (made : List InstanceId),
      before.registers 0 = some value ∧ value.newMaps = 2 ∧
      before.answers (lessAndLess.flatMap (attempt [1] [2] 0)) =
        [.done, .failed (.storage (.io .refusedWrite)), .done,
          .failed (.storage (.io .refusedWrite)), .done, .done] ∧
      ((table.getItem (after.store.snapshot 0) [2]).run.run ⟨.inMemory .none, .empty, []⟩).1 =
        .ok (some found) ∧
      (value.seen before.store.ledger).ReadBack (after.store.snapshot 0)
        ⟨.inMemory .none, .empty, []⟩ 0 found made ∧
      made.Nodup := by
  have answers : ((start Store.single 0).run nesting).2.answers
      (lessAndLess.flatMap (attempt [1] [2] 0)) =
        [.done, .failed (.storage (.io .refusedWrite)), .done,
          .failed (.storage (.io .refusedWrite)), .done, .done] := by
    decide +kernel
  have room : handedOutIn (((start Store.single 0).run nesting).2.run
      (lessAndLess.flatMap (attempt [1] [2] 0))).2.store.events < UInt64.size - 1 := by
    decide +kernel
  obtain ⟨value, given, size⟩ : ∃ value,
      ((start Store.single 0).run nesting).2.registers 0 = some value ∧ value.newMaps = 2 :=
    ⟨_, rfl, rfl⟩
  have working : (Workspace.mk (.inMemory .none) .empty []).engine.ReadsWork := ⟨rfl, rfl⟩
  generalize reached : ((start Store.single 0).run nesting).2 = before at *
  generalize tried : (before.run (lessAndLess.flatMap (attempt [1] [2] 0))).2 = after at *
  obtain ⟨table, found, made, -, item, tree, alone, -⟩ :=
    retried_put_finds_tree .single 0 nesting [1] [2] 0 lessAndLess _ (by decide) rfl reached given
      tried (by rw [answers]; rfl) room working
  exact ⟨before, after, value, table, found, made, given, size, answers, item, tree, alone⟩

end Session

end NestedStore
