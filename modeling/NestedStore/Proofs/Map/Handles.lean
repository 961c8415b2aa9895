import NestedStore.Proofs.Map.Binding

/-! # The handles in a value

A value may hold handles at any depth, by what is staged on its map. What all of them say of their
instances (`Every`) is what each of them says of its own (`Says`), so it can be asked of each with
regard to the database that it is of. Binding a value brings no database into it
(`Value.Binds.ownedBy`). -/
namespace NestedStore

mutual

/-- All map handles in a value. -/
def Value.handles : Value → List MapHandle
  | .bytes _ => []
  | .map owner binding => ⟨owner, binding⟩ :: binding.handles

/-- All map handles that are staged on a handle, or were before it was bound. -/
def Binding.handles : Binding → List MapHandle
  | .bound _ => []
  | .unbound staged => staged.handles
  | .pending _ _ staged => staged.handles

/-- All map handles in staged entries. -/
def Staged.handles : Staged → List MapHandle
  | .nil => []
  | .cons _ value rest => value.handles ++ rest.handles

end

/-- What a handle says of its own instance, if it names one. -/
def Binding.Says (good : Option BatchId → InstanceId → Prop) : Binding → Prop
  | .unbound _ => True
  | .bound id => good none id
  | .pending id batch _ => good (some batch) id

/-- All handles in the value are of the database. -/
def Value.OwnedBy (database : DatabaseId) (value : Value) : Prop :=
  ∀ handle ∈ value.handles, handle.owner = database

/-- All handles staged on the handle are of the database. -/
def Binding.OwnedBy (database : DatabaseId) (binding : Binding) : Prop :=
  ∀ handle ∈ binding.handles, handle.owner = database

/-- All handles in the staged entries are of the database. -/
def Staged.OwnedBy (database : DatabaseId) (staged : Staged) : Prop :=
  ∀ handle ∈ staged.handles, handle.owner = database

/-! ## What each handle says -/

section Every
variable {good better : Option BatchId → InstanceId → Prop}

theorem Binding.Says.imp {binding : Binding} (h : binding.Says good)
    (himp : ∀ batch? id, good batch? id → better batch? id) : binding.Says better := by
  cases binding with
  | unbound => trivial
  | bound id => exact himp none id h
  | pending id batch staged => exact himp (some batch) id h

mutual

theorem Value.every_iff : ∀ {value : Value},
    value.Every good ↔ ∀ handle ∈ value.handles, handle.binding.Says good
  | .bytes _ => iff_of_true trivial nofun
  | .map _ _ => by
    rw [Value.handles, List.forall_mem_cons]
    exact Binding.every_iff

theorem Binding.every_iff : ∀ {binding : Binding},
    binding.Every good ↔ binding.Says good ∧ ∀ handle ∈ binding.handles, handle.binding.Says good
  | .bound _ => (and_iff_left nofun).symm
  | .unbound _ => Staged.every_iff.trans (and_iff_right trivial).symm
  | .pending _ _ _ => and_congr_right fun _ => Staged.every_iff

theorem Staged.every_iff : ∀ {staged : Staged},
    staged.Every good ↔ ∀ handle ∈ staged.handles, handle.binding.Says good
  | .nil => iff_of_true trivial nofun
  | .cons _ _ _ => (and_congr Value.every_iff Staged.every_iff).trans List.forall_mem_append.symm

end

end Every

/-! ## Staging -/

theorem Staged.mem_handles_insert {key : Bytes} {value : Value} {handle : MapHandle} :
    ∀ {staged : Staged}, handle ∈ (staged.insert key value).handles →
      handle ∈ value.handles ∨ handle ∈ staged.handles
  | .nil, h => by simpa [insert, handles] using h
  | .cons other present rest, h => by
    unfold insert at h
    split at h
    · exact List.mem_append.mp h
    · exact (List.mem_append.mp h).imp_right fun later => List.mem_append_right _ later
    · rcases List.mem_append.mp h with first | later
      · exact .inr (List.mem_append_left _ first)
      · exact (mem_handles_insert later).imp_right fun kept => List.mem_append_right _ kept

theorem Binding.mem_handles_settled {binding : Binding} {ledger : Ledger} {handle : MapHandle}
    (h : handle ∈ (binding.settled ledger).handles) : handle ∈ binding.handles := by
  cases binding with
  | unbound | bound => exact h
  | pending id batch staged =>
    unfold settled at h
    dsimp only at h
    split at h
    · exact h
    · cases h
    · exact h

/-- Staging brings the handles of the value to those of the map. -/
theorem MapHandle.mem_handles_staging {map handle : MapHandle} {ledger : Ledger} {key : Bytes}
    {value : Value} (h : handle ∈ (map.staging ledger key value).2.binding.handles) :
    handle ∈ value.handles ∨ handle ∈ map.binding.handles := by
  unfold staging at h
  split at h
  · next staged unbound =>
    refine (Staged.mem_handles_insert h).imp_right fun kept => ?_
    apply Binding.mem_handles_settled
    rw [unbound]
    exact kept
  · next id bound => cases h
  · next id batch staged pending =>
    refine .inr (@Binding.mem_handles_settled map.binding ledger handle ?_)
    rw [pending]
    exact h

/-! ## Binding -/

section Binds
variable {setting : Setting} {database : DatabaseId}

theorem Staged.ownedBy_cons {key : Bytes} {value : Value} {rest : Staged} :
    (Staged.cons key value rest).OwnedBy database ↔
      value.OwnedBy database ∧ rest.OwnedBy database := List.forall_mem_append

theorem SetsEntry.ownedBy {cells : KeySpace} {id : InstanceId} {key : Bytes} {value value' : Value}
    {binds : Except StoreError Unit → Value → List Effect → Prop} {result : Except StoreError Unit}
    {effects : List Effect} (h : SetsEntry setting cells id key value binds result value' effects)
    (mine : value.OwnedBy database)
    (bound : ∀ {result value' effects}, binds result value' effects → value'.OwnedBy database) :
    value'.OwnedBy database := by
  cases h with
  | refused => exact mine
  | valueFailed _ bind | stored _ bind _ => exact bound bind

theorem BindsStaged.ownedBy {cells : KeySpace} {staged : Staged} {binding : Binding}
    {writes : InstanceId → KeySpace → Except StoreError Unit → Staged → List Effect → Prop}
    {result : Except StoreError InstanceId} {effects : List Effect}
    (h : BindsStaged setting cells staged writes result binding effects)
    (mine : staged.OwnedBy database)
    (written : ∀ {id cells result staged' effects}, writes id cells result staged' effects →
      staged'.OwnedBy database) : binding.OwnedBy database := by
  cases h with
  | unallocated => exact mine
  | incomplete _ write => exact written write
  | bound _ write =>
    unfold Setting.bound
    split
    · exact written write
    · exact nofun

mutual

/-- Binding a value brings no database into it. -/
theorem Value.Binds.ownedBy : ∀ {value value' : Value} {cells : KeySpace}
    {result : Except StoreError Unit} {effects : List Effect},
    value.Binds setting cells result value' effects → value.OwnedBy database →
      value'.OwnedBy database
  | .bytes _, _, _, _, _, h, mine => by
    obtain ⟨_, rfl, _⟩ := h
    exact mine
  | .map _ _, _, _, _, _, h, mine => by
    obtain ⟨_, binding', bind, _, rfl⟩ := h
    obtain ⟨owner, inside⟩ := List.forall_mem_cons.mp mine
    exact List.forall_mem_cons.mpr ⟨owner, Binding.Binds.ownedBy bind inside⟩

theorem Binding.Binds.ownedBy : ∀ {binding binding' : Binding} {cells : KeySpace}
    {result : Except StoreError InstanceId} {effects : List Effect},
    binding.Binds setting cells result binding' effects → binding.OwnedBy database →
      binding'.OwnedBy database
  | .bound _, _, _, _, _, h, mine => by
    obtain ⟨_, rfl, _⟩ := h
    exact mine
  | .unbound _, _, _, _, _, h, mine =>
    BindsStaged.ownedBy h mine fun write => Staged.Writes.ownedBy write mine
  | .pending _ batch _, _, _, _, _, h, mine => by
    unfold Binding.Binds at h
    cases decided : setting.ledger.outcome batch with
    | undecided =>
      rw [decided] at h
      obtain ⟨_, rfl, _⟩ := h
      exact mine
    | applied =>
      rw [decided] at h
      obtain ⟨_, rfl, _⟩ := h
      exact nofun
    | discarded =>
      rw [decided] at h
      obtain ⟨_, _, binds⟩ := h
      exact BindsStaged.ownedBy binds mine fun write => Staged.Writes.ownedBy write mine

theorem Staged.Writes.ownedBy : ∀ {staged staged' : Staged} {id : InstanceId} {cells : KeySpace}
    {result : Except StoreError Unit} {effects : List Effect},
    staged.Writes setting id cells result staged' effects → staged.OwnedBy database →
      staged'.OwnedBy database
  | .nil, _, _, _, _, _, h, mine => by
    obtain ⟨_, rfl, _⟩ := h
    exact mine
  | .cons _ value _, _, _, _, _, _, h, mine => by
    obtain ⟨first, later⟩ := Staged.ownedBy_cons.mp mine
    have entry {cells : KeySpace} {result : Except StoreError Unit} {value' : Value}
        {effects : List Effect} (bind : value.Binds setting cells result value' effects) :
        value'.OwnedBy database := Value.Binds.ownedBy bind first
    rcases h with ⟨_, value', set, _, rfl⟩ | ⟨value', _, rest', _, set, write, rfl, _⟩
    · exact Staged.ownedBy_cons.mpr ⟨set.ownedBy first entry, later⟩
    · exact Staged.ownedBy_cons.mpr ⟨set.ownedBy first entry, Staged.Writes.ownedBy write later⟩

end

variable {cells : KeySpace} {key : Bytes} {value value' : Value} {result : Except StoreError Unit}
  {effects : List Effect}

theorem PutsItem.ownedBy {table : Table}
    (h : PutsItem setting cells table key value result value' effects)
    (mine : value.OwnedBy database) : value'.OwnedBy database := by
  cases h with
  | failed bind | unbound bind | refused bind | stored bind => exact bind.ownedBy mine

theorem SetsItem.ownedBy {map map' : MapHandle}
    (h : SetsItem setting cells map key value result map' value' effects)
    (mapMine : (Value.ofMap map).OwnedBy database) (mine : value.OwnedBy database) :
    (Value.ofMap map').OwnedBy database ∧ value'.OwnedBy database := by
  obtain ⟨owner, inside⟩ := List.forall_mem_cons.mp mapMine
  cases h with
  | unbound bind => exact ⟨List.forall_mem_cons.mpr ⟨owner, bind.ownedBy inside⟩, mine⟩
  | set bind entry =>
    exact ⟨List.forall_mem_cons.mpr ⟨owner, bind.ownedBy inside⟩,
      entry.ownedBy mine fun bind => bind.ownedBy mine⟩

end Binds

end NestedStore
