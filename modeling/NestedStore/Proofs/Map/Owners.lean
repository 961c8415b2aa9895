import NestedStore.Proofs.Surface.Lockstep

/-! # Whose maps values are

Storing a value does not look at whose maps are in it. Were they all of one database
(`Value.ownedBy`), the same would be answered and written, and what is left in hand would be the
same but for the owners (`Table.putItem_ownedBy`, `MapHandle.setItem_ownedBy`), whichever calls of
the surface fail. -/
namespace NestedStore

mutual

/-- The value, all maps in it being of one database. -/
def Value.ownedBy (owner : DatabaseId) : Value → Value
  | .bytes payload => .bytes payload
  | .map _ binding => .map owner (binding.ownedBy owner)

/-- The binding, all maps staged in it being of one database. -/
def Binding.ownedBy (owner : DatabaseId) : Binding → Binding
  | .unbound staged => .unbound (staged.ownedBy owner)
  | .bound id => .bound id
  | .pending id batch staged => .pending id batch (staged.ownedBy owner)

/-- The staged entries, all maps in them being of one database. -/
def Staged.ownedBy (owner : DatabaseId) : Staged → Staged
  | .nil => .nil
  | .cons key value rest => .cons key (value.ownedBy owner) (rest.ownedBy owner)

end

/-- The handle, it and all maps staged in it being of one database. -/
def MapHandle.ownedBy (owner : DatabaseId) (map : MapHandle) : MapHandle :=
  ⟨owner, map.binding.ownedBy owner⟩

variable {owner : DatabaseId}

theorem Value.asMap?_ownedBy (value : Value) :
    (value.ownedBy owner).asMap? = value.asMap?.map (MapHandle.ownedBy owner) := by
  cases value <;> rfl

theorem Value.ofMap_ownedBy (map : MapHandle) :
    Value.ofMap (map.ownedBy owner) = (Value.ofMap map).ownedBy owner := rfl

theorem Staged.length_ownedBy : ∀ staged : Staged, (staged.ownedBy owner).length = staged.length
  | .nil => rfl
  | .cons _ _ rest => congrArg (· + 1) rest.length_ownedBy

theorem Binding.instance?_ownedBy (ledger : Ledger) (binding : Binding) :
    (binding.ownedBy owner).instance? ledger = binding.instance? ledger := by
  cases binding <;> rfl

/-- A reference says nothing of its owner. -/
theorem Value.encode_ownedBy (ledger : Ledger) (value : Value) :
    (value.ownedBy owner).encode ledger = value.encode ledger := by
  cases value with
  | bytes payload => rfl
  | map _ binding =>
    have same : (binding.ownedBy owner).instance? ledger = binding.instance? ledger :=
      binding.instance?_ownedBy ledger
    simp only [Value.ownedBy, Value.encode, Value.stored?, same]

/-! ## Lockstep -/

section Programs
variable {σ : Type} [Surface σ]

theorem encodes_ownedBy (value value' : Value) (owned : value' = value.ownedBy owner) (s t : σ)
    (r : s = t) : value.encode (Surface.ledger s) = value'.encode (Surface.ledger t) := by
  subst owned r
  exact (value.encode_ownedBy _).symm

theorem bindStaged_ownedBy {staged : Staged}
    (write : ∀ id : InstanceId, Lockstep (Eq : σ → σ → Prop)
      (Beside fun staged staged' => staged' = staged.ownedBy owner) (staged.writeAll id)
      ((staged.ownedBy owner).writeAll id)) :
    Lockstep (Eq : σ → σ → Prop) (Beside fun binding binding' => binding' = binding.ownedBy owner)
      (bindStaged staged fun id => staged.writeAll id)
      (bindStaged (staged.ownedBy owner) fun id => (staged.ownedBy owner).writeAll id) := by
  refine InStep.refl.bindStaged ?_ ?_ ?_ rfl write
  · rintro staged _ rfl
    exact staged.length_ownedBy.symm
  · rintro staged _ rfl
    rfl
  · rintro id staged _ s _ rfl rfl
    cases Surface.batch? s <;> rfl

mutual

/-- A handle is bound in the same way whoever owns the maps that are staged in it. -/
theorem Binding.bind_ownedBy : ∀ binding : Binding,
    Lockstep (Eq : σ → σ → Prop) (Beside fun binding binding' => binding' = binding.ownedBy owner)
      binding.bind (binding.ownedBy owner).bind
  | .bound id => by
    rw [Binding.ownedBy, Binding.bind]
    exact .pure ⟨rfl, rfl⟩
  | .unbound staged => by
    rw [Binding.ownedBy, Binding.bind, Binding.bind]
    exact bindStaged_ownedBy staged.writeAll_ownedBy
  | .pending id batch staged => by
    rw [Binding.ownedBy, Binding.bind, Binding.bind]
    refine Lockstep.bind_get fun s t r => ?_
    subst r
    cases (Surface.ledger s).outcome batch with
    | undecided => exact .pure ⟨rfl, rfl⟩
    | applied => exact .pure ⟨rfl, rfl⟩
    | discarded =>
      exact Lockstep.bind_modify (InStep.refl.note _) (bindStaged_ownedBy staged.writeAll_ownedBy)

theorem Staged.writeAll_ownedBy : ∀ (staged : Staged) (id : InstanceId),
    Lockstep (Eq : σ → σ → Prop) (Beside fun staged staged' => staged' = staged.ownedBy owner)
      (staged.writeAll id) ((staged.ownedBy owner).writeAll id)
  | .nil, id => by
    rw [Staged.ownedBy, Staged.writeAll]
    exact .pure ⟨rfl, rfl⟩
  | .cons key value rest, id => by
    rw [Staged.ownedBy, Staged.writeAll, Staged.writeAll]
    refine (InStep.refl.setEntryWith encodes_ownedBy rfl value.bind_ownedBy).bind
      fun first second set => ?_
    obtain ⟨result, value⟩ := first
    obtain ⟨_, _⟩ := second
    obtain ⟨rfl, rfl⟩ := set
    cases result with
    | error error => exact .pure ⟨rfl, rfl⟩
    | ok _ =>
      refine (rest.writeAll_ownedBy id).bind fun first second wrote => ?_
      obtain ⟨answer, others⟩ := wrote
      exact .pure ⟨answer, congrArg (Staged.cons key (value.ownedBy owner)) others⟩

theorem Value.bind_ownedBy : ∀ value : Value,
    Lockstep (Eq : σ → σ → Prop) (Beside fun value value' => value' = value.ownedBy owner)
      value.bind (value.ownedBy owner).bind
  | .bytes payload => by
    rw [Value.ownedBy, Value.bind]
    exact .pure ⟨rfl, rfl⟩
  | .map _ binding => by
    rw [Value.ownedBy, Value.bind, Value.bind]
    refine binding.bind_ownedBy.bind fun first second bound => ?_
    obtain ⟨answer, same⟩ := bound
    exact .pure ⟨congrArg (Except.map fun _ => ()) answer, congrArg (Value.map owner) same⟩

end

/-- **An item is put in the same way whoever owns the maps in it.** -/
theorem Table.putItem_ownedBy (table : Table) (key : Bytes) (value : Value) :
    (table.putItem key (value.ownedBy owner) : StateM σ _) =
      Prod.map id (Value.ownedBy owner) <$> table.putItem key value := by
  refine Lockstep.eq_map ((InStep.refl.putItem table encodes_ownedBy value.bind_ownedBy).imp ?_)
  exact fun _ _ ⟨answer, same⟩ => Prod.ext answer.symm same

/-- **An entry is set in the same way whoever owns the maps in it and in the map.** -/
theorem MapHandle.setItem_ownedBy (map : MapHandle) (key : Bytes) (value : Value) :
    ((map.ownedBy owner).setItem key (value.ownedBy owner) : StateM σ _) =
      Prod.map id (Prod.map (MapHandle.ownedBy owner) (Value.ownedBy owner)) <$>
        map.setItem key value := by
  refine Lockstep.eq_map (map.binding.bind_ownedBy.bind fun first second bound => ?_)
  obtain ⟨result, binding⟩ := first
  obtain ⟨_, binding'⟩ := second
  obtain ⟨rfl, rfl⟩ := bound
  cases result with
  | error error => exact .pure rfl
  | ok id =>
    refine (InStep.refl.setEntryWith encodes_ownedBy rfl value.bind_ownedBy).bind
      fun first second set => ?_
    obtain ⟨answer, same⟩ := set
    exact .pure (Prod.ext answer.symm (congrArg (Prod.mk _) same))

end Programs

end NestedStore
