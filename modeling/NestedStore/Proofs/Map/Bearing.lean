import NestedStore.Proofs.Integrity
import NestedStore.Proofs.Store

/-! # Which handle bears which instance

A trail of keys leads from a value to a map that is staged in it. What the map there bears after its
value was bound it bore before, or it was bound on the way, and then no other was bound to the same
instance (`Value.Binds.bore`). A reference is written only for a map that has an instance: one that
bore it before, or one that was bound on the way, after the map that it is an entry of
(`Value.Binds.refers`). -/
namespace NestedStore

/-- The keys that lead from a value to one staged in it. -/
abbrev Trail := List Bytes

mutual

/-- The map at a trail is on an instance, bound in a batch or in none. -/
def Value.Bears : Value → Trail → Option BatchId → InstanceId → Prop
  | .bytes _, _, _, _ => False
  | .map _ binding, trail, batch?, id => binding.Bears trail batch? id

def Binding.Bears : Binding → Trail → Option BatchId → InstanceId → Prop
  | .unbound staged, trail, batch?, id => staged.Bears trail batch? id
  | .bound on, trail, batch?, id => trail = [] ∧ batch? = none ∧ id = on
  | .pending on batch staged, trail, batch?, id =>
    (trail = [] ∧ batch? = some batch ∧ id = on) ∨ staged.Bears trail batch? id

def Staged.Bears : Staged → Trail → Option BatchId → InstanceId → Prop
  | .nil, _, _, _ => False
  | .cons key value rest, trail, batch?, id =>
    (∃ deeper, trail = key :: deeper ∧ value.Bears deeper batch? id) ∨ rest.Bears trail batch? id

end

/-- The value that is staged at a key. -/
def Staged.get? (key : Bytes) : Staged → Option Value
  | .nil => none
  | .cons other value rest => if other = key then some value else rest.get? key

/-- The map that is found along a trail of staged entries. -/
def Value.mapAt? (ledger : Ledger) : Trail → Value → Option MapHandle
  | [], value => value.asMap?
  | key :: trail, value => do
    let map ← value.asMap?
    let staged ← map.binding.staged? ledger
    let entry ← staged.get? key
    entry.mapAt? ledger trail

/-- What a binding waits for that was made in a batch, or in none: nothing more, or for the batch
to be decided. It is `none` if the batch was discarded, and the binding with it. -/
def Ledger.awaited? (ledger : Ledger) : Option BatchId → Option (Option BatchId)
  | none => some none
  | some batch =>
    match ledger.outcome batch with
    | .undecided => some (some batch)
    | .applied => some none
    | .discarded => none

/-- The binding was not discarded with its batch. -/
def Ledger.Stands (ledger : Ledger) (batch? : Option BatchId) : Prop := ledger.awaited? batch? ≠ none

/-- A map that has an instance bears it, and its binding stands. -/
theorem Value.bears_of_stored? {value : Value} {ledger : Ledger} {id : InstanceId}
    (given : value.stored? ledger = some (.reference id)) :
    ∃ batch?, value.Bears [] batch? id ∧ ledger.Stands batch? := by
  cases value with
  | bytes payload => cases given
  | map owner binding =>
    obtain ⟨on, has, same⟩ := Option.map_eq_some_iff.mp given
    cases same
    cases binding with
    | unbound staged => cases has
    | bound on =>
      cases has
      exact ⟨none, ⟨rfl, rfl, rfl⟩, by rintro ⟨⟩⟩
    | pending on batch staged =>
      dsimp only [Binding.instance?] at has
      unfold Ledger.Stands Ledger.awaited?
      split at has
      · cases has
      · next standing =>
        cases has
        refine ⟨some batch, .inl ⟨rfl, rfl, rfl⟩, ?_⟩
        dsimp only
        cases decided : ledger.outcome batch with
        | undecided | applied => rintro ⟨⟩
        | discarded => exact absurd decided standing

theorem Staged.bears_of_get? {key : Bytes} {value : Value} {trail : Trail}
    {batch? : Option BatchId} {id : InstanceId} (bears : value.Bears trail batch? id) :
    ∀ {staged : Staged}, staged.get? key = some value → staged.Bears (key :: trail) batch? id
  | .cons other present rest, found => by
    unfold Staged.get? at found
    split at found
    · next same =>
      cases found
      exact .inl ⟨trail, by rw [same], bears⟩
    · exact .inr (bears_of_get? bears found)

theorem Binding.bears_of_staged? {binding : Binding} {ledger : Ledger} {staged : Staged}
    {trail : Trail} {batch? : Option BatchId} {id : InstanceId}
    (shown : binding.staged? ledger = some staged) (bears : staged.Bears trail batch? id) :
    binding.Bears trail batch? id := by
  cases binding with
  | unbound own =>
    cases shown
    exact bears
  | bound on => cases shown
  | pending on batch own =>
    dsimp only [Binding.staged?] at shown
    split at shown
    · cases shown
      exact .inr bears
    · cases shown

/-- A map that says that it has an instance bears it. -/
theorem Value.bears_of_mapAt? {ledger : Ledger} {trail : Trail} {value : Value} {map : MapHandle}
    {id : InstanceId} (found : value.mapAt? ledger trail = some map)
    (on : map.instance? ledger = some id) :
    ∃ batch?, value.Bears trail batch? id ∧ ledger.Stands batch? := by
  induction trail generalizing value with
  | nil =>
    refine Value.bears_of_stored? ?_
    cases value with
    | bytes payload => cases found
    | map owner binding =>
      cases found
      exact congrArg (Option.map StoredValue.reference) on
  | cons key trail ih =>
    obtain ⟨⟨owner, binding⟩, held, found⟩ := Option.bind_eq_some_iff.mp found
    obtain ⟨staged, shown, found⟩ := Option.bind_eq_some_iff.mp found
    obtain ⟨entry, here, found⟩ := Option.bind_eq_some_iff.mp found
    obtain ⟨batch?, bears, stands⟩ := ih found
    refine ⟨batch?, ?_, stands⟩
    cases value with
    | bytes payload => cases held
    | map owner binding =>
      cases held
      exact Binding.bears_of_staged? shown (Staged.bears_of_get? bears here)

/-! ## What is bound on the way -/

/-- What is borne at a trail. -/
abbrev Borne := Trail → Option BatchId → InstanceId → Prop

/-- What is borne `after` was borne `before`, or is one of those that were bound in between, each
to an instance of its own. -/
def Bore (setting : Setting) (before after : Borne) (effects : List Effect) : Prop :=
  ∃ made : List (Trail × InstanceId), (made.map Prod.snd).Sublist (allocatedIn effects) ∧
    ∀ {trail batch? id}, after trail batch? id →
      (∃ batch?', before trail batch?' id ∧
        setting.ledger.awaited? batch?' = setting.ledger.awaited? batch?) ∨
      batch? = setting.batch? ∧ (trail, id) ∈ made

section Bore
variable {setting : Setting} {cells : KeySpace} {before after : Borne}
  {effects first later : List Effect}

theorem Bore.refl (before : Borne) (effects : List Effect) : Bore setting before before effects :=
  ⟨[], List.nil_sublist _, fun bears => .inl ⟨_, bears, rfl⟩⟩

theorem Bore.mono (h : Bore setting before after effects)
    (more : (allocatedIn effects).Sublist (allocatedIn later)) : Bore setting before after later := by
  obtain ⟨made, ids, borne⟩ := h
  exact ⟨made, ids.trans more, borne⟩

theorem Bore.cons {key : Bytes} {value value' : Value} {rest rest' : Staged}
    (here : Bore setting value.Bears value'.Bears first)
    (there : Bore setting rest.Bears rest'.Bears later) :
    Bore setting (Staged.cons key value rest).Bears (Staged.cons key value' rest').Bears
      (first ++ later) := by
  obtain ⟨made, ids, borne⟩ := here
  obtain ⟨others, otherIds, borneThere⟩ := there
  refine ⟨made.map (fun (trail, id) => (key :: trail, id)) ++ others, ?_, ?_⟩
  · rw [List.map_append, List.map_map, allocatedIn_append]
    exact ids.append otherIds
  · intro trail batch? id bears
    rcases bears with ⟨deeper, rfl, bears⟩ | bears
    · rcases borne bears with ⟨batch?', was, same⟩ | ⟨mine, member⟩
      · exact .inl ⟨batch?', .inl ⟨deeper, rfl, was⟩, same⟩
      · exact .inr ⟨mine, List.mem_append_left _ (List.mem_map_of_mem member)⟩
    · rcases borneThere bears with ⟨batch?', was, same⟩ | ⟨mine, member⟩
      · exact .inl ⟨batch?', .inr was, same⟩
      · exact .inr ⟨mine, List.mem_append_right _ member⟩

theorem SetsEntry.bore {id : InstanceId} {key : Bytes} {value value' : Value}
    {binds : Except StoreError Unit → Value → List Effect → Prop} {result : Except StoreError Unit}
    (h : SetsEntry setting cells id key value binds result value' effects)
    (hb : ∀ {result value' effects}, binds result value' effects →
      Bore setting value.Bears value'.Bears effects) :
    Bore setting value.Bears value'.Bears effects := by
  cases h with
  | refused count => exact .refl _ _
  | valueFailed count bind => exact hb bind
  | stored count bind store =>
    refine (hb bind).mono ?_
    rw [allocatedIn_append]
    exact List.sublist_append_left _ _

theorem BindsStaged.bore {staged : Staged} {binding' : Binding}
    {writes : InstanceId → KeySpace → Except StoreError Unit → Staged → List Effect → Prop}
    {result : Except StoreError InstanceId}
    (h : BindsStaged setting cells staged writes result binding' effects)
    (hw : ∀ {id cells result staged' effects}, writes id cells result staged' effects →
      Bore setting staged.Bears staged'.Bears effects) :
    Bore setting staged.Bears binding'.Bears effects := by
  cases h with
  | unallocated allocate => exact .refl _ _
  | incomplete allocate write =>
    refine (hw write).mono ?_
    rw [allocatedIn_append]
    exact List.sublist_append_right _ _
  | @bound id staged' first later allocate write =>
    obtain ⟨made, ids, borne⟩ := hw write
    cases allocate
    refine ⟨([], id) :: made, ?_, ?_⟩
    · rw [allocatedIn_append, allocatedIn_append]
      exact (ids.trans (List.sublist_append_left _ _)).cons_cons id
    · intro trail batch? id' bears
      unfold Setting.bound at bears
      split at bears
      · next batch within =>
        rcases bears with ⟨rfl, rfl, rfl⟩ | bears
        · exact .inr ⟨within.symm, List.mem_cons_self⟩
        · exact (borne bears).imp_right fun ⟨mine, member⟩ => ⟨mine, List.mem_cons_of_mem _ member⟩
      · next within =>
        obtain ⟨rfl, rfl, rfl⟩ := bears
        exact .inr ⟨within.symm, List.mem_cons_self⟩

mutual

/-- **What a value bears after it was bound it bore before, or was bound to on the way.** -/
theorem Value.Binds.bore : ∀ {value value' : Value} {cells : KeySpace}
    {result : Except StoreError Unit} {effects : List Effect},
    value.Binds setting cells result value' effects →
    Bore setting value.Bears value'.Bears effects
  | .bytes payload, _, _, _, _, h => by
    obtain ⟨-, rfl, -⟩ := h
    exact .refl _ _
  | .map owner binding, _, _, _, _, h => by
    obtain ⟨_, binding', bind, -, rfl⟩ := h
    exact Binding.Binds.bore bind

theorem Binding.Binds.bore : ∀ {binding binding' : Binding} {cells : KeySpace}
    {result : Except StoreError InstanceId} {effects : List Effect},
    binding.Binds setting cells result binding' effects →
    Bore setting binding.Bears binding'.Bears effects
  | .bound id, _, _, _, _, h => by
    obtain ⟨-, rfl, -⟩ := h
    exact .refl _ _
  | .unbound staged, _, _, _, _, h =>
    BindsStaged.bore h fun write => Staged.Writes.bore write
  | .pending id batch staged, _, _, _, _, h => by
    unfold Binding.Binds at h
    cases decided : setting.ledger.outcome batch with
    | undecided =>
      rw [decided] at h
      obtain ⟨-, rfl, -⟩ := h
      exact .refl _ _
    | applied =>
      rw [decided] at h
      obtain ⟨-, rfl, -⟩ := h
      refine ⟨[], List.nil_sublist _, ?_⟩
      intro trail batch? id' bears
      obtain ⟨rfl, rfl, rfl⟩ := bears
      exact .inl ⟨some batch, .inl ⟨rfl, rfl, rfl⟩, by simp [Ledger.awaited?, decided]⟩
    | discarded =>
      rw [decided] at h
      obtain ⟨later, rfl, binds⟩ := h
      obtain ⟨made, ids, borne⟩ := BindsStaged.bore binds fun write => Staged.Writes.bore write
      exact ⟨made, ids, fun bears => (borne bears).imp_left fun ⟨batch?', was, same⟩ =>
        ⟨batch?', .inr was, same⟩⟩

theorem Staged.Writes.bore : ∀ {staged staged' : Staged} {id : InstanceId} {cells : KeySpace}
    {result : Except StoreError Unit} {effects : List Effect},
    staged.Writes setting id cells result staged' effects →
    Bore setting staged.Bears staged'.Bears effects
  | .nil, _, _, _, _, _, h => by
    obtain ⟨-, rfl, -⟩ := h
    exact .refl _ _
  | .cons key value rest, _, _, _, _, effects, h => by
    rcases h with ⟨_, value', set, -, rfl⟩ | ⟨value', first, rest', later, set, write, rfl, rfl⟩
    · have whole : Bore setting (Staged.cons key value rest).Bears
          (Staged.cons key value' rest).Bears (effects ++ []) :=
        (set.bore fun bind => Value.Binds.bore bind).cons (.refl _ _)
      rwa [List.append_nil] at whole
    · exact (set.bore fun bind => Value.Binds.bore bind).cons (Staged.Writes.bore write)

end

end Bore

/-! ## What is referred to -/

/-- A reference is written. -/
def Effect.reference (key : Bytes) (id : InstanceId) : Effect :=
  .write (.put key (StoredValue.reference id).encode)

theorem Counter.encode_ne_reference (count : UInt64) (id : InstanceId) :
    Counter.encode count ≠ (StoredValue.reference id).encode := by
  intro same
  have lengths := congrArg List.length same
  have longer : (StoredValue.reference id).encode.length = Counter.width + 1 := by
    rw [StoredValue.encode, List.length_cons, InstanceId.length_encode]
  rw [Counter.length_encode, longer] at lengths
  exact absurd lengths (Nat.ne_of_lt (Nat.lt_succ_self _))

theorem StoredValue.reference_of_encode {stored : StoredValue} {id : InstanceId}
    (same : (StoredValue.reference id).encode = stored.encode) : stored = .reference id := by
  have decoded := stored.decode_encode
  rw [← same, StoredValue.decode_encode] at decoded
  cases decoded
  rfl

/-- A reference is to a map that stood `before`, and is written at the end of the trail to it, or
it is to a map that was made on the way, after the one that it is an entry of: after `here?`, or
after another that was made on the way. -/
def Referred (setting : Setting) (here? : Option InstanceId) (before : Borne)
    (made : List InstanceId) (key : Bytes) (id : InstanceId) : Prop :=
  ∃ parent name, key = Layout.entryKey parent name ∧
    ((∃ trail batch?, before trail batch? id ∧ setting.ledger.Stands batch? ∧
        trail.getLast? = some name) ∨
      [parent, id].Sublist made ∨ here? = some parent ∧ id ∈ made)

/-- Every reference that is written is to such a map. -/
def Refers (setting : Setting) (here? : Option InstanceId) (before : Borne)
    (effects : List Effect) : Prop :=
  ∀ key id, Effect.reference key id ∈ effects →
    Referred setting here? before (allocatedIn effects) key id

section Refers
variable {setting : Setting} {cells : KeySpace} {here? : Option InstanceId} {before : Borne}
  {effects first later : List Effect} {key : Bytes} {id : InstanceId}

theorem Effect.reference_ne_note (event : Event) : Effect.reference key id ≠ .note event := nofun

theorem Effect.reference_eq_putEntry {on : InstanceId} {name : Bytes} {stored : StoredValue}
    (same : Effect.reference key id = .write (.putEntry on name stored)) :
    key = Layout.entryKey on name ∧ stored = .reference id := by
  obtain ⟨rfl, encoded⟩ := BatchOp.put.inj (Effect.write.inj same)
  exact ⟨rfl, StoredValue.reference_of_encode encoded⟩

theorem Effect.reference_ne_putCount (on : InstanceId) (count : UInt64) :
    Effect.reference key id ≠ .write (.putCount on count) := by
  intro same
  obtain ⟨-, encoded⟩ := BatchOp.put.inj (Effect.write.inj same)
  exact Counter.encode_ne_reference count id encoded.symm

theorem Allocates.no_reference {result : Except StoreError InstanceId}
    (h : Allocates setting cells result effects) : Effect.reference key id ∉ effects := by
  have handing (on : InstanceId) : Effect.reference key id ∉ handingOut on := by
    intro member
    rcases List.mem_cons.mp member with same | member
    · obtain ⟨-, encoded⟩ := BatchOp.put.inj (Effect.write.inj same)
      exact Counter.encode_ne_reference _ id encoded.symm
    · exact Effect.reference_ne_note _ (List.mem_singleton.mp member)
  cases h with
  | unread | malformed | refused => exact List.not_mem_nil
  | uncounted => exact handing _
  | made =>
    intro member
    rcases List.mem_append.mp member with member | member
    · exact handing _ member
    · exact Effect.reference_ne_putCount _ _ (List.mem_singleton.mp member)

theorem Raises.no_reference {on : InstanceId} {name : Bytes}
    {result : Except StoreError (Option UInt64)} (h : Raises setting cells on name result effects) :
    Effect.reference key id ∉ effects := by
  cases h with
  | missing | saturated => exact fun member => nomatch List.mem_singleton.mp member
  | _ => exact List.not_mem_nil

theorem Stores.reference {on : InstanceId} {name : Bytes} {value : Value}
    {raised? : Option UInt64} {result : Except StoreError Unit}
    (h : Stores setting on name value raised? result effects)
    (member : Effect.reference key id ∈ effects) :
    key = Layout.entryKey on name ∧ value.stored? setting.ledger = some (.reference id) := by
  have entry {stored : StoredValue} (given : value.stored? setting.ledger = some stored)
      (same : Effect.reference key id = .write (.putEntry on name stored)) :
      key = Layout.entryKey on name ∧ value.stored? setting.ledger = some (.reference id) := by
    obtain ⟨rfl, rfl⟩ := Effect.reference_eq_putEntry same
    exact ⟨rfl, given⟩
  cases h with
  | unbound | refused => cases member
  | kept given | uncounted given => exact entry given (List.mem_singleton.mp member)
  | counted given =>
    rcases List.mem_cons.mp member with same | member
    · exact entry given same
    · exact absurd (List.mem_singleton.mp member) (Effect.reference_ne_putCount _ _)

theorem Referred.mono {wider : Borne} {made more : List InstanceId}
    (h : Referred setting here? before made key id)
    (borne : ∀ {trail batch?}, before trail batch? id → wider trail batch? id)
    (longer : made.Sublist more) : Referred setting here? wider more key id := by
  obtain ⟨parent, name, same, ⟨trail, batch?, was, stands⟩ | made | ⟨mine, made⟩⟩ := h
  · exact ⟨parent, name, same, .inl ⟨trail, batch?, borne was, stands⟩⟩
  · exact ⟨parent, name, same, .inr (.inl (made.trans longer))⟩
  · exact ⟨parent, name, same, .inr (.inr ⟨mine, longer.subset made⟩)⟩

/-- The entry of a map is written for what its value bore, or was bound to on the way. -/
theorem SetsEntry.refers {on : InstanceId} {name : Bytes} {value value' : Value}
    {binds : Except StoreError Unit → Value → List Effect → Prop} {result : Except StoreError Unit}
    (h : SetsEntry setting cells on name value binds result value' effects)
    (hb : ∀ {result value' effects}, binds result value' effects →
      Bore setting value.Bears value'.Bears effects ∧ Refers setting none value.Bears effects) :
    Refers setting (some on)
      (fun trail batch? id => ∃ deeper, trail = name :: deeper ∧ value.Bears deeper batch? id)
      effects := by
  have deeper {first : List Effect} (refers : Refers setting none value.Bears first) :
      Refers setting (some on)
        (fun trail batch? id => ∃ deeper, trail = name :: deeper ∧ value.Bears deeper batch? id)
        first := by
    intro key id member
    obtain ⟨parent, last, same, ⟨trail, batch?, was, stands, ends⟩ | made | ⟨nothing, _⟩⟩ :=
      refers key id member
    · refine ⟨parent, last, same, .inl ⟨name :: trail, batch?, ⟨trail, rfl, was⟩, stands, ?_⟩⟩
      rw [List.getLast?_cons, ends, Option.getD_some]
    · exact ⟨parent, last, same, .inr (.inl made)⟩
    · cases nothing
  cases h with
  | refused count => exact fun _ _ member => absurd member count.no_reference
  | valueFailed count bind => exact deeper (hb bind).2
  | @stored _ _ first later _ count bind store =>
    obtain ⟨⟨made, ids, borne⟩, refers⟩ := hb bind
    have longer : (allocatedIn first).Sublist (allocatedIn (first ++ later)) := by
      rw [allocatedIn_append]
      exact List.sublist_append_left _ _
    intro key id member
    rcases List.mem_append.mp member with member | member
    · exact (deeper refers key id member).mono (fun was => was) longer
    · obtain ⟨rfl, given⟩ := store.reference member
      obtain ⟨batch?, bears, stands⟩ := Value.bears_of_stored? given
      refine ⟨on, name, rfl, ?_⟩
      rcases borne bears with ⟨batch?', was, same⟩ | ⟨_, madeHere⟩
      · refine .inl ⟨[name], batch?', ⟨[], rfl, was⟩, ?_, rfl⟩
        rw [Ledger.Stands, same]
        exact stands
      · exact .inr (.inr ⟨rfl, longer.subset (ids.subset (List.mem_map_of_mem madeHere))⟩)

theorem BindsStaged.refers {staged : Staged} {binding' : Binding}
    {writes : InstanceId → KeySpace → Except StoreError Unit → Staged → List Effect → Prop}
    {result : Except StoreError InstanceId}
    (h : BindsStaged setting cells staged writes result binding' effects)
    (hw : ∀ {id cells result staged' effects}, writes id cells result staged' effects →
      Refers setting (some id) staged.Bears effects) :
    Refers setting none staged.Bears effects := by
  -- The map is made before everything that is made for its entries.
  have written {on : InstanceId} {first later : List Effect} {result : Except StoreError Unit}
      {staged' : Staged} (allocate : Allocates setting cells (.ok on) first)
      (write : writes on (applyAll cells first) result staged' later) :
      Refers setting none staged.Bears (first ++ later) := by
    have made : allocatedIn (first ++ later) = on :: allocatedIn later := by
      rw [allocatedIn_append]
      cases allocate
      rfl
    intro key id member
    rw [made]
    rcases List.mem_append.mp member with member | member
    · exact absurd member allocate.no_reference
    · obtain ⟨parent, name, same, was | both | ⟨mine, later⟩⟩ := hw write key id member
      · exact ⟨parent, name, same, .inl was⟩
      · exact ⟨parent, name, same, .inr (.inl (both.cons on))⟩
      · cases mine
        exact ⟨on, name, same, .inr (.inl ((List.singleton_sublist.mpr later).cons_cons on))⟩
  cases h with
  | unallocated allocate => exact fun _ _ member => absurd member allocate.no_reference
  | incomplete allocate write => exact written allocate write
  | @bound on staged' first later allocate write =>
    intro key id member
    rw [allocatedIn_append]
    rcases List.mem_append.mp member with member | member
    · exact (written allocate write key id member).mono (fun was => was)
        (List.sublist_append_left _ _)
    · exact absurd (List.mem_singleton.mp member) (Effect.reference_ne_note _)

mutual

/-- **What is referred to when a value is bound** is one of the maps in it, or a map in a map that
was made on the way. -/
theorem Value.Binds.refers : ∀ {value value' : Value} {cells : KeySpace}
    {result : Except StoreError Unit} {effects : List Effect},
    value.Binds setting cells result value' effects → Refers setting none value.Bears effects
  | .bytes payload, _, _, _, _, h => by
    obtain ⟨-, -, rfl⟩ := h
    exact nofun
  | .map owner binding, _, _, _, _, h => by
    obtain ⟨_, binding', bind, -, rfl⟩ := h
    exact Binding.Binds.refers bind

theorem Binding.Binds.refers : ∀ {binding binding' : Binding} {cells : KeySpace}
    {result : Except StoreError InstanceId} {effects : List Effect},
    binding.Binds setting cells result binding' effects →
    Refers setting none binding.Bears effects
  | .bound id, _, _, _, _, h => by
    obtain ⟨-, -, rfl⟩ := h
    exact nofun
  | .unbound staged, _, _, _, _, h =>
    BindsStaged.refers h fun write => Staged.Writes.refers write
  | .pending id batch staged, _, _, _, _, h => by
    unfold Binding.Binds at h
    cases decided : setting.ledger.outcome batch with
    | undecided | applied =>
      rw [decided] at h
      obtain ⟨-, -, rfl⟩ := h
      exact nofun
    | discarded =>
      rw [decided] at h
      obtain ⟨later, rfl, binds⟩ := h
      have refers : Refers setting none staged.Bears later :=
        BindsStaged.refers binds fun write => Staged.Writes.refers write
      intro key id' member
      rcases List.mem_cons.mp member with same | member
      · exact absurd same (Effect.reference_ne_note _)
      · exact (refers key id' member).mono .inr (List.Sublist.refl _)

theorem Staged.Writes.refers : ∀ {staged staged' : Staged} {id : InstanceId} {cells : KeySpace}
    {result : Except StoreError Unit} {effects : List Effect},
    staged.Writes setting id cells result staged' effects →
    Refers setting (some id) staged.Bears effects
  | .nil, _, _, _, _, _, h => by
    obtain ⟨-, -, rfl⟩ := h
    exact nofun
  | .cons name value rest, _, on, _, _, _, h => by
    have entry {cells : KeySpace} {result : Except StoreError Unit} {value' : Value}
        {effects : List Effect} (set : SetsEntry setting cells on name value
          (value.Binds setting cells) result value' effects) : Refers setting (some on) _ effects :=
      set.refers fun bind => ⟨Value.Binds.bore bind, Value.Binds.refers bind⟩
    rcases h with ⟨_, value', set, -, rfl⟩ | ⟨value', first, rest', later, set, write, rfl, rfl⟩
    · exact fun key id member => (entry set key id member).mono .inl (List.Sublist.refl _)
    · have others : Refers setting (some on) rest.Bears later := Staged.Writes.refers write
      intro key id member
      rw [allocatedIn_append]
      rcases List.mem_append.mp member with member | member
      · exact (entry set key id member).mono .inl (List.sublist_append_left _ _)
      · exact (others key id member).mono .inr (List.sublist_append_right _ _)

end

end Refers

/-! ## Items and handles -/

section Items
variable {setting : Setting} {cells : KeySpace} {effects : List Effect} {key name : Bytes}
  {id : InstanceId}

/-- The instance that a handle is bound to it bore before, or it was made on the way. -/
theorem Binding.Binds.on {binding after : Binding}
    (h : binding.Binds setting cells (.ok id) after effects) :
    (∃ batch?, binding.Bears [] batch? id ∧ setting.ledger.Stands batch?) ∨
      id ∈ allocatedIn effects := by
  have made {staged : Staged} {after : Binding} {effects : List Effect}
      {writes : InstanceId → KeySpace → Except StoreError Unit → Staged → List Effect → Prop}
      (h : BindsStaged setting cells staged writes (.ok id) after effects) :
      id ∈ allocatedIn effects := by
    cases h with
    | bound allocate write =>
      cases allocate
      exact List.mem_cons_self
  cases binding with
  | unbound staged => exact .inr (made h)
  | bound on =>
    obtain ⟨same, -, -⟩ := h
    cases same
    exact .inl ⟨none, ⟨rfl, rfl, rfl⟩, nofun⟩
  | pending on batch staged =>
    unfold Binding.Binds at h
    cases decided : setting.ledger.outcome batch with
    | undecided | applied =>
      rw [decided] at h
      obtain ⟨same, -, -⟩ := h
      cases same
      refine .inl ⟨some batch, .inl ⟨rfl, rfl, rfl⟩, ?_⟩
      simp [Ledger.Stands, Ledger.awaited?, decided]
    | discarded =>
      rw [decided] at h
      obtain ⟨later, rfl, binds⟩ := h
      have among : id ∈ allocatedIn later := made binds
      exact .inr among

theorem PutsItem.bore {table : Table} {value value' : Value} {result : Except StoreError Unit}
    (h : PutsItem setting cells table key value result value' effects) :
    Bore setting value.Bears value'.Bears effects := by
  cases h with
  | failed bind | unbound bind | refused bind => exact bind.bore
  | stored bind =>
    refine bind.bore.mono ?_
    rw [allocatedIn_append]
    exact List.sublist_append_left _ _

/-- What is referred to when an item is put is the map that is put, or a map in it. -/
theorem PutsItem.refers {table : Table} {value value' : Value} {result : Except StoreError Unit}
    (h : PutsItem setting cells table key value result value' effects)
    (member : Effect.reference name id ∈ effects) :
    Referred setting none value.Bears (allocatedIn effects) name id ∨
      name = table.itemKey key ∧ ((∃ batch?, value.Bears [] batch? id ∧
        setting.ledger.Stands batch?) ∨ id ∈ allocatedIn effects) := by
  cases h with
  | failed bind | unbound bind | refused bind => exact .inl (bind.refers _ _ member)
  | @stored stored _ effects bind given =>
    rw [allocatedIn_append]
    rcases List.mem_append.mp member with member | member
    · exact .inl ((bind.refers _ _ member).mono (fun was => was) (List.sublist_append_left _ _))
    · obtain ⟨rfl, encoded⟩ :=
        BatchOp.put.inj (Effect.write.inj (List.mem_singleton.mp member))
      obtain rfl := StoredValue.reference_of_encode encoded
      obtain ⟨batch?, bears, stands⟩ := Value.bears_of_stored? given
      obtain ⟨made, ids, borne⟩ := bind.bore
      refine .inr ⟨rfl, ?_⟩
      rcases borne bears with ⟨batch?', was, same⟩ | ⟨_, madeHere⟩
      · refine .inl ⟨batch?', was, ?_⟩
        rw [Ledger.Stands, same]
        exact stands
      · exact .inr (List.mem_append_left _ (ids.subset (List.mem_map_of_mem madeHere)))

theorem DeletesItem.no_reference {table : Table} {result : Except StoreError Unit}
    (h : DeletesItem setting table key result effects) : Effect.reference name id ∉ effects := by
  cases h with
  | refused => exact List.not_mem_nil
  | deleted => exact fun member => nomatch List.mem_singleton.mp member

theorem SetsItem.bore {map map' : MapHandle} {value value' : Value}
    {result : Except StoreError Unit}
    (h : SetsItem setting cells map key value result map' value' effects) :
    ∃ first later, effects = first ++ later ∧
      Bore setting map.binding.Bears map'.binding.Bears first ∧
        Bore setting value.Bears value'.Bears later := by
  cases h with
  | unbound bind => exact ⟨effects, [], (List.append_nil _).symm, bind.bore, .refl _ _⟩
  | @set _ _ first later _ _ bind entry =>
    exact ⟨first, later, rfl, bind.bore, entry.bore fun bind => bind.bore⟩

/-- What is referred to when an entry is set is a map in the one that it is set in, the map that is
set, or a map in that. One that was made on the way was made after the map that it is an entry of,
unless that map stood before. -/
theorem SetsItem.refers {map map' : MapHandle} {value value' : Value}
    {result : Except StoreError Unit}
    (h : SetsItem setting cells map key value result map' value' effects)
    (member : Effect.reference name id ∈ effects) :
    ∃ parent last, name = Layout.entryKey parent last ∧
      ((∃ trail batch?, map.binding.Bears trail batch? id ∧ setting.ledger.Stands batch? ∧
          trail.getLast? = some last) ∨
        (∃ trail batch?, value.Bears trail batch? id ∧ setting.ledger.Stands batch? ∧
          (key :: trail).getLast? = some last) ∨
        [parent, id].Sublist (allocatedIn effects) ∨
        id ∈ allocatedIn effects ∧
          ∃ batch?, map.binding.Bears [] batch? parent ∧ setting.ledger.Stands batch?) := by
  cases h with
  | unbound bind =>
    obtain ⟨parent, last, same, was | both | ⟨nothing, _⟩⟩ := bind.refers _ _ member
    · exact ⟨parent, last, same, .inl was⟩
    · exact ⟨parent, last, same, .inr (.inr (.inl both))⟩
    · cases nothing
  | @set on _ first later _ _ bind entry =>
    rw [allocatedIn_append]
    rcases List.mem_append.mp member with member | member
    · obtain ⟨parent, last, same, was | both | ⟨nothing, _⟩⟩ := bind.refers _ _ member
      · exact ⟨parent, last, same, .inl was⟩
      · refine ⟨parent, last, same, .inr (.inr (.inl ?_))⟩
        exact both.trans (List.sublist_append_left _ _)
      · cases nothing
    · have refers := entry.refers fun bind => ⟨bind.bore, bind.refers⟩
      obtain ⟨parent, last, same, ⟨_, batch?, ⟨trail, rfl, was⟩, stands, ends⟩ | both |
        ⟨mine, made⟩⟩ := refers _ _ member
      · exact ⟨parent, last, same, .inr (.inl ⟨trail, batch?, was, stands, ends⟩)⟩
      · refine ⟨parent, last, same, .inr (.inr (.inl ?_))⟩
        exact both.trans (List.sublist_append_right _ _)
      · cases mine
        rcases bind.on with was | before
        · exact ⟨on, last, same, .inr (.inr (.inr ⟨List.mem_append_right _ made, was⟩))⟩
        · refine ⟨on, last, same, .inr (.inr (.inl ?_))⟩
          exact (List.singleton_sublist.mpr before).append (List.singleton_sublist.mpr made)

end Items

/-! ## Staging -/

section Staging
variable {key : Bytes} {trail : Trail} {batch? : Option BatchId} {id : InstanceId}

theorem Staged.bears_insert {value : Value} : ∀ {staged : Staged},
    (staged.insert key value).Bears trail batch? id →
      (∃ deeper, trail = key :: deeper ∧ value.Bears deeper batch? id) ∨ staged.Bears trail batch? id
  | .nil, bears => bears
  | .cons other present rest, bears => by
    unfold Staged.insert at bears
    split at bears
    · exact bears
    · exact bears.imp_right .inr
    · rcases bears with here | bears
      · exact .inr (.inl here)
      · exact (bears_insert bears).imp_right .inr

/-- What a handle bears after an entry was staged on it, it bore before, or the entry does. -/
theorem MapHandle.staging_bears {ledger : Ledger} {map : MapHandle} {value : Value}
    (bears : (map.staging ledger key value).2.binding.Bears trail batch? id) :
    (∃ batch?', map.binding.Bears trail batch?' id ∧
        ledger.awaited? batch?' = ledger.awaited? batch?) ∨
      (map.staging ledger key value).1 = .ok () ∧
        ∃ deeper, trail = key :: deeper ∧ value.Bears deeper batch? id := by
  obtain ⟨owner, binding⟩ := map
  unfold MapHandle.staging Binding.settled at *
  cases binding with
  | unbound staged =>
    rcases staged.bears_insert bears with entry | was
    · exact .inr ⟨rfl, entry⟩
    · exact .inl ⟨batch?, was, rfl⟩
  | bound on => exact .inl ⟨batch?, bears, rfl⟩
  | pending on batch staged =>
    cases decided : ledger.outcome batch with
    | undecided =>
      simp only [decided] at bears
      exact .inl ⟨batch?, bears, rfl⟩
    | applied =>
      simp only [decided] at bears
      obtain ⟨rfl, rfl, rfl⟩ := bears
      exact .inl ⟨some batch, .inl ⟨rfl, rfl, rfl⟩, by simp [Ledger.awaited?, decided]⟩
    | discarded =>
      simp only [decided] at bears ⊢
      rcases staged.bears_insert bears with entry | was
      · exact .inr ⟨trivial, entry⟩
      · exact .inl ⟨batch?, .inr was, rfl⟩

end Staging

end NestedStore
