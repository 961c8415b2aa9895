import NestedStore.Proofs.Steps
import NestedStore.Proofs.Store

/-! # Binding keeps the cells in order

Binding a value, with everything that is staged in it, takes steps on instances that did not exist
before it (`Fresh`), so the map around it is as it was when its count was read
(`SetsEntry.behaves`). What a handle says about its instance (`Every`) stays true, and becomes true
of the handles that are bound on the way. -/
namespace NestedStore

/-! ## What handles say -/

mutual

/-- Every handle in a value that names an instance is sanctioned: `good none id` for one that is
bound, `good (some batch) id` for one that was bound inside a batch. -/
def Value.Every (good : Option BatchId → InstanceId → Prop) : Value → Prop
  | .bytes _ => True
  | .map _ binding => binding.Every good

def Binding.Every (good : Option BatchId → InstanceId → Prop) : Binding → Prop
  | .unbound staged => staged.Every good
  | .bound id => good none id
  | .pending id batch staged => good (some batch) id ∧ staged.Every good

def Staged.Every (good : Option BatchId → InstanceId → Prop) : Staged → Prop
  | .nil => True
  | .cons _ value rest => value.Every good ∧ rest.Every good

end

section Every
variable {good better : Option BatchId → InstanceId → Prop}

mutual

theorem Value.Every.imp (himp : ∀ batch? id, good batch? id → better batch? id) :
    ∀ {value : Value}, value.Every good → value.Every better
  | .bytes _, _ => trivial
  | .map _ _, h => Binding.Every.imp himp h

theorem Binding.Every.imp (himp : ∀ batch? id, good batch? id → better batch? id) :
    ∀ {binding : Binding}, binding.Every good → binding.Every better
  | .unbound _, h => Staged.Every.imp himp h
  | .bound id, h => himp none id h
  | .pending id batch _, h => ⟨himp (some batch) id h.1, Staged.Every.imp himp h.2⟩

theorem Staged.Every.imp (himp : ∀ batch? id, good batch? id → better batch? id) :
    ∀ {staged : Staged}, staged.Every good → staged.Every better
  | .nil, _ => trivial
  | .cons _ _ _, h => ⟨Value.Every.imp himp h.1, Staged.Every.imp himp h.2⟩

end

theorem Staged.Every.insert {key : Bytes} {value : Value} (hv : value.Every good) :
    ∀ {staged : Staged}, staged.Every good → (staged.insert key value).Every good
  | .nil, _ => ⟨hv, trivial⟩
  | .cons other present rest, h => by
    unfold Staged.insert
    split
    · exact ⟨hv, h⟩
    · exact ⟨hv, h.2⟩
    · exact ⟨h.1, Staged.Every.insert hv h.2⟩

/-- What became of a batch does not make a handle in it say anything new. -/
theorem Binding.Every.settled {binding : Binding} {ledger : Ledger} (h : binding.Every good)
    (happ : ∀ {batch id}, ledger.outcome batch = .applied → good (some batch) id → good none id) :
    (binding.settled ledger).Every good := by
  cases binding with
  | unbound staged => exact h
  | bound id => exact h
  | pending id batch staged =>
    unfold Binding.settled
    dsimp only
    split
    · exact h
    · next applied => exact happ applied h.1
    · exact h.2

/-- Staging a value adds what its handles say. -/
theorem MapHandle.staging_every {map : MapHandle} {value : Value} {ledger : Ledger}
    (happ : ∀ {batch id}, ledger.outcome batch = .applied → good (some batch) id → good none id)
    (mapEvery : map.binding.Every good) (every : value.Every good) (key : Bytes) :
    (map.staging ledger key value).2.binding.Every good := by
  have settled : (map.binding.settled ledger).Every good := mapEvery.settled happ
  unfold MapHandle.staging
  cases hb : map.binding.settled ledger with
  | unbound staged =>
    rw [hb] at settled
    exact Staged.Every.insert every settled
  | bound id | pending id batch staged =>
    rw [hb] at settled
    exact settled

end Every

section Bound
variable {setting : Setting} {good : Option BatchId → InstanceId → Prop} {cells : KeySpace}

theorem SetsEntry.every {id : InstanceId} {key : Bytes} {value value' : Value}
    {binds : Except StoreError Unit → Value → List Effect → Prop} {result : Except StoreError Unit}
    {effects : List Effect} (h : SetsEntry setting cells id key value binds result value' effects)
    (hv : value.Every good)
    (hb : ∀ {result value' effects}, binds result value' effects → value'.Every good) :
    value'.Every good := by
  cases h with
  | refused count => exact hv
  | valueFailed _ bind | stored _ bind _ => exact hb bind

theorem BindsStaged.every (own : ∀ id, good setting.batch? id) {staged : Staged} {binding : Binding}
    {writes : InstanceId → KeySpace → Except StoreError Unit → Staged → List Effect → Prop}
    {result : Except StoreError InstanceId} {effects : List Effect}
    (h : BindsStaged setting cells staged writes result binding effects) (hs : staged.Every good)
    (hw : ∀ {id cells result staged' effects}, writes id cells result staged' effects →
      staged'.Every good) : binding.Every good := by
  cases h with
  | unallocated allocate => exact hs
  | incomplete allocate write => exact hw write
  | @bound id _ _ _ _ write =>
    have mine := own id
    unfold Setting.bound
    split
    · next batch within => exact ⟨within ▸ mine, hw write⟩
    · next within => exact (within ▸ mine : good none id)

mutual

/-- What all handles say that are bound here, and all that were bound before, all of them say
afterwards. -/
theorem Value.Binds.every (own : ∀ id, good setting.batch? id)
    (applied : ∀ {batch id}, setting.ledger.outcome batch = .applied → good (some batch) id →
      good none id) :
    ∀ {value value' : Value} {cells : KeySpace} {result : Except StoreError Unit}
      {effects : List Effect}, value.Binds setting cells result value' effects →
      value.Every good → value'.Every good
  | .bytes payload, _, _, _, _, h, hv => by
    obtain ⟨-, rfl, -⟩ := h
    exact hv
  | .map owner binding, _, _, _, _, h, hv => by
    obtain ⟨_, binding', bind, -, rfl⟩ := h
    exact Binding.Binds.every own applied bind hv

theorem Binding.Binds.every (own : ∀ id, good setting.batch? id)
    (applied : ∀ {batch id}, setting.ledger.outcome batch = .applied → good (some batch) id →
      good none id) :
    ∀ {binding binding' : Binding} {cells : KeySpace} {result : Except StoreError InstanceId}
      {effects : List Effect}, binding.Binds setting cells result binding' effects →
      binding.Every good → binding'.Every good
  | .bound id, _, _, _, _, h, hv => by
    obtain ⟨-, rfl, -⟩ := h
    exact hv
  | .unbound staged, _, _, _, _, h, hv =>
    BindsStaged.every own h hv fun write => Staged.Writes.every own applied write hv
  | .pending id batch staged, _, _, _, _, h, hv => by
    unfold Binding.Binds at h
    cases decided : setting.ledger.outcome batch with
    | undecided =>
      rw [decided] at h
      obtain ⟨-, rfl, -⟩ := h
      exact hv
    | applied =>
      rw [decided] at h
      obtain ⟨-, rfl, -⟩ := h
      exact applied decided hv.1
    | discarded =>
      rw [decided] at h
      obtain ⟨_, -, binds⟩ := h
      exact BindsStaged.every own binds hv.2 fun write => Staged.Writes.every own applied write hv.2

theorem Staged.Writes.every (own : ∀ id, good setting.batch? id)
    (applied : ∀ {batch id}, setting.ledger.outcome batch = .applied → good (some batch) id →
      good none id) :
    ∀ {staged staged' : Staged} {id : InstanceId} {cells : KeySpace}
      {result : Except StoreError Unit} {effects : List Effect},
      staged.Writes setting id cells result staged' effects → staged.Every good →
      staged'.Every good
  | .nil, _, _, _, _, _, h, hv => by
    obtain ⟨-, rfl, -⟩ := h
    exact hv
  | .cons key value rest, _, _, _, _, _, h, hv => by
    have entry {cells : KeySpace} {result : Except StoreError Unit} {value' : Value}
        {effects : List Effect} (bind : value.Binds setting cells result value' effects) :
        value'.Every good := Value.Binds.every own applied bind hv.1
    rcases h with ⟨_, value', set, -, rfl⟩ | ⟨value', _, rest', _, set, write, rfl, -⟩
    · exact ⟨set.every hv.1 entry, hv.2⟩
    · exact ⟨set.every hv.1 entry, Staged.Writes.every own applied write hv.2⟩

end

end Bound

/-! ## What is known -/

/-- What handles may say when their claims are to hold of the cells. -/
structure Known (setting : Setting) (cells : KeySpace)
    (good : Option BatchId → InstanceId → Prop) : Prop where
  open_ : ∀ {batch}, setting.batch? = some batch → setting.ledger.outcome batch = .undecided
  bound : ∀ {id}, good none id → HasCount cells id
  undecided : ∀ {batch id}, setting.ledger.outcome batch = .undecided → good (some batch) id →
    HasCount cells id
  applied : ∀ {batch id}, setting.ledger.outcome batch = .applied → good (some batch) id →
    good none id

/-- What handles may say once more maps were stored. -/
def grown (setting : Setting) (cells : KeySpace) (good : Option BatchId → InstanceId → Prop)
    (batch? : Option BatchId) (id : InstanceId) : Prop :=
  good batch? id ∨ batch? = setting.batch? ∧ HasCount cells id

section Known
variable {setting : Setting} {cells later : KeySpace} {good : Option BatchId → InstanceId → Prop}

theorem Known.grown (h : Known setting cells good)
    (grows : ∀ {id}, HasCount cells id → HasCount later id) :
    Known setting later (grown setting later good) where
  open_ := h.open_
  bound hg := hg.elim (fun known => grows (h.bound known)) And.right
  undecided ho hg := hg.elim (fun known => grows (h.undecided ho known)) And.right
  applied ho hg := by
    rcases hg with known | ⟨mine, _⟩
    · exact .inl (h.applied ho known)
    · rw [h.open_ mine.symm] at ho
      cases ho

theorem Known.mono (h : Known setting cells good)
    (grows : ∀ {id}, HasCount cells id → HasCount later id) : Known setting later good where
  open_ := h.open_
  bound hg := grows (h.bound hg)
  undecided ho hg := grows (h.undecided ho hg)
  applied := h.applied

theorem grown_mono (grows : ∀ {id}, HasCount cells id → HasCount later id)
    (batch? : Option BatchId) (id : InstanceId) (h : NestedStore.grown setting cells good batch? id) :
    NestedStore.grown setting later good batch? id :=
  h.imp_right fun ⟨mine, housed⟩ => ⟨mine, grows housed⟩

/-- A value whose handles tell the truth is stored as one that leads to maps with a count. -/
theorem Known.backed (h : Known setting cells good) {value : Value} (hv : value.Every good)
    {stored : StoredValue} (given : value.stored? setting.ledger = some stored) :
    Backed cells stored := by
  cases value with
  | bytes payload =>
    cases given
    exact nofun
  | map owner binding =>
    cases binding with
    | unbound staged => cases given
    | bound id =>
      cases given
      intro _ same
      cases same
      exact h.bound hv
    | pending id batch staged =>
      simp only [Value.stored?, Binding.instance?] at given
      split at given
      · cases given
      · next standing =>
        cases given
        intro _ same
        cases same
        cases ho : setting.ledger.outcome batch with
        | undecided => exact h.undecided ho hv.1
        | applied => exact h.bound (h.applied ho hv.1)
        | discarded => exact absurd ho standing

end Known

/-! ## Steps that are taken -/

/-- Instances that do not exist yet. -/
def Fresh (cells : KeySpace) (id : InstanceId) : Prop := nextNumber cells ≤ id.val.toNat

/-- The effects are steps on `own` maps, and a count is late after them only when a write of it was
refused. -/
def Behaves {α : Type} (setting : Setting) (own : InstanceId → Prop) (cells : KeySpace)
    (result : Except StoreError α) (effects : List Effect) : Prop :=
  ∃ late, Steps own cells none effects late ∧
    (late = none ∨ setting.writesFail = true ∧ ∃ error, result = .error (.storage error))

section Behaves
variable {α β : Type} {setting : Setting} {own : InstanceId → Prop} {cells : KeySpace}
  {result : Except StoreError α} {effects first later : List Effect}

theorem Steps.behaves (h : Steps own cells none effects none) :
    Behaves setting own cells result effects := ⟨none, h, .inl rfl⟩

theorem behaves_nil : Behaves setting own cells result [] := Steps.behaves (.done _ _)

theorem behaves_note {event : Event} (plain : Effect.isAllocation (.note event) = false) :
    Behaves setting own cells result [.note event] := (Steps.one (.note plain)).behaves

theorem Behaves.steps {a : α} (h : Behaves setting own cells (.ok a) effects) :
    Steps own cells none effects none := by
  obtain ⟨late, steps, rfl | ⟨_, _, failed⟩⟩ := h
  · exact steps
  · cases failed

theorem Behaves.mono {more : InstanceId → Prop} (h : Behaves setting own cells result effects)
    (wider : ∀ id, own id → more id) : Behaves setting more cells result effects := by
  obtain ⟨late, steps, outcome⟩ := h
  exact ⟨late, steps.mono wider, outcome⟩

theorem Behaves.after (h : Behaves setting own (applyAll cells first) result later)
    (before : Steps own cells none first none) :
    Behaves setting own cells result (first ++ later) := by
  obtain ⟨late, steps, outcome⟩ := h
  exact ⟨late, before.append steps, outcome⟩

theorem Behaves.error {error : StoreError} (h : Behaves setting own cells
    (.error error : Except StoreError α) effects) :
    Behaves setting own cells (.error error : Except StoreError β) effects := by
  obtain ⟨late, steps, outcome⟩ := h
  refine ⟨late, steps, outcome.imp_right ?_⟩
  intro refused
  obtain ⟨fails, storage, failed⟩ := refused
  cases failed
  exact ⟨fails, storage, rfl⟩

theorem Behaves.hasCount (h : Behaves setting own cells result effects) {id : InstanceId}
    (housed : HasCount cells id) : HasCount (applyAll cells effects) id := by
  obtain ⟨late, steps, _⟩ := h
  exact steps.hasCount housed

end Behaves

/-! ## Entries -/

/-- The count of a map is found to be raised as it should. -/
def Raised (cells : KeySpace) (id : InstanceId) (key : Bytes) : Option UInt64 → Prop
  | none => HasCount cells id ∧ (cells[Layout.entryKey id key]?).getD [] ≠ []
  | some count => (cells[Layout.entryKey id key]?).getD [] = [] ∧
    ∃ before, countOf? cells id = some before ∧ count = before + 1 ∧ before + 1 ≠ 0

section Entries
variable {setting : Setting} {own : InstanceId → Prop} {cells : KeySpace} {id : InstanceId}
  {key : Bytes} {raised? : Option UInt64} {effects : List Effect}

theorem Raised.hasCount (h : Raised cells id key raised?) : HasCount cells id := by
  cases raised? with
  | none => exact h.1
  | some count =>
    obtain ⟨_, before, counted, _⟩ := h
    rw [HasCount, counted]
    rfl

theorem Raises.finds (h : Raises setting cells id key (.ok raised?) effects) :
    Raised cells id key raised? := by
  cases h with
  | filled counted filled => exact ⟨by rw [HasCount, counted]; rfl, filled⟩
  | raised counted empty room => exact ⟨empty, _, counted, rfl, room⟩

theorem Raises.behaves {error : StoreError} (h : Raises setting cells id key (.error error) effects) :
    Behaves setting own cells (.error error : Except StoreError Unit) effects := by
  cases h with
  | unread | malformed => exact behaves_nil
  | missing | saturated => exact behaves_note rfl

theorem Raised.frame {later : KeySpace} (h : Raised cells id key raised?)
    (counts : countOf? later id = countOf? cells id)
    (entry : later[Layout.entryKey id key]? = cells[Layout.entryKey id key]?) :
    Raised later id key raised? := by
  cases raised? with
  | none => exact ⟨by rw [HasCount, counts]; exact h.1, by rw [entry]; exact h.2⟩
  | some count => exact ⟨by rw [entry]; exact h.1, by rw [counts]; exact h.2⟩

theorem Stores.behaves {value : Value} {result : Except StoreError Unit}
    (h : Stores setting id key value raised? result effects) (mine : own id)
    (raised : Raised cells id key raised?)
    (backed : ∀ {stored}, value.stored? setting.ledger = some stored → Backed cells stored) :
    Behaves setting own cells result effects := by
  have housed := raised.hasCount
  cases h with
  | unbound | refused => exact behaves_nil
  | kept given => exact (Steps.one (.replace mine housed (backed given) raised.2)).behaves
  | uncounted given fails =>
    exact ⟨_, .one (.owe mine housed (backed given) raised.1), .inr ⟨fails, _, rfl⟩⟩
  | counted given =>
    obtain ⟨empty, before, counted, rfl, room⟩ := raised
    refine Steps.behaves (.step (.owe mine housed (backed given) empty) (.one ?_))
    refine .repay mine ?_ room
    have other : Address.entry id key ≠ .count id := by
      intro same
      cases same
    rw [Effect.applyTo, countOf?_applyTo cells (BatchOp.key_putEntry ..) trivial, if_neg other]
    exact counted

/-- Setting an entry of a map takes steps on that map and on new ones, provided that binding the
value takes steps on new ones only. -/
theorem SetsEntry.behaves {good : Option BatchId → InstanceId → Prop} {owed : List InstanceId}
    {value value' : Value} {result : Except StoreError Unit}
    {binds : Except StoreError Unit → Value → List Effect → Prop}
    (hb : ∀ {result value' effects}, binds result value' effects →
      nextNumber cells + allocationsOf effects < UInt64.size →
      Behaves setting (Fresh cells) cells result effects ∧
        value'.Every (grown setting (applyAll cells effects) good))
    (hc : Consistent cells owed) (hk : Known setting cells good) (hv : value.Every good)
    (h : SetsEntry setting cells id key value binds result value' effects)
    (room : nextNumber cells + allocationsOf effects < UInt64.size) :
    Behaves setting (fun other => other = id ∨ Fresh cells other) cells result effects ∧
      value'.Every (grown setting (applyAll cells effects) good) := by
  cases h with
  | refused count => exact ⟨count.behaves, hv.imp fun _ _ known => .inl known⟩
  | valueFailed count bind =>
    obtain ⟨behaves, every⟩ := hb bind room
    exact ⟨behaves.mono fun _ fresh => .inr fresh, every⟩
  | @stored raised? _ first later _ count bind store =>
    rw [allocationsOf_append] at room
    obtain ⟨behaves, every⟩ := hb bind (by omega)
    have steps := behaves.steps
    have raised := count.finds
    have old : ¬ Fresh cells id := Nat.not_le_of_lt (hc.allocated raised.hasCount)
    obtain ⟨counts, entries⟩ := steps.frame old
    have known := hk.grown steps.hasCount
    have stores : Behaves setting (fun other => other = id ∨ Fresh cells other)
        (applyAll cells first) result later :=
      store.behaves (.inl rfl) (raised.frame counts (entries key))
        (fun given => known.backed every given)
    refine ⟨stores.after (steps.mono fun _ fresh => .inr fresh), every.imp ?_⟩
    rw [applyAll_append]
    exact grown_mono stores.hasCount

end Entries

/-! ## Maps -/

section Maps
variable {setting : Setting} {good : Option BatchId → InstanceId → Prop} {owed : List InstanceId}

theorem allocationsOf_handingOut (id : InstanceId) : allocationsOf (handingOut id) = 1 := rfl

theorem Allocates.behaves {cells : KeySpace} {error : StoreError} {effects : List Effect}
    (h : Allocates setting cells (.error error) effects)
    (room : nextNumber cells + allocationsOf effects < UInt64.size) :
    Behaves setting (Fresh cells) cells (.error error : Except StoreError InstanceId) effects := by
  cases h with
  | unread | malformed | refused => exact behaves_nil
  | @uncounted id _ next _ =>
    rw [nextNumber, next, allocationsOf_handingOut] at room
    exact Steps.behaves (.allocate next room (.done _ _))

/-- The map that is made has the next number, which nothing was known of. -/
theorem Allocates.steps {cells : KeySpace} {id : InstanceId} {effects : List Effect}
    (hc : Consistent cells owed) (h : Allocates setting cells (.ok id) effects)
    (room : nextNumber cells + allocationsOf effects < UInt64.size) :
    Steps (Fresh cells) cells none effects none ∧ Fresh cells id ∧
      HasCount (applyAll cells effects) id := by
  cases h with
  | made next =>
    have number : nextNumber cells = id.val.toNat := by rw [nextNumber, next]; rfl
    rw [allocationsOf_append, allocationsOf_handingOut, number] at room
    have fresh : Fresh cells id := Nat.le_of_eq number
    have counting := Consistent.nextNumber_handOut cells (show id.val.toNat + 1 < _ by omega)
    have unhoused : ¬ HasCount ((BatchOp.handOut id).applyTo cells) id := by
      rw [HasCount, countOf?_handOut]
      intro housed
      have below := hc.allocated housed
      omega
    have house : Step (Fresh cells) ((BatchOp.handOut id).applyTo cells) none
        (.write (.putCount id 0)) none := .house fresh (by omega) unhoused
    refine ⟨.allocate next (by omega) (.one house), fresh, ?_⟩
    have housed : countOf? ((BatchOp.putCount id 0).applyTo ((BatchOp.handOut id).applyTo cells)) id =
        _ := countOf?_applyTo _ (BatchOp.key_putCount id 0) trivial id
    rw [if_pos rfl] at housed
    exact Option.isSome_iff_exists.mpr ⟨0, housed.trans (Counter.decode?_encode 0)⟩

/-- Binding an unbound handle takes steps on new maps, provided that writing its entries does but for
the map itself. -/
theorem BindsStaged.behaves {cells : KeySpace} {staged : Staged} {binding' : Binding}
    {result : Except StoreError InstanceId} {effects : List Effect}
    {writes : InstanceId → KeySpace → Except StoreError Unit → Staged → List Effect → Prop}
    (hw : ∀ {id cells result staged' effects}, writes id cells result staged' effects →
      Consistent cells owed → Known setting cells good →
      nextNumber cells + allocationsOf effects < UInt64.size →
      Behaves setting (fun other => other = id ∨ Fresh cells other) cells result effects ∧
        staged'.Every (grown setting (applyAll cells effects) good))
    (hc : Consistent cells owed) (hk : Known setting cells good) (hs : staged.Every good)
    (h : BindsStaged setting cells staged writes result binding' effects)
    (room : nextNumber cells + allocationsOf effects < UInt64.size) :
    Behaves setting (Fresh cells) cells result effects ∧
      binding'.Every (grown setting (applyAll cells effects) good) := by
  have written {id : InstanceId} {first later : List Effect} {result : Except StoreError Unit}
      {staged' : Staged} (allocate : Allocates setting cells (.ok id) first)
      (write : writes id (applyAll cells first) result staged' later)
      (room : nextNumber cells + allocationsOf (first ++ later) < UInt64.size) :
      Behaves setting (Fresh cells) cells result (first ++ later) ∧
        staged'.Every (grown setting (applyAll cells (first ++ later)) good) ∧
          HasCount (applyAll cells (first ++ later)) id := by
    rw [allocationsOf_append] at room
    obtain ⟨steps, fresh, housed⟩ := allocate.steps hc (by omega)
    obtain ⟨grows, within⟩ := steps.nextNumber_le
    obtain ⟨behaves, every⟩ := hw write (steps.consistent hc) (hk.mono steps.hasCount) (by omega)
    rw [applyAll_append]
    refine ⟨(behaves.mono ?_).after steps, every, behaves.hasCount housed⟩
    intro other owned
    rcases owned with rfl | later
    · exact fresh
    · exact Nat.le_trans grows later
  cases h with
  | unallocated allocate => exact ⟨allocate.behaves room, hs.imp fun _ _ known => .inl known⟩
  | incomplete allocate write =>
    obtain ⟨behaves, every, _⟩ := written allocate write room
    exact ⟨behaves.error, every⟩
  | @bound id staged' first later allocate write =>
    rw [allocationsOf_append] at room
    obtain ⟨behaves, every, housed⟩ := written allocate write room
    have noted : Behaves setting (Fresh cells) (applyAll cells (first ++ later))
        (.ok id : Except StoreError InstanceId) [.note (.bound id staged'.length)] :=
      behaves_note rfl
    refine ⟨noted.after behaves.steps, ?_⟩
    rw [applyAll_append, applyAll_note, applyAll_nil, Setting.bound]
    split
    · next batch mine => exact ⟨.inr ⟨mine.symm, housed⟩, every⟩
    · next mine => exact .inr ⟨mine.symm, housed⟩

mutual

/-- **Binding a value takes steps on new maps only.** -/
theorem Value.Binds.behaves : ∀ {value : Value} {cells : KeySpace} {value' : Value}
    {result : Except StoreError Unit} {effects : List Effect},
    value.Binds setting cells result value' effects → Consistent cells owed →
    Known setting cells good → value.Every good →
    nextNumber cells + allocationsOf effects < UInt64.size →
    Behaves setting (Fresh cells) cells result effects ∧
      value'.Every (grown setting (applyAll cells effects) good)
  | .bytes payload, cells, _, _, _, h, _, _, _, _ => by
    obtain ⟨rfl, rfl, rfl⟩ := h
    exact ⟨behaves_nil, trivial⟩
  | .map owner binding, cells, _, _, _, h, hc, hk, hv, room => by
    obtain ⟨result', binding', bind, rfl, rfl⟩ := h
    obtain ⟨behaves, every⟩ := Binding.Binds.behaves bind hc hk hv room
    refine ⟨?_, every⟩
    cases result' with
    | ok id => exact behaves.steps.behaves
    | error error => exact behaves.error

theorem Binding.Binds.behaves : ∀ {binding : Binding} {cells : KeySpace} {binding' : Binding}
    {result : Except StoreError InstanceId} {effects : List Effect},
    binding.Binds setting cells result binding' effects → Consistent cells owed →
    Known setting cells good → binding.Every good →
    nextNumber cells + allocationsOf effects < UInt64.size →
    Behaves setting (Fresh cells) cells result effects ∧
      binding'.Every (grown setting (applyAll cells effects) good)
  | .bound id, cells, _, _, _, h, _, _, hv, _ => by
    obtain ⟨rfl, rfl, rfl⟩ := h
    exact ⟨behaves_nil, .inl hv⟩
  | .unbound staged, cells, _, _, _, h, hc, hk, hv, room =>
    BindsStaged.behaves (fun write hc hk room => Staged.Writes.behaves write hc hk hv room)
      hc hk hv h room
  | .pending id batch staged, cells, _, _, _, h, hc, hk, hv, room => by
    unfold Binding.Binds at h
    split at h
    · obtain ⟨rfl, rfl, rfl⟩ := h
      exact ⟨behaves_nil, Binding.Every.imp (fun _ _ known => .inl known) hv⟩
    · next applied =>
      obtain ⟨rfl, rfl, rfl⟩ := h
      exact ⟨behaves_nil, .inl (hk.applied applied hv.1)⟩
    · obtain ⟨later, rfl, h⟩ := h
      rw [← List.singleton_append, allocationsOf_append] at room
      obtain ⟨behaves, every⟩ :=
        BindsStaged.behaves (fun write hc hk room => Staged.Writes.behaves write hc hk hv.2 room)
          hc hk hv.2 h (by omega)
      have noted : Steps (Fresh cells) cells none [.note (.unboundAgain id)] none :=
        .one (.note rfl)
      exact ⟨behaves.after noted, every⟩

theorem Staged.Writes.behaves : ∀ {staged : Staged} {id : InstanceId} {cells : KeySpace}
    {staged' : Staged} {result : Except StoreError Unit} {effects : List Effect},
    staged.Writes setting id cells result staged' effects → Consistent cells owed →
    Known setting cells good → staged.Every good →
    nextNumber cells + allocationsOf effects < UInt64.size →
    Behaves setting (fun other => other = id ∨ Fresh cells other) cells result effects ∧
      staged'.Every (grown setting (applyAll cells effects) good)
  | .nil, id, cells, _, _, _, h, _, _, _, _ => by
    obtain ⟨rfl, rfl, rfl⟩ := h
    exact ⟨behaves_nil, trivial⟩
  | .cons key value rest, id, cells, _, _, _, h, hc, hk, hv, room => by
    have binds {result : Except StoreError Unit} {value' : Value} {effects : List Effect}
        (bind : value.Binds setting cells result value' effects)
        (room : nextNumber cells + allocationsOf effects < UInt64.size) :=
      Value.Binds.behaves bind hc hk hv.1 room
    rcases h with ⟨error, value', set, rfl, rfl⟩ | ⟨value', first, rest', later, set, write, rfl, rfl⟩
    · obtain ⟨behaves, every⟩ := set.behaves binds hc hk hv.1 room
      exact ⟨behaves, every, hv.2.imp fun _ _ known => .inl known⟩
    · rw [allocationsOf_append] at room
      obtain ⟨behaves, every⟩ := set.behaves binds hc hk hv.1 (by omega)
      have steps := behaves.steps
      obtain ⟨grows, within⟩ := steps.nextNumber_le
      obtain ⟨more, others⟩ := Staged.Writes.behaves write (steps.consistent hc)
        (hk.mono steps.hasCount) hv.2 (by omega)
      rw [applyAll_append]
      refine ⟨(more.mono ?_).after steps, every.imp (grown_mono more.hasCount), others⟩
      intro other owned
      rcases owned with same | fresh
      · exact .inl same
      · exact .inr (Nat.le_trans grows fresh)

end

end Maps

/-! ## Items and handles -/

section Items
variable {setting : Setting} {good : Option BatchId → InstanceId → Prop} {owed : List InstanceId}
  {cells : KeySpace}

/-- **Putting an item** takes steps, and what it leaves behind of handles tells the truth. -/
theorem PutsItem.behaves {table : Table} {key : Bytes} {value value' : Value}
    {result : Except StoreError Unit} {effects : List Effect}
    (h : PutsItem setting cells table key value result value' effects)
    (hc : Consistent cells owed) (hk : Known setting cells good) (hv : value.Every good)
    (room : nextNumber cells + allocationsOf effects < UInt64.size) :
    Behaves setting (Fresh cells) cells result effects ∧
      value'.Every (grown setting (applyAll cells effects) good) := by
  cases h with
  | failed bind => exact bind.behaves hc hk hv room
  | unbound bind absent =>
    obtain ⟨behaves, every⟩ := bind.behaves hc hk hv room
    exact ⟨behaves.steps.behaves, every⟩
  | refused bind fails =>
    obtain ⟨behaves, every⟩ := bind.behaves hc hk hv room
    exact ⟨behaves.steps.behaves, every⟩
  | @stored stored _ effects bind given =>
    rw [allocationsOf_append] at room
    obtain ⟨behaves, every⟩ := bind.behaves hc hk hv room
    have known := hk.grown behaves.hasCount
    have item : Step (Fresh cells) (applyAll cells effects) none
        (.write (.put (table.itemKey key) stored.encode)) none := by
      refine .item table.noSeparator rfl ?_
      intro _ same
      cases same
      exact ⟨stored, stored.decode_encode, known.backed every given⟩
    have whole := Steps.one item
    refine ⟨(behaves.steps.append whole).behaves, every.imp ?_⟩
    rw [applyAll_append]
    exact grown_mono whole.hasCount

theorem DeletesItem.steps {table : Table} {key : Bytes} {result : Except StoreError Unit}
    {effects : List Effect} (h : DeletesItem setting table key result effects) :
    Steps (Fresh cells) cells none effects none := by
  cases h with
  | refused fails => exact .done _ _
  | deleted => exact .one (.item table.noSeparator rfl nofun)

/-- **Setting an item of a map** takes steps, and what it leaves behind of handles tells the
truth. -/
theorem SetsItem.behaves {map map' : MapHandle} {key : Bytes} {value value' : Value}
    {result : Except StoreError Unit} {effects : List Effect}
    (h : SetsItem setting cells map key value result map' value' effects)
    (hc : Consistent cells owed) (hk : Known setting cells good) (hm : map.binding.Every good)
    (hv : value.Every good) (room : nextNumber cells + allocationsOf effects < UInt64.size) :
    (∃ own, Behaves setting own cells result effects) ∧
      map'.binding.Every (grown setting (applyAll cells effects) good) ∧
        value'.Every (grown setting (applyAll cells effects) good) := by
  cases h with
  | unbound bind =>
    obtain ⟨behaves, every⟩ := bind.behaves hc hk hm room
    exact ⟨⟨_, behaves.error⟩, every, hv.imp fun _ _ known => .inl known⟩
  | @set id binding first later _ _ bind entry =>
    rw [allocationsOf_append] at room
    obtain ⟨behaves, bound⟩ := bind.behaves hc hk hm (by omega)
    have steps := behaves.steps
    obtain ⟨grows, within⟩ := steps.nextNumber_le
    have consistent := steps.consistent hc
    have known := hk.mono steps.hasCount
    obtain ⟨more, every⟩ := entry.behaves
      (fun bind room => bind.behaves consistent known hv room) consistent known hv (by omega)
    rw [applyAll_append]
    refine ⟨⟨fun _ => True, ?_⟩, bound.imp (grown_mono more.hasCount), every⟩
    exact (more.mono fun _ _ => trivial).after (steps.mono fun _ _ => trivial)

end Items

end NestedStore
