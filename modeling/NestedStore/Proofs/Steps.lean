import NestedStore.Proofs.Integrity

/-! # Steps of an operation

An operation changes the cells write by write. Between two of its writes at most one count is late,
that of the entry written last (`Step`), and an operation is a series of them (`Steps`). Every step
keeps the cells consistent, so they are consistent at every point of an operation, save for that one count
(`Steps.during`). An operation leaves the maps alone that are not its `own`. -/
namespace NestedStore

variable {own : InstanceId → Prop} {cells : KeySpace} {late late' late'' : Option InstanceId}
  {owed : List InstanceId} {effect : Effect} {effects first later : List Effect}

/-- One step: the map whose count is late before it, the effect, and the map whose count is late
after it. -/
inductive Step (own : InstanceId → Prop) (cells : KeySpace) :
    Option InstanceId → Effect → Option InstanceId → Prop
  | note {event : Event} (plain : Effect.isAllocation (.note event) = false) :
      Step own cells none (.note event) none
  | house {id : InstanceId} (mine : own id) (handedOut : id.val.toNat < nextNumber cells)
      (unhoused : ¬ HasCount cells id) :
      Step own cells none (.write (.putCount id 0)) none
  | item {op : BatchOp} {tablePrefix key : Bytes} (hp : Layout.separator ∉ tablePrefix)
      (hk : op.key = (Address.item tablePrefix key).key)
      (fits : ∀ value, op.value? = some value →
        ∃ stored, StoredValue.decode value = .ok (some stored) ∧ Backed cells stored) :
      Step own cells none (.write op) none
  | replace {id : InstanceId} {key : Bytes} {stored : StoredValue} (mine : own id)
      (housed : HasCount cells id) (backed : Backed cells stored)
      (filled : (cells[Layout.entryKey id key]?).getD [] ≠ []) :
      Step own cells none (.write (.putEntry id key stored)) none
  | owe {id : InstanceId} {key : Bytes} {stored : StoredValue} (mine : own id)
      (housed : HasCount cells id) (backed : Backed cells stored)
      (empty : (cells[Layout.entryKey id key]?).getD [] = []) :
      Step own cells none (.write (.putEntry id key stored)) (some id)
  | repay {id : InstanceId} {count : UInt64} (mine : own id)
      (counted : countOf? cells id = some count) (room : count + 1 ≠ 0) :
      Step own cells (some id) (.write (.putCount id (count + 1))) none

/-- Steps in a row, and instances handed out between them. -/
inductive Steps (own : InstanceId → Prop) :
    KeySpace → Option InstanceId → List Effect → Option InstanceId → Prop
  | done (cells : KeySpace) (late : Option InstanceId) : Steps own cells late [] late
  | step {cells : KeySpace} {effect : Effect} {effects : List Effect}
      {late late' late'' : Option InstanceId} (step : Step own cells late effect late')
      (rest : Steps own (effect.applyTo cells) late' effects late'') :
      Steps own cells late (effect :: effects) late''
  | allocate {cells : KeySpace} {id : InstanceId} {effects : List Effect}
      {late : Option InstanceId} (next : nextId? cells = some id)
      (room : id.val.toNat + 1 < UInt64.size)
      (rest : Steps own ((BatchOp.handOut id).applyTo cells) none effects late) :
      Steps own cells none (handingOut id ++ effects) late

/-! ## One step -/

namespace Step

theorem toNat_succ {count : UInt64} (room : count + 1 ≠ 0) :
    (count + 1).toNat = count.toNat + 1 := by
  have bound := count.toNat_lt
  rw [UInt64.toNat_add, UInt64.toNat_one]
  refine Nat.mod_eq_of_lt ?_
  have full : count.toNat ≠ 2 ^ 64 - 1 := by
    intro full
    apply room
    apply UInt64.toNat_inj.mp
    rw [UInt64.toNat_add, full]
    rfl
  omega

/-- A step keeps the cells consistent, but for the count that is late after it. -/
theorem consistent (h : Step own cells late effect late')
    (hc : Consistent cells (late.toList ++ owed)) :
    Consistent (effect.applyTo cells) (late'.toList ++ owed) := by
  cases h with
  | note plain => exact hc
  | @house id mine handedOut unhoused =>
    have unlived : entryCount cells id = 0 := Decidable.byContradiction fun lived =>
      unhoused (hc.housed lived)
    refine hc.recount handedOut ?_ (fun _ _ => rfl)
    have counted := hc.counted id
    rw [unlived] at counted ⊢
    rw [UInt64.toNat_zero]
    omega
  | item hp hk fits => exact hc.item hp hk fits
  | @replace id key stored mine housed backed filled =>
    have written := hc.entry key housed backed
    rwa [if_neg filled] at written
  | @owe id key stored mine housed backed empty =>
    have written := hc.entry key housed backed
    rwa [if_pos empty] at written
  | @repay id count mine counted room =>
    have right := hc.counted id
    have housed : HasCount cells id := by rw [HasCount, counted]; rfl
    refine hc.recount (hc.allocated housed) ?_ ?_
    · rw [countNumber, counted] at right
      rw [right, toNat_succ room]
      simp
      omega
    · intro other differ
      simp [Ne.symm differ]

/-- Where a step writes: items, and cells of the maps that are its own. -/
theorem writes {op : BatchOp} (h : Step own cells late (.write op) late') :
    ∃ address : Address, address.Valid ∧ op.key = address.key ∧ address ≠ .allocator ∧
      (∀ id, address = .count id → own id ∧ ∃ count, op.value? = some (Counter.encode count)) ∧
      ∀ id key, address = .entry id key → own id := by
  cases h with
  | house mine _ _ =>
    refine ⟨.count _, trivial, rfl, nofun, ?_, nofun⟩
    intro _ same
    cases same
    exact ⟨mine, _, rfl⟩
  | item hp hk _ => exact ⟨.item _ _, hp, hk, nofun, nofun, nofun⟩
  | replace mine _ _ _ =>
    refine ⟨.entry _ _, trivial, rfl, nofun, nofun, ?_⟩
    intro _ _ same
    cases same
    exact mine
  | owe mine _ _ _ =>
    refine ⟨.entry _ _, trivial, rfl, nofun, nofun, ?_⟩
    intro _ _ same
    cases same
    exact mine
  | repay mine _ _ =>
    refine ⟨.count _, trivial, rfl, nofun, ?_, nofun⟩
    intro _ same
    cases same
    exact ⟨mine, _, rfl⟩

/-- A map with a count keeps one. -/
theorem hasCount (h : Step own cells late effect late') {id : InstanceId}
    (housed : HasCount cells id) : HasCount (effect.applyTo cells) id := by
  cases effect with
  | note event => exact housed
  | write op =>
    obtain ⟨address, valid, hk, _, counts, _⟩ := h.writes
    rw [HasCount, Effect.applyTo, countOf?_applyTo cells hk valid]
    split
    · next same =>
      obtain ⟨_, count, given⟩ := counts id same
      simp [given]
    · exact housed

/-- Maps of others are left alone. -/
theorem frame (h : Step own cells late effect late') {id : InstanceId} (other : ¬ own id) :
    countOf? (effect.applyTo cells) id = countOf? cells id ∧
      ∀ key, (effect.applyTo cells)[Layout.entryKey id key]? = cells[Layout.entryKey id key]? := by
  cases effect with
  | note event => exact ⟨rfl, fun _ => rfl⟩
  | write op =>
    obtain ⟨address, valid, hk, _, counts, entries⟩ := h.writes
    refine ⟨?_, fun key => ?_⟩
    · rw [Effect.applyTo, countOf?_applyTo cells hk valid, if_neg]
      exact fun same => other (counts id same).1
    · have cell : (op.applyTo cells)[Layout.entryKey id key]? = _ :=
        getElem?_applyTo cells hk valid (.entry id key) trivial
      rw [Effect.applyTo, cell, if_neg]
      · rfl
      · exact fun same => other (entries id key same)

theorem nextNumber_eq (h : Step own cells late effect late') :
    nextNumber (effect.applyTo cells) = nextNumber cells := by
  cases effect with
  | note event => rfl
  | write op =>
    obtain ⟨address, valid, hk, elsewhere, _, _⟩ := h.writes
    rw [nextNumber, Effect.applyTo, nextId?_applyTo cells hk valid elsewhere, nextNumber]

end Step

/-! ## Many steps -/

theorem countOf?_handOut (cells : KeySpace) (id other : InstanceId) :
    countOf? ((BatchOp.handOut id).applyTo cells) other = countOf? cells other := by
  rw [countOf?_applyTo cells (BatchOp.key_handOut id) trivial, if_neg nofun]

theorem getElem?_handOut (cells : KeySpace) (id other : InstanceId) (key : Bytes) :
    ((BatchOp.handOut id).applyTo cells)[Layout.entryKey other key]? =
      cells[Layout.entryKey other key]? := by
  have cell : ((BatchOp.handOut id).applyTo cells)[Layout.entryKey other key]? = _ :=
    getElem?_applyTo cells (BatchOp.key_handOut id) trivial (.entry other key) trivial
  rw [cell, if_neg nofun]
  rfl

/-- Nothing is kept for an instance, neither a count nor an entry. -/
def Unused (cells : KeySpace) (id : InstanceId) : Prop :=
  cells[Layout.countKey id]? = none ∧ ∀ key, cells[Layout.entryKey id key]? = none

/-- A map without a count has no entries either. -/
theorem Consistent.unused (hc : Consistent cells owed) {id : InstanceId}
    (unhoused : ¬ HasCount cells id) : Unused cells id := by
  refine ⟨?_, fun key => ?_⟩
  · cases present : cells[Layout.countKey id]? with
    | none => rfl
    | some value =>
      have readable : (Counter.decode? value).isSome = true :=
        hc.readable_key (.count id) trivial present
      refine absurd ?_ unhoused
      rw [HasCount, countOf?, present]
      exact readable
  · cases present : cells[Layout.entryKey id key]? with
    | none => rfl
    | some value =>
      obtain ⟨stored, decoded, _⟩ : ∃ stored, StoredValue.decode value = .ok (some stored) ∧ _ :=
        hc.readable_key (.entry id key) trivial present
      have nonempty : value ≠ [] := by
        rintro rfl
        cases decoded
      have whole := @entryCount_applyTo cells (.delete (Layout.entryKey id key)) (.entry id key)
        rfl trivial id
      have here : cells[(Address.entry id key).key]? = some value := present
      rw [here] at whole
      refine absurd (hc.housed ?_) unhoused
      simp [entryShare, Address.owner?, nonempty, BatchOp.value?] at whole
      omega

namespace Steps

theorem append (h : Steps own cells late first late')
    (rest : Steps own (applyAll cells first) late' later late'') :
    Steps own cells late (first ++ later) late'' := by
  induction h with
  | done => exact rest
  | step step _ ih => exact .step step (ih rest)
  | allocate next room _ ih => exact .allocate next room (ih rest)

theorem one (h : Step own cells late effect late') : Steps own cells late [effect] late' :=
  .step h (.done _ _)

/-- Steps on some maps are steps on more. -/
theorem mono {more : InstanceId → Prop} (h : Steps own cells late effects late')
    (wider : ∀ id, own id → more id) : Steps more cells late effects late' := by
  induction h with
  | done cells late => exact .done cells late
  | allocate next room _ ih => exact .allocate next room ih
  | step step _ ih =>
    refine .step ?_ ih
    cases step with
    | note plain => exact .note plain
    | house mine handedOut unhoused => exact .house (wider _ mine) handedOut unhoused
    | item hp hk fits => exact .item hp hk fits
    | replace mine housed backed filled => exact .replace (wider _ mine) housed backed filled
    | owe mine housed backed empty => exact .owe (wider _ mine) housed backed empty
    | repay mine counted room => exact .repay (wider _ mine) counted room

/-- **The cells are consistent at every point of an operation**, but for one count that may be late. -/
theorem during (h : Steps own cells late effects late')
    (hc : Consistent cells (late.toList ++ owed)) (split : effects = first ++ later) :
    ∃ mid : Option InstanceId, Consistent (applyAll cells first) (mid.toList ++ owed) := by
  induction h generalizing first with
  | done cells late =>
    obtain ⟨rfl, rfl⟩ := List.append_eq_nil_iff.mp split.symm
    exact ⟨late, hc⟩
  | step step _ ih =>
    cases first with
    | nil => exact ⟨_, hc⟩
    | cons effect first =>
      cases split
      exact ih (step.consistent hc) rfl
  | @allocate cells id effects _ next room _ ih =>
    have written := hc.allocate next room
    match first with
    | [] => exact ⟨_, hc⟩
    | [effect] =>
      cases split
      exact ⟨none, written⟩
    | effect :: noted :: first =>
      have tails : effects = first ++ later := (List.cons.inj (List.cons.inj split).2).2
      have same : applyAll cells (effect :: noted :: first) =
          applyAll ((BatchOp.handOut id).applyTo cells) first := by
        rw [← (List.cons.inj split).1, ← (List.cons.inj (List.cons.inj split).2).1]
        rfl
      rw [same]
      exact ih written tails

/-- At the end the cells are consistent, but for the count that is late then. -/
theorem consistent (h : Steps own cells late effects late')
    (hc : Consistent cells (late.toList ++ owed)) :
    Consistent (applyAll cells effects) (late'.toList ++ owed) := by
  induction h with
  | done => exact hc
  | step step _ ih => exact ih (step.consistent hc)
  | allocate next room _ ih => exact ih (hc.allocate next room)

theorem hasCount (h : Steps own cells late effects late') {id : InstanceId}
    (housed : HasCount cells id) : HasCount (applyAll cells effects) id := by
  induction h with
  | done => exact housed
  | step step _ ih => exact ih (step.hasCount housed)
  | allocate _ _ _ ih =>
    refine ih ?_
    rwa [HasCount, countOf?_handOut]

/-- Maps of others are left alone. -/
theorem frame (h : Steps own cells late effects late') {id : InstanceId} (other : ¬ own id) :
    countOf? (applyAll cells effects) id = countOf? cells id ∧
      ∀ key, (applyAll cells effects)[Layout.entryKey id key]? =
        cells[Layout.entryKey id key]? := by
  induction h with
  | done => exact ⟨rfl, fun _ => rfl⟩
  | step step _ ih =>
    obtain ⟨counts, entries⟩ := step.frame other
    exact ⟨ih.1.trans counts, fun key => (ih.2 key).trans (entries key)⟩
  | @allocate cells handedOut _ _ _ _ _ ih =>
    refine ⟨ih.1.trans (countOf?_handOut cells handedOut id), fun key => ?_⟩
    exact (ih.2 key).trans (getElem?_handOut cells handedOut id key)

/-- The next number grows by what is handed out at most, and never falls. -/
theorem nextNumber_le (h : Steps own cells late effects late') :
    nextNumber cells ≤ nextNumber (applyAll cells effects) ∧
      nextNumber (applyAll cells effects) ≤ nextNumber cells + allocationsOf effects := by
  induction h with
  | done => exact ⟨Nat.le_refl _, Nat.le_refl _⟩
  | @step cells effect effects _ _ _ step _ ih =>
    rw [step.nextNumber_eq] at ih
    have more : allocationsOf effects ≤ allocationsOf (effect :: effects) :=
      (List.sublist_cons_self effect effects).countP_le
    exact ⟨ih.1, Nat.le_trans ih.2 (Nat.add_le_add_left more _)⟩
  | @allocate cells id effects _ next room _ ih =>
    rw [Consistent.nextNumber_handOut cells room] at ih
    have one : allocationsOf (handingOut id ++ effects) = allocationsOf effects + 1 := by
      rw [allocationsOf_append, Nat.add_comm]
      rfl
    have number : nextNumber cells = id.val.toNat := by rw [nextNumber, next]; rfl
    have same : applyAll cells (handingOut id ++ effects) =
        applyAll ((BatchOp.handOut id).applyTo cells) effects := rfl
    rw [one, number, same]
    omega

/-- What is handed out counts up from the next number. -/
theorem ascending (h : Steps own cells late effects late') :
    (allocatedIn effects).Pairwise (fun id other => id.val < other.val) ∧
      ∀ id ∈ allocatedIn effects, nextNumber cells ≤ id.val.toNat ∧
        id.val.toNat < nextNumber (applyAll cells effects) := by
  induction h with
  | done => exact ⟨.nil, nofun⟩
  | @step cells effect effects _ _ _ step _ ih =>
    have plain : allocatedIn (effect :: effects) = allocatedIn effects := by
      cases step with
      | @note event plain => cases event <;> first | rfl | cases plain
      | _ => rfl
    rw [step.nextNumber_eq] at ih
    rw [plain]
    exact ih
  | @allocate cells id effects _ next room rest ih =>
    rw [Consistent.nextNumber_handOut cells room] at ih
    have number : nextNumber cells = id.val.toNat := by rw [nextNumber, next]; rfl
    have grows := rest.nextNumber_le.1
    rw [Consistent.nextNumber_handOut cells room] at grows
    have handed : allocatedIn (handingOut id ++ effects) = id :: allocatedIn effects := rfl
    have after : applyAll cells (handingOut id ++ effects) =
        applyAll ((BatchOp.handOut id).applyTo cells) effects := rfl
    rw [handed, after, number]
    refine ⟨List.pairwise_cons.mpr ⟨?_, ih.1⟩, ?_⟩
    · intro other member
      have above := (ih.2 other member).1
      exact UInt64.lt_iff_toNat_lt.mpr above
    · intro other member
      rcases List.mem_cons.mp member with rfl | member
      · exact ⟨Nat.le_refl _, grows⟩
      · obtain ⟨above, below⟩ := ih.2 other member
        exact ⟨Nat.le_of_succ_le above, below⟩

/-- Nothing is kept for an instance at the moment when it is handed out. -/
theorem unused (h : Steps own cells late effects late')
    (hc : Consistent cells (late.toList ++ owed)) {id : InstanceId}
    (split : effects = first ++ .note (.allocated id) :: later) :
    Unused (applyAll cells first) id := by
  induction h generalizing first with
  | done => exact absurd split.symm (List.append_ne_nil_of_right_ne_nil _ (List.cons_ne_nil _ _))
  | step step _ ih =>
    cases first with
    | nil =>
      cases split
      cases step with
      | note plain => cases plain
    | cons effect first =>
      cases split
      exact ih (step.consistent hc) rfl
  | @allocate cells handedOut effects _ next room _ ih =>
    have written := hc.allocate next room
    have number : nextNumber cells = handedOut.val.toNat := by rw [nextNumber, next]; rfl
    cases first with
    | nil => cases split
    | cons effect first =>
      cases first with
      | nil =>
        cases split
        -- Only the allocator cell has been written since the cells were consistent.
        obtain ⟨count, entries⟩ := hc.unused fun housed =>
          absurd (hc.allocated housed) (Nat.not_lt_of_le (Nat.le_of_eq number))
        have cell : ((BatchOp.handOut id).applyTo cells)[Layout.countKey id]? = _ :=
          getElem?_applyTo cells (BatchOp.key_handOut id) trivial (.count id) trivial
        have apart : ¬ Address.allocator = .count id := by rintro ⟨⟩
        refine ⟨cell.trans ((if_neg apart).trans count), fun key => ?_⟩
        exact (getElem?_handOut cells id id key).trans (entries key)
      | cons noted first =>
        have tails : effects = first ++ .note (.allocated id) :: later :=
          (List.cons.inj (List.cons.inj split).2).2
        have same : applyAll cells (effect :: noted :: first) =
            applyAll ((BatchOp.handOut handedOut).applyTo cells) first := by
          rw [← (List.cons.inj split).1, ← (List.cons.inj (List.cons.inj split).2).1]
          rfl
        rw [same]
        exact ih written tails

end Steps

end NestedStore
