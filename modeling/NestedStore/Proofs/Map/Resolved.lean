import NestedStore.Proofs.Map.Agreement
import NestedStore.Proofs.Map.Binding
import NestedStore.Proofs.Store
import NestedStore.Proofs.Surface.Lockstep

/-! # What is left of a handle once its batches are decided

A handle that was bound inside a batch is what the decision on the batch made of it, and so are the
handles among the entries staged in it (`Value.resolved`). Only the number of a batch that is still
open is lost with that. Handles that resolve to the same are bound in lockstep, whichever calls of
the surface fail (`Value.bind_lockstep`), and one that was bound inside a batch resolves to what it
was before, once the batch is discarded (`Value.Binds.resolved_discarded`). -/
namespace NestedStore

mutual

/-- The value, its handles being what decided batches made of them. -/
def Value.resolved (ledger : Ledger) : Value → Value
  | .bytes payload => .bytes payload
  | .map owner binding => .map owner (binding.resolved ledger)

/-- The binding, as decided batches have it; open batches are not told apart. -/
def Binding.resolved (ledger : Ledger) : Binding → Binding
  | .unbound staged => .unbound (staged.resolved ledger)
  | .bound id => .bound id
  | .pending id batch staged =>
    match ledger.outcome batch with
    | .undecided => .pending id 0 (staged.resolved ledger)
    | .applied => .bound id
    | .discarded => .unbound (staged.resolved ledger)

/-- The staged entries, with their values resolved. -/
def Staged.resolved (ledger : Ledger) : Staged → Staged
  | .nil => .nil
  | .cons key value rest => .cons key (value.resolved ledger) (rest.resolved ledger)

end

/-- The handle, as decided batches have it. -/
def MapHandle.resolved (ledger : Ledger) (map : MapHandle) : MapHandle :=
  ⟨map.owner, map.binding.resolved ledger⟩

/-! ## What is seen of it -/

section Seen
variable {here there : Ledger}

mutual

theorem Value.seen_resolved : ∀ value : Value,
    (value.resolved here).seen .empty = value.seen here
  | .bytes _ => rfl
  | .map owner binding => congrArg (Value.map owner) binding.seen_resolved

theorem Binding.seen_resolved : ∀ binding : Binding,
    (binding.resolved here).seen .empty = binding.seen here
  | .unbound staged => congrArg Binding.unbound staged.seen_resolved
  | .bound id => rfl
  | .pending id batch staged => by
    have entries := staged.seen_resolved
    cases decided : here.outcome batch with
    | undecided =>
      have opened : Ledger.empty.outcome 0 = .undecided := rfl
      simp [Binding.resolved, Binding.seen, decided, opened]
    | applied => simp [Binding.resolved, Binding.seen, decided]
    | discarded => simp [Binding.resolved, Binding.seen, decided, entries]

theorem Staged.seen_resolved : ∀ staged : Staged,
    (staged.resolved here).seen .empty = staged.seen here
  | .nil => rfl
  | .cons key value rest => by
    rw [Staged.resolved, Staged.seen, value.seen_resolved, rest.seen_resolved, Staged.seen]

end

theorem Value.seen_eq_of_resolved {value value' : Value}
    (same : value.resolved here = value'.resolved there) : value.seen here = value'.seen there := by
  rw [← value.seen_resolved, same, value'.seen_resolved]

theorem Value.encode_eq_of_resolved {value value' : Value}
    (same : value.resolved here = value'.resolved there) :
    value.encode here = value'.encode there := by
  rw [Value.encode, Value.encode, Value.stored?_eq_of_seen (Value.seen_eq_of_resolved same)]

theorem Staged.length_resolved (staged : Staged) :
    (staged.resolved here).length = staged.length := by
  match staged with
  | .nil => rfl
  | .cons _ _ rest => exact congrArg (· + 1) rest.length_resolved

theorem Staged.resolved_insert (key : Bytes) (value : Value) (staged : Staged) :
    (staged.insert key value).resolved here =
      (staged.resolved here).insert key (value.resolved here) := by
  match staged with
  | .nil => rfl
  | .cons other present rest =>
    have ih := rest.resolved_insert key value
    cases order : compare key other <;> simp [Staged.insert, Staged.resolved, order, ih]

theorem Value.resolved_ofStored (owner : DatabaseId) (stored : StoredValue) :
    (Value.ofStored owner stored).resolved here = .ofStored owner stored := by
  cases stored <;> rfl

theorem Value.asMap?_resolved (value : Value) :
    (value.resolved here).asMap? = value.asMap?.map (MapHandle.resolved here) := by
  cases value <;> rfl

/-- Staging needs no more than what a handle resolves to. -/
theorem MapHandle.staging_resolved (key : Bytes) (value : Value) (map : MapHandle) :
    (map.resolved here).staging .empty key (value.resolved here) =
      ((map.staging here key value).1, (map.staging here key value).2.resolved here) := by
  obtain ⟨owner, binding⟩ := map
  have opened : Ledger.empty.outcome 0 = .undecided := rfl
  unfold MapHandle.staging MapHandle.resolved
  cases binding with
  | unbound staged =>
    dsimp only [Binding.resolved, Binding.settled]
    rw [staged.resolved_insert]
  | bound id => rfl
  | pending id batch staged =>
    dsimp only [Binding.resolved, Binding.settled]
    cases decided : here.outcome batch with
    | undecided => simp [Binding.resolved, decided, opened]
    | applied => rfl
    | discarded =>
      dsimp only [Binding.resolved, Binding.settled]
      rw [staged.resolved_insert]

end Seen

/-! ## Ledgers that go on -/

section Ledgers
variable {ledger later : Ledger}

/-- Of the batch of a handle the ledgers say the same. -/
def Ledger.Agrees (ledger later : Ledger) (batch? : Option BatchId) (_ : InstanceId) : Prop :=
  ∀ batch, batch? = some batch → later.outcome batch = ledger.outcome batch

mutual

/-- All that matters of a ledger is what became of the batches that handles were bound in. -/
theorem Value.resolved_congr : ∀ {value : Value}, value.Every (ledger.Agrees later) →
    value.resolved later = value.resolved ledger
  | .bytes _, _ => rfl
  | .map owner _, every => congrArg (Value.map owner) (Binding.resolved_congr every)

theorem Binding.resolved_congr : ∀ {binding : Binding}, binding.Every (ledger.Agrees later) →
    binding.resolved later = binding.resolved ledger
  | .unbound _, every => congrArg Binding.unbound (Staged.resolved_congr every)
  | .bound _, _ => rfl
  | .pending id batch staged, every => by
    rw [Binding.resolved, Binding.resolved, every.1 batch rfl, Staged.resolved_congr every.2]

theorem Staged.resolved_congr : ∀ {staged : Staged}, staged.Every (ledger.Agrees later) →
    staged.resolved later = staged.resolved ledger
  | .nil, _ => rfl
  | .cons key value rest, every => by
    rw [Staged.resolved, Staged.resolved, Value.resolved_congr every.1,
      Staged.resolved_congr every.2]

end

/-- A handle waits for no open batch but this one. -/
def Ledger.WaitsFor (ledger : Ledger) (batch : BatchId) (batch? : Option BatchId)
    (_ : InstanceId) : Prop :=
  ∀ other, batch? = some other → ledger.outcome other = .undecided → other = batch

/-- The ledger in which an open batch is decided. -/
structure Ledger.Concludes (ledger later : Ledger) (batch : BatchId) (outcome : Outcome) : Prop where
  open_ : ledger.outcome batch = .undecided
  decided : later.outcome batch = outcome
  others : ∀ other, other ≠ batch → later.outcome other = ledger.outcome other

theorem Ledger.concludes {batch : BatchId} (known : batch < ledger.outcomes.size)
    (undecided : ledger.outcome batch = .undecided) (outcome : Outcome) :
    ledger.Concludes (ledger.conclude batch outcome) batch outcome where
  open_ := undecided
  decided := by rw [Ledger.outcome_conclude known undecided, if_pos rfl]
  others other differ := by rw [Ledger.outcome_conclude known undecided, if_neg differ]

/-- A batch that was decided before stays decided. -/
theorem Ledger.Concludes.stands {batch other : BatchId} {outcome : Outcome}
    (h : ledger.Concludes later batch outcome) (decided : ledger.outcome other ≠ .undecided) :
    later.outcome other = ledger.outcome other := by
  refine h.others other ?_
  intro same
  subst same
  exact decided h.open_

section Conclude
variable {batch : BatchId} {outcome : Outcome}

mutual

/-- What a handle resolves to once its batch is decided is a matter of what it resolved to before. -/
theorem Value.resolved_conclude (h : ledger.Concludes later batch outcome) :
    ∀ {value : Value}, value.Every (ledger.WaitsFor batch) →
    value.resolved later = (value.resolved ledger).resolved ⟨#[outcome]⟩
  | .bytes _, _ => rfl
  | .map owner _, every => congrArg (Value.map owner) (Binding.resolved_conclude h every)

theorem Binding.resolved_conclude (h : ledger.Concludes later batch outcome) :
    ∀ {binding : Binding}, binding.Every (ledger.WaitsFor batch) →
    binding.resolved later = (binding.resolved ledger).resolved ⟨#[outcome]⟩
  | .unbound _, every => congrArg Binding.unbound (Staged.resolved_conclude h every)
  | .bound id, _ => rfl
  | .pending id other staged, every => by
    have entries := Staged.resolved_conclude h every.2
    have here : Ledger.outcome ⟨#[outcome]⟩ 0 = outcome := rfl
    cases decided : ledger.outcome other with
    | undecided =>
      obtain rfl := every.1 other rfl decided
      simp only [Binding.resolved, decided, h.decided, here, entries]
    | applied | discarded =>
      have stands : later.outcome other = ledger.outcome other := h.stands (by rw [decided]; nofun)
      simp only [Binding.resolved, decided, stands, entries]

theorem Staged.resolved_conclude (h : ledger.Concludes later batch outcome) :
    ∀ {staged : Staged}, staged.Every (ledger.WaitsFor batch) →
    staged.resolved later = (staged.resolved ledger).resolved ⟨#[outcome]⟩
  | .nil, _ => rfl
  | .cons key value rest, every => by
    rw [Staged.resolved, Staged.resolved, Staged.resolved, Value.resolved_conclude h every.1,
      Staged.resolved_conclude h every.2]

end

end Conclude

end Ledgers

/-! ## Binding in lockstep -/

/-- Two surfaces that answer alike, each with a ledger of its own and with a batch of its own that
is open, or with none. -/
structure Twinned {σ τ : Type} [Surface σ] [Surface τ] (here there : Ledger)
    (batch? batch?' : Option BatchId) (R : σ → τ → Prop) : Prop extends InStep R where
  here_eq (s : σ) (t : τ) : R s t → Surface.ledger s = here ∧ Surface.batch? s = batch?
  there_eq (s : σ) (t : τ) : R s t → Surface.ledger t = there ∧ Surface.batch? t = batch?'
  noteHere (event : Event) (s : σ) (t : τ) : R s t → R (Surface.note event s) t
  noteThere (event : Event) (s : σ) (t : τ) : R s t → R s (Surface.note event t)
  mode : batch?.isSome = batch?'.isSome
  undecided : ∀ batch, batch? = some batch → here.outcome batch = .undecided
  undecided' : ∀ batch, batch?' = some batch → there.outcome batch = .undecided

theorem StateM.bind_get_apply {σ α : Type} (f : σ → StateM σ α) (s : σ) :
    (get >>= f) s = f s s := rfl

section Lockstep
variable {σ τ : Type} [Surface σ] [Surface τ] {here there : Ledger} {batch? batch?' : Option BatchId}
  {R : σ → τ → Prop}

/-- A handle that resolves to an instance is on it, and nothing is done. -/
theorem Binding.bind_of_resolved_bound {binding : Binding} {id : InstanceId} {s : σ}
    (h : binding.resolved (Surface.ledger s) = .bound id) :
    (binding.bind : StateM σ _) s = ((.ok id, .bound id), s) := by
  cases binding with
  | unbound staged => cases h
  | bound other =>
    cases h
    rw [Binding.bind]
    rfl
  | pending other batch staged =>
    unfold Binding.resolved at h
    rw [Binding.bind, StateM.bind_get_apply]
    cases decided : (Surface.ledger s).outcome batch with
    | undecided | discarded =>
      rw [decided] at h
      cases h
    | applied =>
      rw [decided] at h
      cases h
      rfl

/-- A handle that was bound inside an open batch has its instance, and nothing is done. -/
theorem Binding.bind_of_resolved_pending {binding : Binding} {id : InstanceId} {batch : BatchId}
    {entries : Staged} {s : σ}
    (h : binding.resolved (Surface.ledger s) = .pending id batch entries) :
    (binding.bind : StateM σ _) s = ((.ok id, binding), s) := by
  cases binding with
  | unbound staged => cases h
  | bound other => cases h
  | pending other batch staged =>
    unfold Binding.resolved at h
    rw [Binding.bind, StateM.bind_get_apply]
    cases decided : (Surface.ledger s).outcome batch with
    | undecided =>
      rw [decided] at h
      cases h
      rfl
    | applied | discarded =>
      rw [decided] at h
      cases h

/-- A handle that resolves to an unbound one is bound like it, a discarded batch being noted. -/
theorem Binding.bind_of_resolved_unbound {binding : Binding} {entries : Staged} {s : σ}
    (h : binding.resolved (Surface.ledger s) = .unbound entries) :
    ∃ staged u, staged.resolved (Surface.ledger s) = entries ∧ Surface.Notices s u ∧
      (binding.bind : StateM σ _) s = bindStaged staged (fun id => staged.writeAll id) u := by
  cases binding with
  | unbound staged =>
    cases h
    refine ⟨staged, s, rfl, .inl rfl, ?_⟩
    rw [Binding.bind]
  | bound other => cases h
  | pending id batch staged =>
    unfold Binding.resolved at h
    cases decided : (Surface.ledger s).outcome batch with
    | undecided | applied =>
      rw [decided] at h
      cases h
    | discarded =>
      rw [decided] at h
      cases h
      refine ⟨staged, _, rfl, .inr ⟨id, rfl⟩, ?_⟩
      rw [Binding.bind, StateM.bind_get_apply, decided]
      rfl

namespace Twinned
variable (h : Twinned here there batch? batch?' R)
include h

theorem noticesHere {s u : σ} {t : τ} (r : R s t) (notices : Surface.Notices s u) : R u t := by
  rcases notices with rfl | ⟨id, rfl⟩
  · exact r
  · exact h.noteHere (.unboundAgain id) s t r

theorem noticesThere {s : σ} {t u : τ} (r : R s t) (notices : Surface.Notices t u) : R s u := by
  rcases notices with rfl | ⟨id, rfl⟩
  · exact r
  · exact h.noteThere (.unboundAgain id) s t r

/-- A map that was just stored resolves to the same on both sides. -/
theorem resolved_bound {id : InstanceId} {staged staged' : Staged} {s : σ} {t : τ}
    (same : staged.resolved here = staged'.resolved there) (r : R s t) :
    ((Surface.batch? s).elim (Binding.bound id) (.pending id · staged)).resolved here =
      ((Surface.batch? t).elim (Binding.bound id) (.pending id · staged')).resolved there := by
  rw [(h.here_eq s t r).2, (h.there_eq s t r).2]
  have mode := h.mode
  have undecided := h.undecided
  have undecided' := h.undecided'
  cases batch? <;> cases batch?' <;> simp_all [Binding.resolved]

theorem encodes {value value' : Value} (same : value.resolved here = value'.resolved there) (s : σ)
    (t : τ) (r : R s t) :
    value.encode (Surface.ledger s) = value'.encode (Surface.ledger t) := by
  rw [(h.here_eq s t r).1, (h.there_eq s t r).1]
  exact Value.encode_eq_of_resolved same

/-- Unbound handles are bound in lockstep when their staged entries are written so. -/
theorem bindStaged {staged staged' : Staged} (same : staged.resolved here = staged'.resolved there)
    (write : ∀ id : InstanceId,
      Lockstep R (Beside fun s s' : Staged => s.resolved here = s'.resolved there)
        (staged.writeAll id : StateM σ _) (staged'.writeAll id : StateM τ _)) :
    Lockstep R (Beside fun b b' : Binding => b.resolved here = b'.resolved there)
      (NestedStore.bindStaged staged fun id => staged.writeAll id)
      (NestedStore.bindStaged staged' fun id => staged'.writeAll id) := by
  refine h.toInStep.bindStaged ?_ ?_ ?_ same write
  · intro s s' same
    rw [← @Staged.length_resolved here s, same, s'.length_resolved]
  · exact fun s s' same => congrArg Binding.unbound same
  · exact fun id s s' u v same r => h.resolved_bound same r

end Twinned

mutual

/-- Handles that resolve to the same are bound in lockstep. -/
theorem Binding.bind_lockstep (h : Twinned here there batch? batch?' R) :
    ∀ (binding : Binding) {binding' : Binding},
      binding.resolved here = binding'.resolved there →
      Lockstep R (Beside fun b b' : Binding => b.resolved here = b'.resolved there)
        (binding.bind : StateM σ _) (binding'.bind : StateM τ _)
  | .bound id, binding', same => by
    intro s t r
    have ledger := (h.there_eq s t r).1
    rw [Binding.bind, Binding.bind_of_resolved_bound (ledger ▸ same.symm)]
    exact ⟨⟨rfl, rfl⟩, r⟩
  | .unbound staged, binding', same => by
    intro s t r
    have ledger := (h.there_eq s t r).1
    obtain ⟨staged', u, same', noted, bound⟩ :=
      Binding.bind_of_resolved_unbound (ledger ▸ same.symm)
    have moved := h.noticesThere r noted
    rw [ledger] at same'
    rw [Binding.bind, bound]
    exact h.bindStaged same'.symm (staged.writeAll_lockstep h same'.symm) s u moved
  | .pending id batch staged, binding', same => by
    intro s t r
    have ledger := (h.here_eq s t r).1
    have ledger' := (h.there_eq s t r).1
    cases decided : here.outcome batch with
    | undecided =>
      have shown : (Binding.pending id batch staged).resolved here =
          .pending id 0 (staged.resolved here) := by
        simp [Binding.resolved, decided]
      rw [Binding.bind_of_resolved_pending (ledger ▸ shown),
        Binding.bind_of_resolved_pending (ledger' ▸ same.symm.trans shown)]
      exact ⟨⟨rfl, same⟩, r⟩
    | applied =>
      have shown : (Binding.pending id batch staged).resolved here = .bound id := by
        simp [Binding.resolved, decided]
      rw [Binding.bind_of_resolved_bound (ledger ▸ shown),
        Binding.bind_of_resolved_bound (ledger' ▸ same.symm.trans shown)]
      exact ⟨⟨rfl, rfl⟩, r⟩
    | discarded =>
      have shown : (Binding.pending id batch staged).resolved here =
          .unbound (staged.resolved here) := by
        simp [Binding.resolved, decided]
      obtain ⟨staged', u, same', noted, bound⟩ :=
        Binding.bind_of_resolved_unbound (ledger' ▸ same.symm.trans shown)
      have moved := h.noticesThere (h.noteHere (.unboundAgain id) s t r) noted
      rw [ledger'] at same'
      rw [Binding.bind, StateM.bind_get_apply, ledger, decided, bound]
      exact h.bindStaged same'.symm (staged.writeAll_lockstep h same'.symm) _ u moved

/-- Staged entries that resolve to the same are written in lockstep. -/
theorem Staged.writeAll_lockstep (h : Twinned here there batch? batch?' R) :
    ∀ (staged : Staged) {staged' : Staged},
      staged.resolved here = staged'.resolved there → ∀ id : InstanceId,
      Lockstep R (Beside fun s s' : Staged => s.resolved here = s'.resolved there)
        (staged.writeAll id : StateM σ _) (staged'.writeAll id : StateM τ _)
  | .nil, .nil, _, id => .pure ⟨rfl, rfl⟩
  | .nil, .cons _ _ _, same, _ => nomatch same
  | .cons _ _ _, .nil, same, _ => nomatch same
  | .cons key value rest, .cons key' value' rest', same, id => by
    obtain ⟨rfl, entry, others⟩ := Staged.cons.inj same
    rw [Staged.writeAll, Staged.writeAll]
    refine (h.toInStep.setEntryWith (fun _ _ same => h.encodes same) entry
      (value.bind_lockstep h entry)).bind fun first second set => ?_
    obtain ⟨result, value⟩ := first
    obtain ⟨_, value'⟩ := second
    obtain ⟨rfl, entry⟩ := set
    have whole {rest rest' : Staged} (others : rest.resolved here = rest'.resolved there) :
        (Staged.cons key value rest).resolved here = (Staged.cons key value' rest').resolved there := by
      rw [Staged.resolved, Staged.resolved, entry, others]
    cases result with
    | error error => exact .pure ⟨rfl, whole others⟩
    | ok _ =>
      refine (rest.writeAll_lockstep h others id).bind fun first second wrote => ?_
      obtain ⟨answer, others⟩ := wrote
      exact .pure ⟨answer, whole others⟩

/-- **Values that resolve to the same are bound in lockstep**, whatever fails on the way. -/
theorem Value.bind_lockstep (h : Twinned here there batch? batch?' R) :
    ∀ (value : Value) {value' : Value}, value.resolved here = value'.resolved there →
      Lockstep R (Beside fun v v' : Value => v.resolved here = v'.resolved there)
        (value.bind : StateM σ _) (value'.bind : StateM τ _)
  | .bytes payload, .bytes payload', same => .pure ⟨rfl, same⟩
  | .bytes _, .map _ _, same => nomatch same
  | .map _ _, .bytes _, same => nomatch same
  | .map owner binding, .map owner' binding', same => by
    obtain ⟨rfl, shown⟩ := Value.map.inj same
    rw [Value.bind, Value.bind]
    refine (binding.bind_lockstep h shown).bind fun first second bound => ?_
    obtain ⟨answer, shown⟩ := bound
    exact .pure ⟨congrArg (Except.map fun _ => ()) answer, congrArg (Value.map owner) shown⟩

end

/-- Items are put in lockstep. -/
theorem Table.putItem_lockstep (h : Twinned here there batch? batch?' R) (table : Table)
    (key : Bytes) {value value' : Value} (same : value.resolved here = value'.resolved there) :
    Lockstep R (Beside fun v v' : Value => v.resolved here = v'.resolved there)
      (table.putItem key value : StateM σ _) (table.putItem key value' : StateM τ _) :=
  h.toInStep.putItem table (fun _ _ same => h.encodes same) (value.bind_lockstep h same)

/-- Entries are set in lockstep. -/
theorem MapHandle.setItem_lockstep (h : Twinned here there batch? batch?' R) (key : Bytes)
    {map map' : MapHandle} {value value' : Value}
    (alike : map.resolved here = map'.resolved there)
    (same : value.resolved here = value'.resolved there) :
    Lockstep R (Beside fun (first : MapHandle × Value) (second : MapHandle × Value) =>
        first.1.resolved here = second.1.resolved there ∧
          first.2.resolved here = second.2.resolved there)
      (map.setItem key value : StateM σ _) (map'.setItem key value' : StateM τ _) := by
  obtain ⟨owner, binding⟩ := map
  obtain ⟨_, binding'⟩ := map'
  obtain ⟨rfl, alike⟩ := MapHandle.mk.inj alike
  refine (h.toInStep.setItem owner (fun _ _ same => h.encodes same) same
    (binding.bind_lockstep h alike) (value.bind_lockstep h same)).imp fun first second set => ?_
  obtain ⟨answer, ⟨_, _, alike, first_eq, second_eq⟩, same⟩ := set
  refine ⟨answer, ?_, same⟩
  rw [first_eq, second_eq]
  exact congrArg (MapHandle.mk owner) alike

/-- Staging is in lockstep. -/
theorem MapHandle.stage_lockstep (h : Twinned here there batch? batch?' R) (key : Bytes)
    {map map' : MapHandle} {value value' : Value}
    (alike : map.resolved here = map'.resolved there)
    (same : value.resolved here = value'.resolved there) :
    Lockstep R (Beside fun m m' : MapHandle => m.resolved here = m'.resolved there)
      (map.stage key value : StateM σ _) (map'.stage key value' : StateM τ _) := by
  intro s t r
  obtain ⟨answer, notices⟩ := MapHandle.stage_spec (returns_self (map.stage key value) s)
  obtain ⟨answer', notices'⟩ := MapHandle.stage_spec (returns_self (map'.stage key value') t)
  rw [answer, answer', (h.here_eq s t r).1, (h.there_eq s t r).1]
  have one := @MapHandle.staging_resolved here key value map
  rw [alike, same, map'.staging_resolved] at one
  obtain ⟨answers, ends⟩ := Prod.ext_iff.mp one
  exact ⟨⟨answers.symm, ends.symm⟩, h.noticesThere (h.noticesHere r notices) notices'⟩

end Lockstep

/-! ## Discarding -/

section Discarded
variable {setting : Setting} {batch : BatchId} {later : Ledger} {cells : KeySpace}

theorem SetsEntry.resolved_discarded {id : InstanceId} {key : Bytes} {value value' : Value}
    {binds : Except StoreError Unit → Value → List Effect → Prop} {result : Except StoreError Unit}
    {effects : List Effect} (h : SetsEntry setting cells id key value binds result value' effects)
    (hb : ∀ {result value' effects}, binds result value' effects →
      value'.resolved later = value.resolved later) :
    value'.resolved later = value.resolved later := by
  cases h with
  | refused count => rfl
  | valueFailed _ bind | stored _ bind _ => exact hb bind

theorem BindsStaged.resolved_discarded (taking : setting.batch? = some batch)
    (hf : setting.ledger.Concludes later batch .discarded) {staged : Staged}
    {binding : Binding}
    {writes : InstanceId → KeySpace → Except StoreError Unit → Staged → List Effect → Prop}
    {result : Except StoreError InstanceId} {effects : List Effect}
    (h : BindsStaged setting cells staged writes result binding effects)
    (hw : ∀ {id cells result staged' effects}, writes id cells result staged' effects →
      staged'.resolved later = staged.resolved later) :
    binding.resolved later = .unbound (staged.resolved later) := by
  cases h with
  | unallocated allocate => rfl
  | incomplete allocate write => exact congrArg Binding.unbound (hw write)
  | bound allocate write =>
    rw [Setting.bound, taking]
    simp only [Binding.resolved, hf.decided, hw write]

mutual

/-- **What was bound inside a batch is what it was before, once the batch is discarded**, however far
binding it went. -/
theorem Value.Binds.resolved_discarded (taking : setting.batch? = some batch)
    (hf : setting.ledger.Concludes later batch .discarded) :
    ∀ {value value' : Value} {cells : KeySpace} {result : Except StoreError Unit}
      {effects : List Effect}, value.Binds setting cells result value' effects →
      value'.resolved later = value.resolved later
  | .bytes payload, _, _, _, _, h => by
    obtain ⟨-, rfl, -⟩ := h
    rfl
  | .map owner binding, _, _, _, _, h => by
    obtain ⟨_, binding', bind, -, rfl⟩ := h
    exact congrArg (Value.map owner) (Binding.Binds.resolved_discarded taking hf bind)

theorem Binding.Binds.resolved_discarded (taking : setting.batch? = some batch)
    (hf : setting.ledger.Concludes later batch .discarded) :
    ∀ {binding binding' : Binding} {cells : KeySpace} {result : Except StoreError InstanceId}
      {effects : List Effect}, binding.Binds setting cells result binding' effects →
      binding'.resolved later = binding.resolved later
  | .bound id, _, _, _, _, h => by
    obtain ⟨-, rfl, -⟩ := h
    rfl
  | .unbound staged, _, _, _, _, h =>
    BindsStaged.resolved_discarded taking hf h
      fun write => Staged.Writes.resolved_discarded taking hf write
  | .pending id other staged, _, _, _, _, h => by
    unfold Binding.Binds at h
    cases decided : setting.ledger.outcome other with
    | undecided =>
      rw [decided] at h
      obtain ⟨-, rfl, -⟩ := h
      rfl
    | applied =>
      rw [decided] at h
      obtain ⟨-, rfl, -⟩ := h
      have stands := hf.stands (by rw [decided]; nofun)
      simp [Binding.resolved, stands, decided]
    | discarded =>
      rw [decided] at h
      obtain ⟨_, -, binds⟩ := h
      have gone := hf.stands (by rw [decided]; nofun)
      have unbound := BindsStaged.resolved_discarded taking hf binds
        fun write => Staged.Writes.resolved_discarded taking hf write
      simp [Binding.resolved, gone, decided, unbound]

theorem Staged.Writes.resolved_discarded (taking : setting.batch? = some batch)
    (hf : setting.ledger.Concludes later batch .discarded) :
    ∀ {staged staged' : Staged} {id : InstanceId} {cells : KeySpace}
      {result : Except StoreError Unit} {effects : List Effect},
      staged.Writes setting id cells result staged' effects →
      staged'.resolved later = staged.resolved later
  | .nil, _, _, _, _, _, h => by
    obtain ⟨-, rfl, -⟩ := h
    rfl
  | .cons key value rest, _, _, _, _, _, h => by
    have bound {cells : KeySpace} {result : Except StoreError Unit} {value' : Value}
        {effects : List Effect} (bind : value.Binds setting cells result value' effects) :
        value'.resolved later = value.resolved later :=
      Value.Binds.resolved_discarded taking hf bind
    rcases h with ⟨_, value', set, -, rfl⟩ | ⟨value', _, rest', _, set, write, rfl, -⟩
    · rw [Staged.resolved, Staged.resolved, set.resolved_discarded bound]
    · rw [Staged.resolved, Staged.resolved, set.resolved_discarded bound,
        Staged.Writes.resolved_discarded taking hf write]

end

theorem PutsItem.resolved_discarded (taking : setting.batch? = some batch)
    (hf : setting.ledger.Concludes later batch .discarded) {table : Table} {key : Bytes}
    {value value' : Value} {result : Except StoreError Unit} {effects : List Effect}
    (h : PutsItem setting cells table key value result value' effects) :
    value'.resolved later = value.resolved later := by
  cases h with
  | failed bind | unbound bind | refused bind | stored bind =>
    exact Value.Binds.resolved_discarded taking hf bind

theorem SetsItem.resolved_discarded (taking : setting.batch? = some batch)
    (hf : setting.ledger.Concludes later batch .discarded) {map map' : MapHandle} {key : Bytes}
    {value value' : Value} {result : Except StoreError Unit} {effects : List Effect}
    (h : SetsItem setting cells map key value result map' value' effects) :
    (Value.ofMap map').resolved later = (Value.ofMap map).resolved later ∧
      value'.resolved later = value.resolved later := by
  cases h with
  | unbound bind =>
    have binding := Binding.Binds.resolved_discarded taking hf bind
    exact ⟨congrArg (Value.map map.owner) binding, rfl⟩
  | set bind entry =>
    have binding := Binding.Binds.resolved_discarded taking hf bind
    refine ⟨congrArg (Value.map map.owner) binding, ?_⟩
    exact entry.resolved_discarded fun bind => Value.Binds.resolved_discarded taking hf bind

end Discarded

end NestedStore
