import NestedStore.Proofs.Surface.Engine
import NestedStore.Table

/-! # Programs in lockstep

Two programs are in lockstep when, from states that are related, they end in related states with
related answers (`Lockstep`). Failures are answers like any other, so this speaks of runs in which
calls of the surface fail as well as of those in which none does. A program over surfaces stays in
lockstep with itself when every call of the one surface is in lockstep with that of the other
(`InStep`). -/
namespace NestedStore

variable {σ τ ε α β γ δ : Type}

/-- From related states both programs end in related states, with related answers. -/
def Lockstep (R : σ → τ → Prop) (Q : α → β → Prop) (x : StateM σ α) (y : StateM τ β) : Prop :=
  ∀ s t, R s t → Q (x s).1 (y t).1 ∧ R (x s).2 (y t).2

namespace Lockstep
variable {R : σ → τ → Prop} {Q : α → β → Prop} {P : γ → δ → Prop}

theorem pure {a : α} {b : β} (h : Q a b) :
    Lockstep R Q (Pure.pure a : StateM σ α) (Pure.pure b : StateM τ β) := fun _ _ r => ⟨h, r⟩

theorem bind {x : StateM σ α} {y : StateM τ β} {f : α → StateM σ γ} {g : β → StateM τ δ}
    (h : Lockstep R Q x y) (rest : ∀ a b, Q a b → Lockstep R P (f a) (g b)) :
    Lockstep R P (x >>= f) (y >>= g) := fun s t r =>
  have ⟨answers, states⟩ := h s t r
  rest _ _ answers _ _ states

theorem bind_get {f : σ → StateM σ α} {g : τ → StateM τ β}
    (rest : ∀ s t, R s t → Lockstep R Q (f s) (g t)) :
    Lockstep R Q (get >>= f) (get >>= g) := fun s t r => rest s t r s t r

theorem bind_modify {f : PUnit → StateM σ α} {g : PUnit → StateM τ β} {change : σ → σ}
    {change' : τ → τ} (moves : ∀ s t, R s t → R (change s) (change' t))
    (rest : Lockstep R Q (f ⟨⟩) (g ⟨⟩)) :
    Lockstep R Q (modify change >>= f) (modify change' >>= g) := fun s t r =>
  rest _ _ (moves s t r)

theorem imp {Q' : α → β → Prop} {x : StateM σ α} {y : StateM τ β} (h : Lockstep R Q x y)
    (weaker : ∀ a b, Q a b → Q' a b) : Lockstep R Q' x y := fun s t r =>
  have ⟨answers, states⟩ := h s t r
  ⟨weaker _ _ answers, states⟩

/-- An action in lockstep with another, by a function of the answer, is the other with its answer
mapped. -/
theorem eq_map {f : α → β} {x : StateM σ α} {y : StateM σ β}
    (h : Lockstep Eq (fun a b => b = f a) x y) : y = f <$> x :=
  funext fun s => Prod.ext (h s s rfl).1 (h s s rfl).2.symm

/-- Actions that answer the same go on in lockstep, and stop together. -/
theorem bindExcept {x : ExceptT ε (StateM σ) α} {y : ExceptT ε (StateM τ) α}
    {f : α → ExceptT ε (StateM σ) γ} {g : α → ExceptT ε (StateM τ) γ}
    (h : Lockstep R Eq x.run y.run) (rest : ∀ a, Lockstep R Eq (f a).run (g a).run) :
    Lockstep R Eq (x >>= f).run (y >>= g).run := by
  have whole : Lockstep R Eq (x.run >>= ExceptT.bindCont f) (y.run >>= ExceptT.bindCont g) := by
    refine h.bind fun answer _ same => ?_
    subst same
    cases answer with
    | ok a => exact rest a
    | error error => exact .pure rfl
  exact whole

theorem lift {x : Except ε α} : Lockstep R Eq
    (liftExcept x : ExceptT ε (StateM σ) α).run (liftExcept x : ExceptT ε (StateM τ) α).run := by
  cases x with
  | ok a => exact .pure rfl
  | error error => exact .pure rfl

end Lockstep

theorem Lockstep.bindExcept_get {R : σ → τ → Prop} {f : σ → ExceptT ε (StateM σ) α}
    {g : τ → ExceptT ε (StateM τ) α} (rest : ∀ s t, R s t → Lockstep R Eq (f s).run (g t).run) :
    Lockstep R Eq (get >>= f : ExceptT ε (StateM σ) α).run (get >>= g : ExceptT ε (StateM τ) α).run :=
  fun s t r => rest s t r s t r

theorem Lockstep.bindExcept_set {R : σ → τ → Prop} {f : PUnit → ExceptT ε (StateM σ) α}
    {g : PUnit → ExceptT ε (StateM τ) α} {s : σ} {t : τ} (r : R s t)
    (rest : Lockstep R Eq (f ⟨⟩).run (g ⟨⟩).run) :
    Lockstep R Eq (set s >>= f : ExceptT ε (StateM σ) α).run
      (set t >>= g : ExceptT ε (StateM τ) α).run := fun _ _ _ => rest s t r

/-! ## Surfaces -/

/-- Every call of one surface is in lockstep with the same call of the other. -/
structure InStep [Surface σ] [Surface τ] (R : σ → τ → Prop) : Prop where
  get (key : Bytes) :
    Lockstep R Eq (Surface.get key : Action σ _).run (Surface.get key : Action τ _).run
  put (key value : Bytes) :
    Lockstep R Eq (Surface.put key value : Action σ _).run (Surface.put key value : Action τ _).run
  delete (key : Bytes) :
    Lockstep R Eq (Surface.delete key : Action σ _).run (Surface.delete key : Action τ _).run
  note (event : Event) (s : σ) (t : τ) : R s t → R (Surface.note event s) (Surface.note event t)

namespace InStep
variable [Surface σ] [Surface τ] {R : σ → τ → Prop} {id : InstanceId} {key : Bytes}

/-- A surface is in step with itself. -/
theorem refl : InStep (Eq : σ → σ → Prop) where
  get _ _ _ same := same ▸ ⟨rfl, rfl⟩
  put _ _ _ _ same := same ▸ ⟨rfl, rfl⟩
  delete _ _ _ same := same ▸ ⟨rfl, rfl⟩
  note _ _ _ same := same ▸ rfl

theorem report (h : InStep R) (event : Event) :
    Lockstep R Eq (Surface.report event : Action σ Unit).run
      (Surface.report event : Action τ Unit).run :=
  fun s t r => ⟨rfl, h.note event s t r⟩

theorem allocate (h : InStep R) : Lockstep R Eq (NestedStore.allocate : Action σ InstanceId).run
    (NestedStore.allocate : Action τ InstanceId).run := by
  unfold NestedStore.allocate
  refine (h.get _).bindExcept fun cell? => ?_
  have handOut (id : InstanceId) : Lockstep R Eq
      (do Surface.put Layout.allocatorKey id.next.encode
          Surface.report (.allocated id)
          return id : Action σ InstanceId).run
      (do Surface.put Layout.allocatorKey id.next.encode
          Surface.report (.allocated id)
          return id : Action τ InstanceId).run :=
    (h.put _ _).bindExcept fun _ => (h.report _).bindExcept fun _ => .pure rfl
  cases cell? with
  | none => exact handOut _
  | some cell => exact Lockstep.bindExcept (Lockstep.lift.bindExcept fun _ => .pure rfl) handOut

theorem allocateMap (h : InStep R) : Lockstep R Eq
    (NestedStore.allocateMap : Action σ InstanceId).run
    (NestedStore.allocateMap : Action τ InstanceId).run :=
  h.allocate.bindExcept fun _ => (h.put _ _).bindExcept fun _ => .pure rfl

theorem currentCount (h : InStep R) : Lockstep R Eq
    (NestedStore.currentCount id : Action σ UInt64).run
    (NestedStore.currentCount id : Action τ UInt64).run := by
  refine (h.get _).bindExcept fun cell? => ?_
  cases cell? with
  | none => exact (h.report _).bindExcept fun _ => .pure rfl
  | some cell => exact .lift

theorem raisedCount? (h : InStep R) : Lockstep R Eq
    (NestedStore.raisedCount? id key : Action σ (Option UInt64)).run
    (NestedStore.raisedCount? id key : Action τ (Option UInt64)).run := by
  refine h.currentCount.bindExcept fun count => (h.get _).bindExcept fun present => ?_
  by_cases filled : present.getD [] ≠ []
  · rw [if_pos filled, if_pos filled]
    exact .pure rfl
  · rw [if_neg filled, if_neg filled]
    by_cases full : count + 1 = 0
    · rw [if_pos full, if_pos full]
      exact (h.report _).bindExcept fun _ => .pure rfl
    · rw [if_neg full, if_neg full]
      exact .pure rfl

theorem storeEntry (h : InStep R) {value value' : Value} {raised? : Option UInt64}
    (encodes : ∀ s t, R s t → value.encode (Surface.ledger s) = value'.encode (Surface.ledger t)) :
    Lockstep R Eq (NestedStore.storeEntry id key value raised? : Action σ Unit).run
      (NestedStore.storeEntry id key value' raised? : Action τ Unit).run := by
  refine Lockstep.bindExcept_get fun s t r => ?_
  rw [encodes s t r]
  refine Lockstep.lift.bindExcept fun stored => (h.put _ _).bindExcept fun _ => ?_
  cases raised? with
  | none => exact .pure rfl
  | some count => exact h.put _ _

end InStep

/-! ## Values -/

/-- The same answer, with what is left in hand related. -/
def Beside (V : α → β → Prop) (first : δ × α) (second : δ × β) : Prop :=
  first.1 = second.1 ∧ V first.2 second.2

namespace InStep
variable [Surface σ] [Surface τ] {R : σ → τ → Prop} {id : InstanceId} {key : Bytes}

/-- Setting an entry is in lockstep when binding its value is. -/
theorem setEntryWith (h : InStep R) {V : Value → Value → Prop} {value value' : Value}
    {bindValue : StateM σ (Except StoreError Unit × Value)}
    {bindValue' : StateM τ (Except StoreError Unit × Value)}
    (encodes : ∀ v v', V v v' → ∀ s t, R s t →
      v.encode (Surface.ledger s) = v'.encode (Surface.ledger t))
    (related : V value value') (bind : Lockstep R (Beside V) bindValue bindValue') :
    Lockstep R (Beside V) (NestedStore.setEntryWith id key value bindValue)
      (NestedStore.setEntryWith id key value' bindValue') := by
  refine h.raisedCount?.bind fun raised _ same => ?_
  subst same
  cases raised with
  | error error => exact .pure ⟨rfl, related⟩
  | ok raised? =>
    refine bind.bind fun first second bound => ?_
    obtain ⟨result, value⟩ := first
    obtain ⟨_, value'⟩ := second
    obtain ⟨rfl, related⟩ := bound
    cases result with
    | error error => exact .pure ⟨rfl, related⟩
    | ok _ =>
      exact (h.storeEntry (encodes value value' related)).bind
        fun _ _ same => .pure ⟨same, related⟩

/-- Binding an unbound handle is in lockstep when writing its entries is. -/
theorem bindStaged (h : InStep R) {S : Staged → Staged → Prop} {B : Binding → Binding → Prop}
    {staged staged' : Staged}
    {writeAll : InstanceId → StateM σ (Except StoreError Unit × Staged)}
    {writeAll' : InstanceId → StateM τ (Except StoreError Unit × Staged)}
    (length : ∀ s s', S s s' → s.length = s'.length)
    (unbound : ∀ s s', S s s' → B (.unbound s) (.unbound s'))
    (bound : ∀ (id : InstanceId) (s s' : Staged) (u : σ) (v : τ), S s s' → R u v →
      B ((Surface.batch? u).elim (.bound id) (.pending id · s))
        ((Surface.batch? v).elim (.bound id) (.pending id · s')))
    (related : S staged staged') (write : ∀ id, Lockstep R (Beside S) (writeAll id) (writeAll' id)) :
    Lockstep R (Beside B) (NestedStore.bindStaged staged writeAll)
      (NestedStore.bindStaged staged' writeAll') := by
  refine h.allocateMap.bind fun allocated _ same => ?_
  subst same
  cases allocated with
  | error error => exact .pure ⟨rfl, unbound _ _ related⟩
  | ok id =>
    refine (write id).bind fun first second wrote => ?_
    obtain ⟨result, staged⟩ := first
    obtain ⟨_, staged'⟩ := second
    obtain ⟨rfl, related⟩ := wrote
    cases result with
    | error error => exact .pure ⟨rfl, unbound _ _ related⟩
    | ok _ =>
      dsimp only
      rw [length _ _ related]
      refine Lockstep.bind_modify (h.note _) (Lockstep.bind_get fun u v r => ?_)
      have last := bound id _ _ u v related r
      cases hu : Surface.batch? u <;> cases hv : Surface.batch? v <;> rw [hu, hv] at last <;>
        exact .pure ⟨rfl, last⟩

/-- Putting an item is in lockstep when binding its value is. -/
theorem putItem (h : InStep R) {V : Value → Value → Prop} (table : Table) {value value' : Value}
    (encodes : ∀ v v', V v v' → ∀ s t, R s t →
      v.encode (Surface.ledger s) = v'.encode (Surface.ledger t))
    (bind : Lockstep R (Beside V) (value.bind : StateM σ _) (value'.bind : StateM τ _)) :
    Lockstep R (Beside V) (table.putItem key value : StateM σ _)
      (table.putItem key value' : StateM τ _) := by
  refine bind.bind fun first second bound => ?_
  obtain ⟨result, value⟩ := first
  obtain ⟨_, value'⟩ := second
  obtain ⟨rfl, related⟩ := bound
  cases result with
  | error error => exact .pure ⟨rfl, related⟩
  | ok _ =>
    refine Lockstep.bind (Lockstep.bindExcept_get fun s t r => ?_)
      fun _ _ answer => .pure ⟨answer, related⟩
    rw [encodes value value' related s t r]
    exact Lockstep.lift.bindExcept fun stored => h.put _ _

/-- Setting an entry through a handle is in lockstep when binding the handle and the value is. -/
theorem setItem (h : InStep R) {B : Binding → Binding → Prop} {V : Value → Value → Prop}
    (owner : DatabaseId) {binding binding' : Binding} {value value' : Value}
    (encodes : ∀ v v', V v v' → ∀ s t, R s t →
      v.encode (Surface.ledger s) = v'.encode (Surface.ledger t))
    (related : V value value')
    (bindMap : Lockstep R (Beside B) (binding.bind : StateM σ _) (binding'.bind : StateM τ _))
    (bindValue : Lockstep R (Beside V) (value.bind : StateM σ _) (value'.bind : StateM τ _)) :
    Lockstep R
      (Beside fun first second : MapHandle × Value =>
        (∃ b b', B b b' ∧ first.1 = ⟨owner, b⟩ ∧ second.1 = ⟨owner, b'⟩) ∧ V first.2 second.2)
      (MapHandle.setItem key value ⟨owner, binding⟩ : StateM σ _)
      (MapHandle.setItem key value' ⟨owner, binding'⟩ : StateM τ _) := by
  refine bindMap.bind fun first second bound => ?_
  obtain ⟨result, binding⟩ := first
  obtain ⟨_, binding'⟩ := second
  obtain ⟨rfl, alike⟩ := bound
  cases result with
  | error error => exact .pure ⟨rfl, ⟨_, _, alike, rfl, rfl⟩, related⟩
  | ok id =>
    refine (h.setEntryWith encodes related bindValue).bind fun first second set => ?_
    obtain ⟨answer, related⟩ := set
    exact .pure ⟨answer, ⟨_, _, alike, rfl, rfl⟩, related⟩

end InStep

end NestedStore
