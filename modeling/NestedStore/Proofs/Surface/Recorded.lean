import NestedStore.Proofs.Map.Outcome
import NestedStore.Proofs.Surface.Lockstep

/-! # Recording what is done to a surface

A surface that keeps a record of the writes that were taken and of the events that were noted. It
answers as the surface beneath it does (`Recorded.inStep`), so a program ends on it as it ends
beneath, and leaves the same there (`Value.bind_recorded` and its companions). What the program did
can be read off then, and it is what led from the first state to the last (`Recorded.reached`). -/
namespace NestedStore

/-- A surface with a record of what was done to it. -/
structure Recorded (σ : Type) where
  state : σ
  effects : List Effect

namespace Recorded

/-- The record is about this state. -/
def Of {σ : Type} (recorded : Recorded σ) (s : σ) : Prop := recorded.state = s

variable {σ : Type} [Surface σ]

/-- Performs a write, and records it unless it is refused. -/
def perform (op : BatchOp) : Action (Recorded σ) Unit := fun recorded =>
  match (Surface.perform op).run recorded.state with
  | (.ok (), state) => (.ok (), ⟨state, recorded.effects ++ [.write op]⟩)
  | (.error error, state) => (.error error, { recorded with state })

instance : Surface (Recorded σ) where
  get key := fun recorded =>
    let (result, state) := (Surface.get key).run recorded.state
    (result, { recorded with state })
  put key value := perform (.put key value)
  delete key := perform (.delete key)
  ledger recorded := Surface.ledger recorded.state
  batch? recorded := Surface.batch? recorded.state
  note event recorded := ⟨Surface.note event recorded.state, recorded.effects ++ [.note event]⟩

variable {s t : Recorded σ} {op : BatchOp} {key : Bytes}

theorem ends_get {result : Except StoreError (Option Bytes)}
    (h : Ends (Surface.get key) s result t) :
    Ends (Surface.get key) s.state result t.state ∧ t.effects = s.effects := by
  cases h
  exact ⟨rfl, rfl⟩

theorem ends_perform {result : Except StoreError Unit} (h : Ends (Surface.perform op) s result t) :
    Ends (Surface.perform op) s.state result t.state ∧
      (result = .ok () ∧ t.effects = s.effects ++ [.write op] ∨
        (∃ error, result = .error error) ∧ t.effects = s.effects) := by
  replace h : Returns (perform op) s result t := by cases op <;> exact h
  unfold Returns perform at h
  generalize ended : (Surface.perform op).run s.state = answer at h
  obtain ⟨first, state⟩ := answer
  cases first with
  | ok _ =>
    cases h
    exact ⟨ended, .inl ⟨rfl, rfl⟩⟩
  | error error =>
    cases h
    exact ⟨ended, .inr ⟨⟨error, rfl⟩, rfl⟩⟩

instance [LawfulSurface σ] : LawfulSurface (Recorded σ) where
  Sound recorded := LawfulSurface.Sound recorded.state
  view recorded := LawfulSurface.view recorded.state
  handedOut recorded := LawfulSurface.handedOut recorded.state
  setting recorded := LawfulSurface.setting recorded.state
  setting_ledger recorded := LawfulSurface.setting_ledger recorded.state
  setting_batch? recorded := LawfulSurface.setting_batch? recorded.state
  ends_get hs h := LawfulSurface.ends_get hs (ends_get h).1
  ends_perform hs h := LawfulSurface.ends_perform hs (ends_perform h).1
  sound_note event hs := LawfulSurface.sound_note event hs

/-- What was done is what was recorded. -/
theorem run {effects : List Effect} (h : Run s effects t) :
    t.effects = s.effects ++ effects ∧ Run s.state effects t.state := by
  induction h with
  | done s => exact ⟨(List.append_nil _).symm, .done _⟩
  | read read _ ih =>
    obtain ⟨beneath, same⟩ := ends_get read
    exact ⟨by rw [ih.1, same], .read beneath ih.2⟩
  | write written _ ih =>
    obtain ⟨beneath, ⟨_, more⟩ | ⟨⟨_, failed⟩, _⟩⟩ := ends_perform written
    · refine ⟨?_, .write beneath ih.2⟩
      rw [ih.1, more, List.append_assoc]
      rfl
    · cases failed
  | refused refused _ ih =>
    obtain ⟨beneath, ⟨done, _⟩ | ⟨_, same⟩⟩ := ends_perform refused
    · cases done
    · exact ⟨by rw [ih.1, same], .refused beneath ih.2⟩
  | note event _ ih =>
    refine ⟨?_, .note event ih.2⟩
    rw [ih.1]
    exact List.append_assoc _ _ _

/-- What was recorded led from the first state to the last. -/
theorem reached [LawfulSurface σ] {effects : List Effect} (h : Reached s effects t)
    (nothing : s.effects = []) : t.effects = effects ∧ Reached s.state effects t.state := by
  obtain ⟨recorded, beneath⟩ := run h.run
  rw [nothing, List.nil_append] at recorded
  exact ⟨recorded, beneath, h.sound, h.view, h.handedOut, h.setting⟩

/-- What a program comes to is read off its record, provided that it ends as it does beneath. -/
theorem spec [LawfulSurface σ] {α : Type} {s t : σ} {a : α}
    (action : (σ : Type) → [Surface σ] → StateM σ α)
    {outcome : Setting → KeySpace → α → List Effect → Prop}
    (spec : ∀ {σ : Type} [Surface σ] [LawfulSurface σ] {s t : σ} {a : α}, LawfulSurface.Sound s →
      Returns (action σ) s a t → ∃ effects, Reached s effects t ∧
        outcome (LawfulSurface.setting s) (LawfulSurface.view s) a effects)
    (exact : Lockstep (Of (σ := σ)) Eq (action (Recorded σ)) (action σ))
    (hs : LawfulSurface.Sound s) (h : Returns (action σ) s a t) :
    Reached s (action (Recorded σ) ⟨s, []⟩).2.effects t ∧
      outcome (LawfulSurface.setting s) (LawfulSurface.view s) a
        (action (Recorded σ) ⟨s, []⟩).2.effects := by
  have same : action σ s = (a, t) := h
  have both := exact ⟨s, []⟩ s rfl
  rw [same] at both
  have answers : (action (Recorded σ) ⟨s, []⟩).1 = a := both.1
  have states : (action (Recorded σ) ⟨s, []⟩).2.state = t := both.2
  have sound : LawfulSurface.Sound (⟨s, []⟩ : Recorded σ) := hs
  obtain ⟨effects, reaches, result⟩ := spec sound (returns_self (action (Recorded σ)) ⟨s, []⟩)
  obtain ⟨recorded, beneath⟩ := reached reaches rfl
  rw [states] at beneath
  rw [answers] at result
  rw [recorded]
  exact ⟨beneath, result⟩

theorem perform_inStep (op : BatchOp) : Lockstep (Of (σ := σ)) Eq
    (Surface.perform op : Action (Recorded σ) Unit).run (Surface.perform op : Action σ Unit).run := by
  intro s t r
  subst r
  obtain ⟨beneath, _⟩ := ends_perform (returns_self (Surface.perform op).run s)
  exact ⟨(congrArg Prod.fst beneath).symm, (congrArg Prod.snd beneath).symm⟩

theorem encode_recorded (value value' : Value) (same : value = value') (s : Recorded σ) (t : σ)
    (r : s.Of t) : value.encode (Surface.ledger s) = value'.encode (Surface.ledger t) := by
  subst same r
  rfl

/-- A recorded surface answers as the surface beneath. -/
theorem inStep : InStep (Of (σ := σ)) where
  get key s t r := by
    subst r
    exact ⟨rfl, rfl⟩
  put key value := perform_inStep (.put key value)
  delete key := perform_inStep (.delete key)
  note event s t r := by
    subst r
    rfl

end Recorded

/-! ## Programs that are recorded -/

section Programs
variable {σ : Type} [Surface σ]
open Recorded (Of inStep encode_recorded)

theorem bindStaged_recorded {staged : Staged}
    (write : ∀ id : InstanceId, Lockstep (Of (σ := σ)) (Beside Eq) (staged.writeAll id)
      (staged.writeAll id)) :
    Lockstep (Of (σ := σ)) (Beside Eq) (bindStaged staged fun id => staged.writeAll id)
      (bindStaged staged fun id => staged.writeAll id) := by
  refine inStep.bindStaged ?_ ?_ ?_ rfl write
  · exact fun _ _ same => congrArg Staged.length same
  · exact fun _ _ same => congrArg Binding.unbound same
  · intro id staged staged' u v same r
    subst same r
    rfl

mutual

/-- A handle is bound on a recorded surface as it is beneath. -/
theorem Binding.bind_recorded : ∀ binding : Binding,
    Lockstep (Of (σ := σ)) (Beside Eq) binding.bind binding.bind
  | .bound id => by
    rw [Binding.bind, Binding.bind]
    exact .pure ⟨rfl, rfl⟩
  | .unbound staged => by
    rw [Binding.bind, Binding.bind]
    exact bindStaged_recorded staged.writeAll_recorded
  | .pending id batch staged => by
    rw [Binding.bind, Binding.bind]
    refine Lockstep.bind_get fun s t r => ?_
    subst r
    have same : Surface.ledger s = Surface.ledger s.state := rfl
    rw [same]
    cases (Surface.ledger s.state).outcome batch with
    | undecided => exact .pure ⟨rfl, rfl⟩
    | applied => exact .pure ⟨rfl, rfl⟩
    | discarded =>
      exact Lockstep.bind_modify (inStep.note _) (bindStaged_recorded staged.writeAll_recorded)

theorem Staged.writeAll_recorded : ∀ (staged : Staged) (id : InstanceId),
    Lockstep (Of (σ := σ)) (Beside Eq) (staged.writeAll id) (staged.writeAll id)
  | .nil, id => by
    rw [Staged.writeAll, Staged.writeAll]
    exact .pure ⟨rfl, rfl⟩
  | .cons key value rest, id => by
    rw [Staged.writeAll, Staged.writeAll]
    refine (inStep.setEntryWith encode_recorded rfl value.bind_recorded).bind
      fun first second set => ?_
    obtain ⟨result, value⟩ := first
    obtain ⟨_, _⟩ := second
    obtain ⟨rfl, rfl⟩ := set
    cases result with
    | error error => exact .pure ⟨rfl, rfl⟩
    | ok _ =>
      refine (rest.writeAll_recorded id).bind fun first second wrote => ?_
      obtain ⟨answer, others⟩ := wrote
      exact .pure ⟨answer, congrArg (Staged.cons key value) others⟩

theorem Value.bind_recorded : ∀ value : Value,
    Lockstep (Of (σ := σ)) (Beside Eq) value.bind value.bind
  | .bytes payload => by
    rw [Value.bind, Value.bind]
    exact .pure ⟨rfl, rfl⟩
  | .map owner binding => by
    rw [Value.bind, Value.bind]
    refine binding.bind_recorded.bind fun first second bound => ?_
    obtain ⟨answer, same⟩ := bound
    exact .pure ⟨congrArg (Except.map fun _ => ()) answer, congrArg (Value.map owner) same⟩

end

theorem Table.putItem_recorded (table : Table) (key : Bytes) (value : Value) :
    Lockstep (Of (σ := σ)) Eq (table.putItem key value) (table.putItem key value) :=
  (inStep.putItem table encode_recorded value.bind_recorded).imp
    fun _ _ same => Prod.ext same.1 same.2

theorem MapHandle.setItem_recorded (map : MapHandle) (key : Bytes) (value : Value) :
    Lockstep (Of (σ := σ)) Eq (map.setItem key value) (map.setItem key value) := by
  refine (inStep.setItem map.owner encode_recorded rfl map.binding.bind_recorded
    value.bind_recorded).imp fun first second set => ?_
  obtain ⟨answer, ⟨binding, _, rfl, first_eq, second_eq⟩, same⟩ := set
  exact Prod.ext answer (Prod.ext (first_eq.trans second_eq.symm) same)

end Programs

end NestedStore
