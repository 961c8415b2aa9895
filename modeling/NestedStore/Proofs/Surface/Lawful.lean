import NestedStore.Surface

/-! # What every surface does

The rules for maps and tables are written over any surface. Here is what they may rely on
(`LawfulSurface`): reads see the cells of the surface, writes change one of them or are refused,
and nothing else moves. `Returns` and `Ends` say how a program ends from a state and are taken apart
along its binds; `Run` says that a program reached its last state by calls of the surface alone,
and keeps what it did to it, effect by effect. -/
namespace NestedStore

variable {σ ε α β : Type}

/-! ## How programs end -/

/-- From `s` the program ends in `t` with `a`. -/
def Returns (program : StateM σ α) (s : σ) (a : α) (t : σ) : Prop := program s = (a, t)

/-- From `s` the action ends in `t`, well or with an error. -/
def Ends (action : ExceptT ε (StateM σ) α) (s : σ) (result : Except ε α) (t : σ) : Prop :=
  Returns action.run s result t

theorem returns_self (program : StateM σ α) (s : σ) :
    Returns program s (program s).1 (program s).2 := rfl

/-- A program ends as it does when it can end in no other way. -/
theorem Returns.of_forall {program : StateM σ α} {s t : σ} {a : α}
    (h : ∀ {b u}, Returns program s b u → b = a ∧ u = t) : Returns program s a t := by
  obtain ⟨rfl, rfl⟩ := h (returns_self program s)
  exact returns_self program s

theorem Returns.pure {a b : α} {s t : σ} (h : Returns (pure a) s b t) : b = a ∧ t = s := by
  cases h
  exact ⟨rfl, rfl⟩

theorem Returns.bind {x : StateM σ α} {f : α → StateM σ β} {s u : σ} {b : β}
    (h : Returns (x >>= f) s b u) : ∃ a t, Returns x s a t ∧ Returns (f a) t b u :=
  ⟨(x s).1, (x s).2, rfl, h⟩

theorem Returns.map {f : α → β} {x : StateM σ α} {s t : σ} {b : β}
    (h : Returns (f <$> x) s b t) : ∃ a, Returns x s a t ∧ b = f a := by
  cases h
  exact ⟨(x s).1, rfl, rfl⟩

theorem Returns.bind_get {f : σ → StateM σ β} {s t : σ} {b : β}
    (h : Returns (get >>= f) s b t) : Returns (f s) s b t := h

theorem Returns.bind_modify {f : PUnit → StateM σ β} {change : σ → σ} {s t : σ} {b : β}
    (h : Returns (modify change >>= f) s b t) : Returns (f ⟨⟩) (change s) b t := h

theorem Ends.bind {x : ExceptT ε (StateM σ) α} {f : α → ExceptT ε (StateM σ) β} {s u : σ}
    {result : Except ε β} (h : Ends (x >>= f) s result u) :
    (∃ error, Ends x s (.error error) u ∧ result = .error error) ∨
      ∃ a t, Ends x s (.ok a) t ∧ Ends (f a) t result u := by
  have whole : Returns (x.run >>= ExceptT.bindCont f) s result u := h
  obtain ⟨first, t, hx, hf⟩ := whole.bind
  cases first with
  | error error =>
    obtain ⟨rfl, rfl⟩ := Returns.pure hf
    exact .inl ⟨error, hx, rfl⟩
  | ok a => exact .inr ⟨a, t, hx, hf⟩

theorem Ends.of_forall {x : ExceptT ε (StateM σ) α} {s t : σ} {result : Except ε α}
    (h : ∀ {other u}, Ends x s other u → other = result ∧ u = t) : Ends x s result t :=
  Returns.of_forall h

/-- A program goes on from where its first step is known to end. -/
theorem Ends.bind_of {x : ExceptT ε (StateM σ) α} {f : α → ExceptT ε (StateM σ) β} {s t u : σ}
    {a : α} {result : Except ε β} (first : Ends x s (.ok a) t) (h : Ends (x >>= f) s result u) :
    Ends (f a) t result u := by
  obtain ⟨error, failed, _⟩ | ⟨_, _, ended, rest⟩ := h.bind
  · cases first.symm.trans failed
  · cases first.symm.trans ended
    exact rest

/-- A program that ends well has ended well all the way. -/
theorem Ends.bind_ok {x : ExceptT ε (StateM σ) α} {f : α → ExceptT ε (StateM σ) β} {s u : σ} {b : β}
    (h : Ends (x >>= f) s (.ok b) u) : ∃ a t, Ends x s (.ok a) t ∧ Ends (f a) t (.ok b) u := by
  obtain ⟨_, _, failed⟩ | whole := h.bind
  · cases failed
  · exact whole

theorem Ends.pure {a : α} {s t : σ} {result : Except ε α} (h : Ends (pure a) s result t) :
    result = .ok a ∧ t = s := Returns.pure h

theorem Ends.throw {error : ε} {s t : σ} {result : Except ε α}
    (h : Ends (throw error) s result t) : result = .error error ∧ t = s := Returns.pure h

theorem Ends.liftExcept {x : Except ε α} {s t : σ} {result : Except ε α}
    (h : Ends (liftExcept x) s result t) : result = x ∧ t = s := by
  cases x with
  | ok a => exact Returns.pure h
  | error error => exact Returns.pure h

theorem Ends.map {f : α → β} {x : ExceptT ε (StateM σ) α} {s t : σ} {result : Except ε β}
    (h : Ends (f <$> x) s result t) : ∃ first, Ends x s first t ∧ result = first.map f := by
  rw [Ends, ExceptT.run_map] at h
  exact h.map

theorem Ends.bind_get {f : σ → ExceptT ε (StateM σ) α} {s t : σ} {result : Except ε α}
    (h : Ends (get >>= f) s result t) : Ends (f s) s result t := h

theorem Ends.bind_set {f : PUnit → ExceptT ε (StateM σ) α} {r s t : σ} {result : Except ε α}
    (h : Ends (set r >>= f) s result t) : Ends (f ⟨⟩) r result t := h

theorem Ends.bind_modify {f : PUnit → ExceptT ε (StateM σ) α} {change : σ → σ} {s t : σ}
    {result : Except ε α} (h : Ends (modify change >>= f) s result t) :
    Ends (f ⟨⟩) (change s) result t := h

theorem Ends.modify {change : σ → σ} {s t : σ} {result : Except ε PUnit}
    (h : Ends (modify change) s result t) : result = .ok ⟨⟩ ∧ t = change s := by
  cases h
  exact ⟨rfl, rfl⟩

theorem Ends.bind_report [Surface σ] {event : Event} {f : Unit → Action σ α} {s t : σ}
    {result : Except StoreError α} (h : Ends (Surface.report event >>= f) s result t) :
    Ends (f ()) (Surface.note event s) result t := h

/-! ## Effects -/

/-- Something that is done to a surface. -/
inductive Effect where
  | write (op : BatchOp)
  | note (event : Event)

namespace Effect

/-- The cells after the effect. -/
def applyTo (cells : KeySpace) : Effect → KeySpace
  | write op => op.applyTo cells
  | note _ => cells

/-- The write that the effect is. -/
def write? : Effect → Option BatchOp
  | write op => some op
  | note _ => none

/-- Whether an instance was handed out. -/
def isAllocation : Effect → Bool
  | note (.allocated _) => true
  | _ => false

/-- The instance that was handed out, if one was. -/
def allocated? : Effect → Option InstanceId
  | note (.allocated id) => some id
  | _ => none

end Effect

/-- The cells after the effects in order. -/
def applyAll (cells : KeySpace) (effects : List Effect) : KeySpace :=
  effects.foldl Effect.applyTo cells

/-- The writes among the effects. -/
def writesOf (effects : List Effect) : List BatchOp := effects.filterMap Effect.write?

/-- How many instances were handed out. -/
def allocationsOf (effects : List Effect) : Nat := effects.countP Effect.isAllocation

/-- The instances that were handed out, in order. -/
def allocatedIn (effects : List Effect) : List InstanceId := effects.filterMap Effect.allocated?

/-- How many instances the events say were handed out. -/
def handedOutIn (events : List Event) : Nat := allocationsOf (events.map .note)

@[simp] theorem applyAll_nil (cells : KeySpace) : applyAll cells [] = cells := rfl

@[simp] theorem applyAll_append (cells : KeySpace) (first later : List Effect) :
    applyAll cells (first ++ later) = applyAll (applyAll cells first) later :=
  List.foldl_append

@[simp] theorem applyAll_write (cells : KeySpace) (op : BatchOp) (later : List Effect) :
    applyAll cells (.write op :: later) = applyAll (op.applyTo cells) later := rfl

@[simp] theorem applyAll_note (cells : KeySpace) (event : Event) (later : List Effect) :
    applyAll cells (.note event :: later) = applyAll cells later := rfl

@[simp] theorem writesOf_append (first later : List Effect) :
    writesOf (first ++ later) = writesOf first ++ writesOf later := List.filterMap_append

@[simp] theorem allocationsOf_append (first later : List Effect) :
    allocationsOf (first ++ later) = allocationsOf first + allocationsOf later :=
  List.countP_append

@[simp] theorem allocatedIn_append (first later : List Effect) :
    allocatedIn (first ++ later) = allocatedIn first ++ allocatedIn later := List.filterMap_append

@[simp] theorem handedOutIn_append (later first : List Event) :
    handedOutIn (later ++ first) = handedOutIn later + handedOutIn first := by
  rw [handedOutIn, List.map_append, allocationsOf_append, handedOutIn, handedOutIn]

@[simp] theorem handedOutIn_reverse (events : List Event) :
    handedOutIn events.reverse = handedOutIn events := by
  rw [handedOutIn, List.map_reverse, allocationsOf, List.countP_reverse]
  rfl

theorem handedOutIn_cons (event : Event) (events : List Event) :
    handedOutIn (event :: events) = handedOutIn events + allocationsOf [.note event] := by
  rw [← List.singleton_append, handedOutIn_append, Nat.add_comm]
  rfl

/-! ## Laws -/

/-- What stays the same of a surface while it is worked on. -/
structure Setting where
  ledger : Ledger
  batch? : Option BatchId
  /-- Whether a read may fail. -/
  readsFail : Bool
  /-- Whether a write may be refused. -/
  writesFail : Bool

/-- Performs a write. -/
def Surface.perform [Surface σ] : BatchOp → Action σ Unit
  | .put key value => Surface.put key value
  | .delete key => Surface.delete key

/-- A surface on which reads see what writes left. -/
class LawfulSurface (σ : Type) [Surface σ] where
  /-- The states that the laws are about. -/
  Sound : σ → Prop
  /-- The cells that reads see. -/
  view : σ → KeySpace
  /-- How many instances were noted as handed out. -/
  handedOut : σ → Nat
  setting : σ → Setting
  setting_ledger (s : σ) : (setting s).ledger = Surface.ledger s
  setting_batch? (s : σ) : (setting s).batch? = Surface.batch? s
  ends_get {s t : σ} {key : Bytes} {result : Except StoreError (Option Bytes)} (hs : Sound s)
    (h : Ends (Surface.get key) s result t) :
    Sound t ∧ view t = view s ∧ handedOut t = handedOut s ∧ setting t = setting s ∧
      (result = .ok (view s)[key]? ∨
        (setting s).readsFail = true ∧ ∃ error, result = .error (.storage error))
  ends_perform {s t : σ} {op : BatchOp} {result : Except StoreError Unit} (hs : Sound s)
    (h : Ends (Surface.perform op) s result t) :
    Sound t ∧ handedOut t = handedOut s ∧ setting t = setting s ∧
      (result = .ok () ∧ view t = op.applyTo (view s) ∨
        (setting s).writesFail = true ∧ view t = view s ∧ ∃ error, result = .error (.storage error))
  sound_note {s : σ} (event : Event) (hs : Sound s) :
    Sound (Surface.note event s) ∧ view (Surface.note event s) = view s ∧
      handedOut (Surface.note event s) = handedOut s + allocationsOf [.note event] ∧
      setting (Surface.note event s) = setting s

/-- Calls of a surface that lead from one state to another, and what they did to it. -/
inductive Run [Surface σ] : σ → List Effect → σ → Prop
  | done (s : σ) : Run s [] s
  | read {s t u : σ} {key : Bytes} {result : Except StoreError (Option Bytes)}
      {effects : List Effect} (h : Ends (Surface.get key) s result t) (rest : Run t effects u) :
      Run s effects u
  | write {s t u : σ} {op : BatchOp} {effects : List Effect}
      (h : Ends (Surface.perform op) s (.ok ()) t) (rest : Run t effects u) :
      Run s (.write op :: effects) u
  | refused {s t u : σ} {op : BatchOp} {error : StoreError} {effects : List Effect}
      (h : Ends (Surface.perform op) s (.error error) t) (rest : Run t effects u) :
      Run s effects u
  | note {s u : σ} {effects : List Effect} (event : Event)
      (rest : Run (Surface.note event s) effects u) : Run s (.note event :: effects) u

theorem Run.append [Surface σ] {s t u : σ} {first later : List Effect} (h : Run s first t)
    (rest : Run t later u) : Run s (first ++ later) u := by
  induction h with
  | done s => exact rest
  | read h _ ih => exact .read h (ih rest)
  | write h _ ih => exact .write h (ih rest)
  | refused h _ ih => exact .refused h (ih rest)
  | note event _ ih => exact .note event (ih rest)

/-- A state from which a run has led to a view. -/
structure Reached [Surface σ] [LawfulSurface σ] (s : σ) (effects : List Effect) (t : σ) : Prop where
  run : Run s effects t
  sound : LawfulSurface.Sound t
  view : LawfulSurface.view t = applyAll (LawfulSurface.view s) effects
  handedOut : LawfulSurface.handedOut t = LawfulSurface.handedOut s + allocationsOf effects
  setting : LawfulSurface.setting t = LawfulSurface.setting s

namespace Reached
variable [Surface σ] [LawfulSurface σ] {s t u : σ} {first later : List Effect}

theorem refl (hs : LawfulSurface.Sound s) : Reached s [] s := ⟨.done s, hs, rfl, rfl, rfl⟩

theorem trans (h : Reached s first t) (rest : Reached t later u) :
    Reached s (first ++ later) u := by
  refine ⟨h.run.append rest.run, rest.sound, ?_, ?_, rest.setting.trans h.setting⟩
  · rw [rest.view, h.view, applyAll_append]
  · rw [rest.handedOut, h.handedOut, allocationsOf_append, Nat.add_assoc]

theorem note (hs : LawfulSurface.Sound s) (event : Event) :
    Reached s [.note event] (Surface.note event s) := by
  obtain ⟨sound, view, handedOut, setting⟩ := LawfulSurface.sound_note event hs
  exact ⟨.note event (.done _), sound, view, handedOut, setting⟩

end Reached

section Calls
variable [Surface σ] [LawfulSurface σ] {s t : σ}
open LawfulSurface (Sound view setting)

/-- A read sees the view, or fails on a surface whose reads may. -/
theorem reached_get {key : Bytes} {result : Except StoreError (Option Bytes)} (hs : Sound s)
    (h : Ends (Surface.get key) s result t) :
    Reached s [] t ∧ (result = .ok (view s)[key]? ∨
      (setting s).readsFail = true ∧ ∃ error, result = .error (.storage error)) := by
  obtain ⟨sound, view_eq, handedOut, setting_eq, seen⟩ := LawfulSurface.ends_get hs h
  exact ⟨⟨.read h (.done t), sound, view_eq, handedOut, setting_eq⟩, seen⟩

/-- A write is done, or refused on a surface where writes may be. -/
theorem reached_perform {op : BatchOp} {result : Except StoreError Unit} (hs : Sound s)
    (h : Ends (Surface.perform op) s result t) :
    (result = .ok () ∧ Reached s [.write op] t) ∨
      ((setting s).writesFail = true ∧ Reached s [] t ∧
        ∃ error, result = .error (.storage error)) := by
  obtain ⟨sound, handedOut, setting_eq, written | ⟨fails, view_eq, error, refused⟩⟩ :=
    LawfulSurface.ends_perform hs h
  · obtain ⟨rfl, view_eq⟩ := written
    exact .inl ⟨rfl, .write h (.done t), sound, view_eq, handedOut, setting_eq⟩
  · subst refused
    exact .inr ⟨fails, ⟨.refused h (.done t), sound, view_eq, handedOut, setting_eq⟩, error, rfl⟩

theorem reached_put {key value : Bytes} {result : Except StoreError Unit} (hs : Sound s)
    (h : Ends (Surface.put key value) s result t) :
    (result = .ok () ∧ Reached s [.write (.put key value)] t) ∨
      ((setting s).writesFail = true ∧ Reached s [] t ∧
        ∃ error, result = .error (.storage error)) := by
  have performed : Ends (Surface.perform (.put key value)) s result t := h
  exact reached_perform hs performed

/-- A program that begins with a read goes on with what the view holds, or the read fails. -/
theorem Ends.bind_read {key : Bytes} {f : Option Bytes → Action σ α} {result : Except StoreError α}
    (h : Ends (Surface.get key >>= f) s result t) (hs : Sound s) :
    (∃ u, Reached s [] u ∧ Ends (f (view s)[key]?) u result t) ∨
      (setting s).readsFail = true ∧ Reached s [] t ∧
        ∃ error, result = .error (.storage error) := by
  obtain ⟨error, read, rfl⟩ | ⟨value?, u, read, rest⟩ := h.bind
  · obtain ⟨reached, seen | ⟨fails, error, failed⟩⟩ := reached_get hs read
    · cases seen
    · cases failed
      exact .inr ⟨fails, reached, error, rfl⟩
  · obtain ⟨reached, seen | ⟨_, _, failed⟩⟩ := reached_get hs read
    · cases seen
      exact .inl ⟨u, reached, rest⟩
    · cases failed

/-- A program that begins with a write goes on when it is done, or the write is refused. -/
theorem Ends.bind_put {key value : Bytes} {f : Unit → Action σ α} {result : Except StoreError α}
    (h : Ends (Surface.put key value >>= f) s result t) (hs : Sound s) :
    (∃ u, Reached s [.write (.put key value)] u ∧ Ends (f ()) u result t) ∨
      (setting s).writesFail = true ∧ Reached s [] t ∧
        ∃ error, result = .error (.storage error) := by
  obtain ⟨error, put, rfl⟩ | ⟨_, u, put, rest⟩ := h.bind
  · obtain ⟨done, -⟩ | ⟨fails, reached, error, refused⟩ := reached_put hs put
    · cases done
    · cases refused
      exact .inr ⟨fails, reached, error, rfl⟩
  · obtain ⟨-, reached⟩ | ⟨_, _, _, refused⟩ := reached_put hs put
    · exact .inl ⟨u, reached, rest⟩
    · cases refused

end Calls

end NestedStore
