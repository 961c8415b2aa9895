import NestedStore.Table
import NestedStore.Proofs.Cells
import NestedStore.Proofs.Surface.Lawful

/-! # What binding and writing come to

Every way that handing out an instance, writing an entry or binding a handle may end, said over the
cells before it: the result, the handle afterwards and the effects in order. The relations know of
no surface. That the programs of `NestedStore.Map.Bind` end in these ways only, on any lawful
surface, is proved once (`Value.bind_spec` and its companions); what they preserve is then a matter
of the relations. A constructor that stands for a failing call of the surface asks for a surface
whose calls may fail. -/
namespace NestedStore

/-- What is done to hand out an instance. -/
def handingOut (id : InstanceId) : List Effect :=
  [.write (.handOut id), .note (.allocated id)]

/-! ## Handing out instances -/

/-- How an empty map is made. -/
inductive Allocates (setting : Setting) (cells : KeySpace) :
    Except StoreError InstanceId → List Effect → Prop
  | unread {error : StorageError} (fails : setting.readsFail = true) :
      Allocates setting cells (.error (.storage error)) []
  | malformed {cell : Bytes} (present : cells[Layout.allocatorKey]? = some cell)
      (bad : Counter.decode? cell = none) :
      Allocates setting cells (.error (.decode (.counterWidth .allocator cell.length))) []
  | refused {error : StorageError} (fails : setting.writesFail = true) :
      Allocates setting cells (.error (.storage error)) []
  | uncounted {id : InstanceId} {error : StorageError} (next : nextId? cells = some id)
      (fails : setting.writesFail = true) :
      Allocates setting cells (.error (.storage error)) (handingOut id)
  | made {id : InstanceId} (next : nextId? cells = some id) :
      Allocates setting cells (.ok id) (handingOut id ++ [.write (.putCount id 0)])

/-! ## Entries -/

/-- How the count is found that a map has once there is an entry at `key`. -/
inductive Raises (setting : Setting) (cells : KeySpace) (id : InstanceId) (key : Bytes) :
    Except StoreError (Option UInt64) → List Effect → Prop
  | unread {error : StorageError} (fails : setting.readsFail = true) :
      Raises setting cells id key (.error (.storage error)) []
  | missing (absent : cells[Layout.countKey id]? = none) :
      Raises setting cells id key (.error (.consistency (.countMissing id)))
        [.note (.countMissing id)]
  | malformed {cell : Bytes} (present : cells[Layout.countKey id]? = some cell)
      (bad : Counter.decode? cell = none) :
      Raises setting cells id key (.error (.decode (.counterWidth .mapCount cell.length))) []
  | filled {count : UInt64} (counted : countOf? cells id = some count)
      (filled : (cells[Layout.entryKey id key]?).getD [] ≠ []) :
      Raises setting cells id key (.ok none) []
  | saturated {count : UInt64} (counted : countOf? cells id = some count)
      (empty : (cells[Layout.entryKey id key]?).getD [] = []) (full : count + 1 = 0) :
      Raises setting cells id key (.error (.consistency (.countSaturated id)))
        [.note (.countOverflow id count)]
  | raised {count : UInt64} (counted : countOf? cells id = some count)
      (empty : (cells[Layout.entryKey id key]?).getD [] = []) (room : count + 1 ≠ 0) :
      Raises setting cells id key (.ok (some (count + 1))) []

/-- How an entry is written, and the count if it is raised. -/
inductive Stores (setting : Setting) (id : InstanceId) (key : Bytes) (value : Value) :
    Option UInt64 → Except StoreError Unit → List Effect → Prop
  | unbound {raised? : Option UInt64} (absent : value.stored? setting.ledger = none) :
      Stores setting id key value raised? (.error (.consistency .unboundReference)) []
  | refused {raised? : Option UInt64} {error : StorageError} (fails : setting.writesFail = true) :
      Stores setting id key value raised? (.error (.storage error)) []
  | kept {stored : StoredValue} (given : value.stored? setting.ledger = some stored) :
      Stores setting id key value none (.ok ()) [.write (.putEntry id key stored)]
  | uncounted {stored : StoredValue} {count : UInt64} {error : StorageError}
      (given : value.stored? setting.ledger = some stored) (fails : setting.writesFail = true) :
      Stores setting id key value (some count) (.error (.storage error)) [.write (.putEntry id key stored)]
  | counted {stored : StoredValue} {count : UInt64}
      (given : value.stored? setting.ledger = some stored) :
      Stores setting id key value (some count) (.ok ())
        [.write (.putEntry id key stored), .write (.putCount id count)]

/-- How an entry is set, when binding the value in between ends as `binds` says. -/
inductive SetsEntry (setting : Setting) (cells : KeySpace) (id : InstanceId) (key : Bytes)
    (value : Value) (binds : Except StoreError Unit → Value → List Effect → Prop) :
    Except StoreError Unit → Value → List Effect → Prop
  | refused {error : StoreError} {effects : List Effect}
      (count : Raises setting cells id key (.error error) effects) :
      SetsEntry setting cells id key value binds (.error error) value effects
  | valueFailed {raised? : Option UInt64} {error : StoreError} {value' : Value}
      {effects : List Effect} (count : Raises setting cells id key (.ok raised?) [])
      (bind : binds (.error error) value' effects) :
      SetsEntry setting cells id key value binds (.error error) value' effects
  | stored {raised? : Option UInt64} {value' : Value} {first later : List Effect}
      {result : Except StoreError Unit} (count : Raises setting cells id key (.ok raised?) [])
      (bind : binds (.ok ()) value' first)
      (store : Stores setting id key value' raised? result later) :
      SetsEntry setting cells id key value binds result value' (first ++ later)

/-! ## Binding -/

/-- The binding of a map that was just stored. -/
def Setting.bound (setting : Setting) (id : InstanceId) (staged : Staged) : Binding :=
  match setting.batch? with
  | some batch => .pending id batch staged
  | none => .bound id

/-- How an unbound handle is bound, when writing its entries ends as `writes` says. -/
inductive BindsStaged (setting : Setting) (cells : KeySpace) (staged : Staged)
    (writes : InstanceId → KeySpace → Except StoreError Unit → Staged → List Effect → Prop) :
    Except StoreError InstanceId → Binding → List Effect → Prop
  | unallocated {error : StoreError} {effects : List Effect}
      (allocate : Allocates setting cells (.error error) effects) :
      BindsStaged setting cells staged writes (.error error) (.unbound staged) effects
  | incomplete {id : InstanceId} {error : StoreError} {staged' : Staged}
      {first later : List Effect} (allocate : Allocates setting cells (.ok id) first)
      (write : writes id (applyAll cells first) (.error error) staged' later) :
      BindsStaged setting cells staged writes (.error error) (.unbound staged') (first ++ later)
  | bound {id : InstanceId} {staged' : Staged} {first later : List Effect}
      (allocate : Allocates setting cells (.ok id) first)
      (write : writes id (applyAll cells first) (.ok ()) staged' later) :
      BindsStaged setting cells staged writes (.ok id) (setting.bound id staged')
        (first ++ later ++ [.note (.bound id staged'.length)])

mutual

/-- How binding a handle ends. -/
def Binding.Binds (setting : Setting) :
    Binding → KeySpace → Except StoreError InstanceId → Binding → List Effect → Prop
  | .bound id, _, result, after, effects => result = .ok id ∧ after = .bound id ∧ effects = []
  | .unbound staged, cells, result, after, effects =>
    BindsStaged setting cells staged (fun id => staged.Writes setting id) result after effects
  | .pending id batch staged, cells, result, after, effects =>
    match setting.ledger.outcome batch with
    | .undecided => result = .ok id ∧ after = .pending id batch staged ∧ effects = []
    | .applied => result = .ok id ∧ after = .bound id ∧ effects = []
    | .discarded => ∃ later, effects = .note (.unboundAgain id) :: later ∧
      BindsStaged setting cells staged (fun id => staged.Writes setting id) result after later

/-- How writing staged entries ends. -/
def Staged.Writes (setting : Setting) (id : InstanceId) :
    Staged → KeySpace → Except StoreError Unit → Staged → List Effect → Prop
  | .nil, _, result, after, effects => result = .ok () ∧ after = .nil ∧ effects = []
  | .cons key value rest, cells, result, after, effects =>
    (∃ error value', SetsEntry setting cells id key value (value.Binds setting cells)
        (.error error) value' effects ∧ result = .error error ∧ after = .cons key value' rest) ∨
      ∃ value' first rest' later, SetsEntry setting cells id key value (value.Binds setting cells)
          (.ok ()) value' first ∧
        rest.Writes setting id (applyAll cells first) result rest' later ∧
        after = .cons key value' rest' ∧ effects = first ++ later

/-- How binding the map in a value ends, if it is one. -/
def Value.Binds (setting : Setting) :
    Value → KeySpace → Except StoreError Unit → Value → List Effect → Prop
  | .bytes payload, _, result, after, effects =>
    result = .ok () ∧ after = .bytes payload ∧ effects = []
  | .map owner binding, cells, result, after, effects =>
    ∃ result' binding', binding.Binds setting cells result' binding' effects ∧
      result = result'.map (fun _ => ()) ∧ after = .map owner binding'

end

/-! ## The programs -/

variable {σ : Type} {s t : σ}

theorem ends_read_counter {which : CounterCell} {cell : Bytes} {result : Except StoreError UInt64}
    (h : Ends (liftExcept (which.read cell)) s result t) :
    t = s ∧ (result = .error (.decode (.counterWidth which cell.length)) ∧
        Counter.decode? cell = none ∨
      ∃ count, result = .ok count ∧ Counter.decode? cell = some count) := by
  obtain ⟨rfl, rfl⟩ := h.liftExcept
  refine ⟨rfl, ?_⟩
  unfold CounterCell.read
  cases hd : Counter.decode? cell with
  | none => exact .inl ⟨rfl, rfl⟩
  | some count => exact .inr ⟨count, rfl, rfl⟩

section Programs
variable [Surface σ] [LawfulSurface σ]
open LawfulSurface (Sound view setting)

theorem ends_handOut {id : InstanceId} {result : Except StoreError InstanceId} (hs : Sound s)
    (h : Ends (do
      Surface.put Layout.allocatorKey id.next.encode
      Surface.report (.allocated id)
      return id) s result t) :
    result = .ok id ∧ Reached s (handingOut id) t ∨
      (setting s).writesFail = true ∧ Reached s [] t ∧
        ∃ error, result = .error (.storage error) := by
  obtain ⟨u, written, noted⟩ | refused := h.bind_put hs
  · obtain ⟨rfl, rfl⟩ := noted.bind_report.pure
    exact .inl ⟨rfl, written.trans (.note written.sound (.allocated id))⟩
  · exact .inr refused

/-- Handing out an instance writes the allocator cell, or nothing at all. -/
theorem allocate_spec {result : Except StoreError InstanceId} (hs : Sound s)
    (h : Ends (allocate : Action σ InstanceId) s result t) :
    (∃ error, result = .error error ∧ Reached s [] t ∧
        Allocates (setting s) (view s) (.error error) []) ∨
      ∃ id, result = .ok id ∧ nextId? (view s) = some id ∧ Reached s (handingOut id) t := by
  obtain ⟨u, read, rest⟩ | ⟨fails, reached, error, rfl⟩ := h.bind_read hs
  · have handed {id : InstanceId} (next : nextId? (view s) = some id)
        (put : result = .ok id ∧ Reached u (handingOut id) t ∨
          (setting u).writesFail = true ∧ Reached u [] t ∧
            ∃ error, result = .error (.storage error)) :
        (∃ error, result = .error error ∧ Reached s [] t ∧
            Allocates (setting s) (view s) (.error error) []) ∨
          ∃ id, result = .ok id ∧ nextId? (view s) = some id ∧ Reached s (handingOut id) t := by
      obtain ⟨rfl, reached⟩ | ⟨fails, reached, error, rfl⟩ := put
      · exact .inr ⟨id, rfl, next, read.trans reached⟩
      · exact .inl ⟨_, rfl, read.trans reached, .refused (read.setting ▸ fails)⟩
    cases hc : (view s)[Layout.allocatorKey]? with
    | none =>
      rw [hc] at rest
      exact handed (by simp [nextId?, hc]) (ends_handOut read.sound rest)
    | some cell =>
      rw [hc] at rest
      obtain ⟨error, decoded, rfl⟩ | ⟨id, v, decoded, put⟩ := Ends.bind rest
      · obtain ⟨first, decoded, failed⟩ := decoded.map
        obtain ⟨rfl, ⟨rfl, bad⟩ | ⟨_, rfl, _⟩⟩ := ends_read_counter decoded
        · cases failed
          exact .inl ⟨_, rfl, read, .malformed hc bad⟩
        · cases failed
      · obtain ⟨first, decoded, given⟩ := decoded.map
        obtain ⟨rfl, ⟨rfl, _⟩ | ⟨count, rfl, number⟩⟩ := ends_read_counter decoded
        · cases given
        · cases given
          exact handed (by simp [nextId?, hc, InstanceId.decode?, number])
            (ends_handOut read.sound put)
  · exact .inl ⟨_, rfl, reached, .unread fails⟩

theorem allocateMap_spec {result : Except StoreError InstanceId} (hs : Sound s)
    (h : Ends (allocateMap : Action σ InstanceId) s result t) :
    ∃ effects, Reached s effects t ∧ Allocates (setting s) (view s) result effects := by
  obtain ⟨error, allocated, rfl⟩ | ⟨id, u, allocated, rest⟩ := Ends.bind h
  · obtain ⟨error, he, reached, allocates⟩ | ⟨id, he, _⟩ := allocate_spec hs allocated
    · cases he
      exact ⟨_, reached, allocates⟩
    · cases he
  · obtain ⟨error, he, _⟩ | ⟨id, he, next, reached⟩ := allocate_spec hs allocated
    · cases he
    · cases he
      obtain ⟨v, written, rest⟩ | ⟨fails, refused, error, rfl⟩ := rest.bind_put reached.sound
      · obtain ⟨rfl, rfl⟩ := rest.pure
        exact ⟨_, reached.trans written, .made next⟩
      · rw [reached.setting] at fails
        have whole := reached.trans refused
        rw [List.append_nil] at whole
        exact ⟨_, whole, .uncounted next fails⟩

theorem raisedCount?_spec {id : InstanceId} {key : Bytes}
    {result : Except StoreError (Option UInt64)} (hs : Sound s)
    (h : Ends (raisedCount? id key : Action σ (Option UInt64)) s result t) :
    ∃ effects, Reached s effects t ∧ Raises (setting s) (view s) id key result effects := by
  obtain ⟨error, counted, rfl⟩ | ⟨count, v, counted, rest⟩ := Ends.bind h
  · obtain ⟨u, read, rest⟩ | ⟨fails, reached, error, he⟩ := counted.bind_read hs
    · cases hc : (view s)[Layout.countKey id]? with
      | none =>
        rw [hc] at rest
        obtain ⟨he, rfl⟩ := rest.bind_report.throw
        cases he
        exact ⟨_, read.trans (.note read.sound _), .missing hc⟩
      | some cell =>
        rw [hc] at rest
        obtain ⟨rfl, ⟨he, bad⟩ | ⟨_, he, _⟩⟩ := ends_read_counter rest
        · cases he
          exact ⟨_, read, .malformed hc bad⟩
        · cases he
    · cases he
      exact ⟨_, reached, .unread fails⟩
  · obtain ⟨u, read, decoded⟩ | ⟨_, _, _, he⟩ := counted.bind_read hs
    · cases hc : (view s)[Layout.countKey id]? with
      | none =>
        rw [hc] at decoded
        obtain ⟨he, _⟩ := decoded.bind_report.throw
        cases he
      | some cell =>
        rw [hc] at decoded
        obtain ⟨rfl, ⟨he, _⟩ | ⟨_, he, number⟩⟩ := ends_read_counter decoded
        · cases he
        · cases he
          have given : countOf? (view s) id = some count := by rw [countOf?, hc]; exact number
          obtain ⟨w, again, rest⟩ | ⟨fails, reached, error, rfl⟩ := rest.bind_read read.sound
          · have both := read.trans again
            rw [read.view, applyAll_nil] at rest
            split at rest
            · next filled =>
              obtain ⟨rfl, rfl⟩ := rest.pure
              exact ⟨_, both, .filled given filled⟩
            · next empty =>
              split at rest
              · next full =>
                obtain ⟨rfl, rfl⟩ := rest.bind_report.throw
                exact ⟨_, both.trans (.note both.sound _),
                  .saturated given (Decidable.not_not.mp empty) full⟩
              · next room =>
                obtain ⟨rfl, rfl⟩ := rest.pure
                exact ⟨_, both, .raised given (Decidable.not_not.mp empty) room⟩
          · rw [read.setting] at fails
            exact ⟨_, read.trans reached, .unread fails⟩
    · cases he

theorem storeEntry_spec {id : InstanceId} {key : Bytes} {value : Value} {raised? : Option UInt64}
    {result : Except StoreError Unit} (hs : Sound s)
    (h : Ends (storeEntry id key value raised? : Action σ Unit) s result t) :
    ∃ effects, Reached s effects t ∧ Stores (setting s) id key value raised? result effects := by
  replace h := Ends.bind_get h
  rw [← LawfulSurface.setting_ledger] at h
  cases hv : value.stored? (setting s).ledger with
  | none =>
    rw [Value.encode, hv] at h
    obtain ⟨rfl, rfl⟩ := Ends.throw h
    exact ⟨_, .refl hs, .unbound hv⟩
  | some stored =>
    rw [Value.encode, hv] at h
    obtain ⟨u, entry, rest⟩ | ⟨fails, reached, error, rfl⟩ := Ends.bind_put h hs
    · cases raised? with
      | none =>
        obtain ⟨rfl, rfl⟩ := rest.pure
        exact ⟨_, entry, .kept hv⟩
      | some count =>
        obtain ⟨rfl, counted⟩ | ⟨fails, reached, error, rfl⟩ := reached_put entry.sound rest
        · exact ⟨_, entry.trans counted, .counted hv⟩
        · rw [entry.setting] at fails
          exact ⟨_, entry.trans reached, .uncounted hv fails⟩
    · exact ⟨_, reached, .refused fails⟩

/-- Setting an entry ends in one of its ways, provided that binding the value does. -/
theorem setEntryWith_spec {id : InstanceId} {key : Bytes} {value value' : Value}
    {bindValue : StateM σ (Except StoreError Unit × Value)}
    (binds : Setting → KeySpace → Except StoreError Unit → Value → List Effect → Prop)
    (hb : ∀ {s t : σ} {result : Except StoreError Unit} {value' : Value}, Sound s →
      Returns bindValue s (result, value') t →
      ∃ effects, Reached s effects t ∧ binds (setting s) (view s) result value' effects)
    {result : Except StoreError Unit} (hs : Sound s)
    (h : Returns (setEntryWith id key value bindValue) s (result, value') t) :
    ∃ effects, Reached s effects t ∧
      SetsEntry (setting s) (view s) id key value (binds (setting s) (view s)) result value'
        effects := by
  obtain ⟨raised, u, counted, rest⟩ := h.bind
  obtain ⟨first, read, raises⟩ := raisedCount?_spec hs counted
  cases raised with
  | error error =>
    obtain ⟨he, rfl⟩ := rest.pure
    cases he
    exact ⟨_, read, .refused raises⟩
  | ok raised? =>
    obtain rfl : first = [] := by cases raises <;> rfl
    obtain ⟨⟨bound, value''⟩, v, bind, rest⟩ := rest.bind
    obtain ⟨later, reached, binds⟩ := hb read.sound bind
    rw [read.setting, read.view, applyAll_nil] at binds
    cases bound with
    | error error =>
      obtain ⟨he, rfl⟩ := rest.pure
      cases he
      exact ⟨_, read.trans reached, .valueFailed raises binds⟩
    | ok _ =>
      obtain ⟨stored, w, store, rest⟩ := rest.bind
      obtain ⟨he, rfl⟩ := rest.pure
      cases he
      obtain ⟨last, written, stores⟩ := storeEntry_spec reached.sound store
      rw [reached.setting, read.setting] at stores
      exact ⟨later ++ last, read.trans (reached.trans written), .stored raises binds stores⟩

/-- Binding an unbound handle ends in one of its ways, provided that writing its entries does. -/
theorem bindStaged_spec {staged : Staged} {binding : Binding}
    {writeAll : InstanceId → StateM σ (Except StoreError Unit × Staged)}
    (writes : Setting → InstanceId → KeySpace → Except StoreError Unit → Staged → List Effect → Prop)
    (hw : ∀ {id : InstanceId} {s t : σ} {result : Except StoreError Unit} {staged' : Staged},
      Sound s → Returns (writeAll id) s (result, staged') t →
      ∃ effects, Reached s effects t ∧ writes (setting s) id (view s) result staged' effects)
    {result : Except StoreError InstanceId} (hs : Sound s)
    (h : Returns (bindStaged staged writeAll) s (result, binding) t) :
    ∃ effects, Reached s effects t ∧
      BindsStaged (setting s) (view s) staged (writes (setting s)) result binding effects := by
  obtain ⟨allocated, u, allocation, rest⟩ := h.bind
  obtain ⟨first, reached, allocates⟩ := allocateMap_spec hs allocation
  cases allocated with
  | error error =>
    obtain ⟨he, rfl⟩ := rest.pure
    cases he
    exact ⟨_, reached, .unallocated allocates⟩
  | ok id =>
    obtain ⟨⟨written, staged'⟩, v, write, rest⟩ := rest.bind
    obtain ⟨later, wrote, writes⟩ := hw reached.sound write
    rw [reached.setting, reached.view] at writes
    have both := reached.trans wrote
    cases written with
    | error error =>
      obtain ⟨he, rfl⟩ := rest.pure
      cases he
      exact ⟨_, both, .incomplete allocates writes⟩
    | ok _ =>
      replace rest := rest.bind_modify.bind_get
      have noted := both.trans (.note both.sound (.bound id staged'.length))
      rw [← LawfulSurface.setting_batch?, noted.setting] at rest
      have bound : BindsStaged (setting s) (view s) staged _ _ _ _ :=
        .bound allocates writes
      rw [Setting.bound] at bound
      cases hb : (setting s).batch? with
      | none =>
        rw [hb] at rest bound
        obtain ⟨he, rfl⟩ := rest.pure
        cases he
        exact ⟨_, noted, bound⟩
      | some batch =>
        rw [hb] at rest bound
        obtain ⟨he, rfl⟩ := rest.pure
        cases he
        exact ⟨_, noted, bound⟩

mutual

/-- Binding a handle ends in one of its ways, whatever is staged on it. -/
theorem Binding.bind_spec {s t : σ} : ∀ {binding after : Binding}
    {result : Except StoreError InstanceId}, Sound s →
      Returns (binding.bind : StateM σ _) s (result, after) t →
      ∃ effects, Reached s effects t ∧ binding.Binds (setting s) (view s) result after effects
  | .bound id, after, result, hs, h => by
    rw [Binding.bind] at h
    obtain ⟨he, rfl⟩ := h.pure
    cases he
    exact ⟨[], .refl hs, rfl, rfl, rfl⟩
  | .unbound staged, after, result, hs, h => by
    rw [Binding.bind] at h
    exact bindStaged_spec (fun setting id => staged.Writes setting id)
      (fun hs hw => staged.writeAll_spec hs hw) hs h
  | .pending id batch staged, after, result, hs, h => by
    rw [Binding.bind] at h
    replace h := h.bind_get
    rw [← LawfulSurface.setting_ledger] at h
    unfold Binding.Binds
    cases ho : (setting s).ledger.outcome batch with
    | undecided =>
      rw [ho] at h
      obtain ⟨he, rfl⟩ := h.pure
      cases he
      exact ⟨[], .refl hs, rfl, rfl, rfl⟩
    | applied =>
      rw [ho] at h
      obtain ⟨he, rfl⟩ := h.pure
      cases he
      exact ⟨[], .refl hs, rfl, rfl, rfl⟩
    | discarded =>
      rw [ho] at h
      replace h := h.bind_modify
      have noted := Reached.note hs (.unboundAgain id)
      obtain ⟨effects, reached, binds⟩ :=
        bindStaged_spec (fun setting id => staged.Writes setting id)
          (fun hs hw => staged.writeAll_spec hs hw) noted.sound h
      rw [noted.setting, noted.view] at binds
      exact ⟨_, noted.trans reached, effects, rfl, binds⟩

/-- Writing staged entries ends in one of its ways. -/
theorem Staged.writeAll_spec {s t : σ} {id : InstanceId} : ∀ {staged after : Staged}
    {result : Except StoreError Unit}, Sound s →
      Returns (staged.writeAll id : StateM σ _) s (result, after) t →
      ∃ effects, Reached s effects t ∧
        staged.Writes (setting s) id (view s) result after effects
  | .nil, after, result, hs, h => by
    rw [Staged.writeAll] at h
    obtain ⟨he, rfl⟩ := h.pure
    cases he
    exact ⟨[], .refl hs, rfl, rfl, rfl⟩
  | .cons key value rest, after, result, hs, h => by
    rw [Staged.writeAll] at h
    obtain ⟨⟨stored, value'⟩, u, entry, more⟩ := h.bind
    obtain ⟨first, reached, sets⟩ := setEntryWith_spec (fun setting => value.Binds setting)
      (fun hs hv => value.bind_spec hs hv) hs entry
    cases stored with
    | error error =>
      obtain ⟨he, rfl⟩ := more.pure
      cases he
      exact ⟨first, reached, .inl ⟨error, value', sets, rfl, rfl⟩⟩
    | ok _ =>
      obtain ⟨⟨wrote, rest'⟩, v, write, more⟩ := more.bind
      obtain ⟨he, rfl⟩ := more.pure
      cases he
      obtain ⟨later, went, writes⟩ := rest.writeAll_spec reached.sound write
      rw [reached.setting, reached.view] at writes
      exact ⟨_, reached.trans went,
        .inr ⟨value', first, rest', later, sets, writes, rfl, rfl⟩⟩

/-- Binding a value ends in one of its ways. -/
theorem Value.bind_spec {s t : σ} : ∀ {value after : Value} {result : Except StoreError Unit},
    Sound s → Returns (value.bind : StateM σ _) s (result, after) t →
      ∃ effects, Reached s effects t ∧ value.Binds (setting s) (view s) result after effects
  | .bytes payload, after, result, hs, h => by
    rw [Value.bind] at h
    obtain ⟨he, rfl⟩ := h.pure
    cases he
    exact ⟨[], .refl hs, rfl, rfl, rfl⟩
  | .map owner binding, after, result, hs, h => by
    rw [Value.bind] at h
    obtain ⟨⟨bound, binding'⟩, u, bind, rest⟩ := h.bind
    obtain ⟨he, rfl⟩ := rest.pure
    cases he
    obtain ⟨effects, reached, binds⟩ := binding.bind_spec hs bind
    exact ⟨effects, reached, bound, binding', binds, rfl, rfl⟩

end

end Programs

/-! ## Items and handles -/

/-- How an item is put. -/
inductive PutsItem (setting : Setting) (cells : KeySpace) (table : Table) (key : Bytes)
    (value : Value) : Except StoreError Unit → Value → List Effect → Prop
  | failed {error : StoreError} {value' : Value} {effects : List Effect}
      (bind : value.Binds setting cells (.error error) value' effects) :
      PutsItem setting cells table key value (.error error) value' effects
  | unbound {value' : Value} {effects : List Effect}
      (bind : value.Binds setting cells (.ok ()) value' effects)
      (absent : value'.stored? setting.ledger = none) :
      PutsItem setting cells table key value (.error (.consistency .unboundReference)) value'
        effects
  | refused {error : StorageError} {value' : Value} {effects : List Effect}
      (bind : value.Binds setting cells (.ok ()) value' effects)
      (fails : setting.writesFail = true) :
      PutsItem setting cells table key value (.error (.storage error)) value' effects
  | stored {stored : StoredValue} {value' : Value} {effects : List Effect}
      (bind : value.Binds setting cells (.ok ()) value' effects)
      (given : value'.stored? setting.ledger = some stored) :
      PutsItem setting cells table key value (.ok ()) value'
        (effects ++ [.write (.put (table.itemKey key) stored.encode)])

/-- How an item is removed. -/
inductive DeletesItem (setting : Setting) (table : Table) (key : Bytes) :
    Except StoreError Unit → List Effect → Prop
  | refused {error : StorageError} (fails : setting.writesFail = true) :
      DeletesItem setting table key (.error (.storage error)) []
  | deleted : DeletesItem setting table key (.ok ()) [.write (.delete (table.itemKey key))]

/-- How an entry is set through a handle. -/
inductive SetsItem (setting : Setting) (cells : KeySpace) (map : MapHandle) (key : Bytes)
    (value : Value) : Except StoreError Unit → MapHandle → Value → List Effect → Prop
  | unbound {error : StoreError} {binding : Binding} {effects : List Effect}
      (bind : map.binding.Binds setting cells (.error error) binding effects) :
      SetsItem setting cells map key value (.error error) ⟨map.owner, binding⟩ value effects
  | set {id : InstanceId} {binding : Binding} {first later : List Effect}
      {result : Except StoreError Unit} {value' : Value}
      (bind : map.binding.Binds setting cells (.ok id) binding first)
      (entry : SetsEntry setting (applyAll cells first) id key value
        (value.Binds setting (applyAll cells first)) result value' later) :
      SetsItem setting cells map key value result ⟨map.owner, binding⟩ value' (first ++ later)

section Programs
variable [Surface σ] [LawfulSurface σ] {s t : σ}
open LawfulSurface (Sound view setting)

theorem putItem_spec {table : Table} {key : Bytes} {value value' : Value}
    {result : Except StoreError Unit} (hs : Sound s)
    (h : Returns (table.putItem key value : StateM σ _) s (result, value') t) :
    ∃ effects, Reached s effects t ∧
      PutsItem (setting s) (view s) table key value result value' effects := by
  obtain ⟨⟨bound, value''⟩, u, bind, rest⟩ := h.bind
  obtain ⟨effects, reached, binds⟩ := value.bind_spec hs bind
  cases bound with
  | error error =>
    obtain ⟨he, rfl⟩ := rest.pure
    cases he
    exact ⟨_, reached, .failed binds⟩
  | ok _ =>
    obtain ⟨stored, w, store, rest⟩ := rest.bind
    obtain ⟨he, rfl⟩ := rest.pure
    cases he
    replace store := Ends.bind_get store
    rw [← LawfulSurface.setting_ledger, reached.setting] at store
    cases hv : value'.stored? (setting s).ledger with
    | none =>
      rw [Value.encode, hv] at store
      obtain ⟨rfl, rfl⟩ := Ends.throw store
      exact ⟨_, reached, .unbound binds hv⟩
    | some stored =>
      rw [Value.encode, hv] at store
      obtain ⟨rfl, written⟩ | ⟨fails, refused, error, rfl⟩ := reached_put reached.sound store
      · exact ⟨_, reached.trans written, .stored binds hv⟩
      · rw [reached.setting] at fails
        have whole := reached.trans refused
        rw [List.append_nil] at whole
        exact ⟨_, whole, .refused binds fails⟩

theorem deleteItem_spec {table : Table} {key : Bytes} {result : Except StoreError Unit}
    (hs : Sound s) (h : Ends (table.deleteItem key : Action σ Unit) s result t) :
    ∃ effects, Reached s effects t ∧ DeletesItem (setting s) table key result effects := by
  have performed : Ends (Surface.perform (.delete (table.itemKey key))) s result t := h
  obtain ⟨rfl, reached⟩ | ⟨fails, reached, error, rfl⟩ := reached_perform hs performed
  · exact ⟨_, reached, .deleted⟩
  · exact ⟨_, reached, .refused fails⟩

theorem setItem_spec {map map' : MapHandle} {key : Bytes} {value value' : Value}
    {result : Except StoreError Unit} (hs : Sound s)
    (h : Returns (map.setItem key value : StateM σ _) s (result, map', value') t) :
    ∃ effects, Reached s effects t ∧
      SetsItem (setting s) (view s) map key value result map' value' effects := by
  obtain ⟨⟨bound, binding⟩, u, bind, rest⟩ := h.bind
  obtain ⟨first, reached, binds⟩ := map.binding.bind_spec hs bind
  cases bound with
  | error error =>
    obtain ⟨he, rfl⟩ := rest.pure
    cases he
    exact ⟨_, reached, .unbound binds⟩
  | ok id =>
    obtain ⟨⟨stored, value''⟩, v, set, rest⟩ := rest.bind
    obtain ⟨he, rfl⟩ := rest.pure
    cases he
    obtain ⟨later, went, sets⟩ := setEntryWith_spec (fun setting => value.Binds setting)
      (fun hs hv => value.bind_spec hs hv) reached.sound set
    rw [reached.setting, reached.view] at sets
    exact ⟨_, reached.trans went, .set binds sets⟩

end Programs

end NestedStore
