import NestedStore.Proofs.Dictionaries
import NestedStore.Proofs.Session

/-! # Ideal sessions

An ideal session makes the calls of a session on dictionaries. It knows no cells, and what it has in
a batch is simply another state of the dictionaries, which takes the place of the one that everybody
sees when the batch is applied. Mutations only add to what they see (`Ideal.grows_run`), and nothing
refers to a map that was not made (`Ideal.Closed`). -/
namespace NestedStore

/-! ## Ideal sessions -/

/-- A program at work on dictionaries. -/
structure Ideal where
  database : DatabaseId
  /-- What everybody sees. -/
  held : Dictionaries
  /-- What the open batch makes of it. -/
  draft? : Option Dictionaries
  registers : Register → Option Value
  snapshots : Nat → Option Dictionaries

namespace Ideal

/-- A program that has nothing in hand yet. -/
def start (database : DatabaseId) : Ideal :=
  ⟨database, .empty, none, fun _ => none, fun _ => none⟩

/-- What mutations see. -/
def view (ideal : Ideal) : Dictionaries := ideal.draft?.getD ideal.held

/-- Keeps a value, or lets go of one. -/
def keep (register : Register) (value? : Option Value) (ideal : Ideal) : Ideal :=
  { ideal with
    registers := fun other => if other = register then value? else ideal.registers other }

/-- The map that is kept under a name. -/
def map? (ideal : Ideal) (register : Register) : Option MapHandle :=
  (ideal.registers register).bind Value.asMap?

/-- The session once mutations see something else. -/
def become (later : Dictionaries) (ideal : Ideal) : Ideal :=
  match ideal.draft? with
  | none => { ideal with held := later }
  | some _ => { ideal with draft? := some later }

/-- Changes what everybody sees when no batch is open, or what the open batch makes of it. -/
def write {α : Type} (batched : Bool) (change : Dictionaries → α × Dictionaries) (ideal : Ideal) :
    Option (α × Ideal) :=
  if ideal.draft?.isSome = batched then
    some ((change ideal.view).1, ideal.become (change ideal.view).2)
  else none

/-- Makes a mutation. -/
def mutate (batched : Bool) (ideal : Ideal) : Mutation → Answer × Ideal
  | .putItem tablePrefix key register =>
    match ideal.registers register with
    | some value =>
      if Layout.separator ∈ tablePrefix then (.failed (.invalidTablePrefix tablePrefix), ideal)
      else
        match ideal.write batched (·.putItem tablePrefix key value) with
        | some (stored, later) =>
          (.done, later.keep register (some (.ofStored ideal.database stored)))
        | none => (.refused, ideal)
    | none => (.refused, ideal)
  | .deleteItem tablePrefix key =>
    if Layout.separator ∈ tablePrefix then (.failed (.invalidTablePrefix tablePrefix), ideal)
    else
      match ideal.write batched fun dictionaries => ((), dictionaries.put tablePrefix key none) with
      | some ((), later) => (.done, later)
      | none => (.refused, ideal)
  | .setItem mapRegister key register =>
    match ideal.map? mapRegister, ideal.registers register with
    | some map, some value =>
      if register = mapRegister then (.refused, ideal)
      else
        match ideal.write batched (·.setItem map.binding key value) with
        | some ((id, stored), later) =>
          (.done, (later.keep mapRegister (some (.ofMap (.onInstance map.owner id)))).keep register
            (some (.ofStored ideal.database stored)))
        | none => (.refused, ideal)
    | _, _ => (.refused, ideal)

/-- Keeps what was found in a dictionary. -/
def found (found? : Option StoredValue) (into : Register) (ideal : Ideal) : Answer × Ideal :=
  match found? with
  | some stored => (.done, ideal.keep into (some (.ofStored ideal.database stored)))
  | none => (.absent, ideal)

/-- Makes a call. Discarding a batch and failing are not among the things that happen here. -/
def perform (ideal : Ideal) : Call → Answer × Ideal
  | .bytes payload into => (.done, ideal.keep into (some (.bytes payload)))
  | .newMap into => (.done, ideal.keep into (some (.ofMap (.new ideal.database))))
  | .clone source into =>
    match ideal.registers source with
    | some value => (.done, ideal.keep into (some value))
    | none => (.refused, ideal)
  | .stage mapRegister key register =>
    match ideal.map? mapRegister, ideal.registers register with
    | some map, some value =>
      if register = mapRegister then (.refused, ideal)
      else
        match map.binding with
        | .unbound staged =>
          (.done, (ideal.keep mapRegister
            (some (.map map.owner (.unbound (staged.insert key value))))).keep register none)
        | .bound id | .pending id _ _ =>
          (.failed (.invalidOperation (.stagingOnPersisted id)), ideal.keep register none)
    | _, _ => (.refused, ideal)
  | .mutate batched mutation => ideal.mutate batched mutation
  | .openBatch =>
    match ideal.draft? with
    | none => (.done, { ideal with draft? := some ideal.held })
    | some _ => (.refused, ideal)
  | .apply =>
    match ideal.draft? with
    | some draft => (.done, { ideal with held := draft, draft? := none })
    | none => (.refused, ideal)
  | .snap into =>
    (.done, { ideal with
      snapshots := fun other => if other = into then some ideal.held else ideal.snapshots other })
  | .getItem name tablePrefix key into =>
    match ideal.snapshots name with
    | some dictionaries =>
      if Layout.separator ∈ tablePrefix then (.failed (.invalidTablePrefix tablePrefix), ideal)
      else ideal.found (dictionaries.items tablePrefix key) into
    | none => (.refused, ideal)
  | .getEntry name mapRegister key into =>
    match ideal.snapshots name, ideal.map? mapRegister with
    | some dictionaries, some map =>
      match map.binding with
      | .unbound _ => (.failed (.consistency (.neverPersisted .getItem)), ideal)
      | .bound id | .pending id _ _ =>
        ideal.found ((dictionaries.map? id).bind fun entries => entries[key]?) into
    | _, _ => (.refused, ideal)
  | .discard | .befall _ => (.refused, ideal)

/-- Makes calls in order: what each answers, and the session after them. -/
def run (ideal : Ideal) : List Call → List Answer × Ideal
  | [] => ([], ideal)
  | call :: calls =>
    let (answer, next) := ideal.perform call
    let (answers, last) := next.run calls
    (answer :: answers, last)

/-! ### What mutations see only grows -/

variable {ideal : Ideal}

theorem view_of_none (free : ideal.draft? = none) : ideal.view = ideal.held := by
  rw [view, free]
  rfl

theorem view_of_some {draft : Dictionaries} (opened : ideal.draft? = some draft) :
    ideal.view = draft := by
  rw [view, opened]
  rfl

@[simp] theorem view_become (later : Dictionaries) : (ideal.become later).view = later := by
  unfold become view
  cases draft : ideal.draft? <;> simp

@[simp] theorem isSome_become (later : Dictionaries) :
    (ideal.become later).draft?.isSome = ideal.draft?.isSome := by
  unfold become
  split
  · next draft => rw [draft]
  · next draft => rw [draft]; rfl

@[simp] theorem database_become (later : Dictionaries) :
    (ideal.become later).database = ideal.database := by
  unfold become
  split <;> rfl

@[simp] theorem registers_become (later : Dictionaries) :
    (ideal.become later).registers = ideal.registers := by
  unfold become
  split <;> rfl

@[simp] theorem snapshots_become (later : Dictionaries) :
    (ideal.become later).snapshots = ideal.snapshots := by
  unfold become
  split <;> rfl

@[simp] theorem view_keep (register : Register) (value? : Option Value) :
    (ideal.keep register value?).view = ideal.view := rfl

/-- To keep what is kept changes nothing. -/
theorem keep_self {register : Register} {value : Value}
    (given : ideal.registers register = some value) : ideal.keep register (some value) = ideal := by
  obtain ⟨database, held, draft?, registers, snapshots⟩ := ideal
  refine congrArg (Ideal.mk database held draft? · snapshots) (funext fun other => ?_)
  by_cases same : other = register
  · rw [if_pos same, same]
    exact given.symm
  · rw [if_neg same]

@[simp] theorem draft?_keep (register : Register) (value? : Option Value) :
    (ideal.keep register value?).draft? = ideal.draft? := rfl

@[simp] theorem draft?_found (found? : Option StoredValue) (into : Register) :
    (ideal.found found? into).2.draft? = ideal.draft? := by
  cases found? <;> rfl

@[simp] theorem view_found (found? : Option StoredValue) (into : Register) :
    (ideal.found found? into).2.view = ideal.view := by
  cases found? <;> rfl

theorem write_of_mode {α : Type} {batched : Bool} (mode : ideal.draft?.isSome = batched)
    (change : Dictionaries → α × Dictionaries) :
    ideal.write batched change =
      some ((change ideal.view).1, ideal.become (change ideal.view).2) := if_pos mode

theorem write_of_other {α : Type} {batched : Bool} (mode : ideal.draft?.isSome ≠ batched)
    (change : Dictionaries → α × Dictionaries) : ideal.write batched change = none := if_neg mode

/-- In the other mode nothing is done. -/
theorem mutate_of_other {batched : Bool} (mode : ideal.draft?.isSome ≠ batched)
    (mutation : Mutation) : (ideal.mutate batched mutation).2 = ideal := by
  cases mutation <;> simp only [mutate, write_of_other mode] <;> repeat' split
  all_goals rfl

/-- Staging is what it is for a handle that shows all there is to it. -/
theorem perform_stage {mapRegister register : Register} {key : Bytes} {map : MapHandle}
    {value : Value} (held : ideal.map? mapRegister = some map)
    (given : ideal.registers register = some value) (differ : register ≠ mapRegister) :
    ideal.perform (.stage mapRegister key register) =
      (.ofResult (map.staging .empty key value).1,
        (ideal.keep mapRegister (some (.ofMap (map.staging .empty key value).2))).keep register
          none) := by
  have kept : ideal.registers mapRegister = some (.ofMap map) := by
    obtain ⟨value, here, same⟩ := Option.bind_eq_some_iff.mp held
    cases value <;> cases same
    exact here
  obtain ⟨owner, binding⟩ := map
  unfold perform
  dsimp only
  rw [held, given]
  dsimp only
  rw [if_neg differ]
  cases binding with
  | unbound staged => rfl
  | bound id =>
    have same : MapHandle.staging .empty key value ⟨owner, .bound id⟩ =
        (.error (.invalidOperation (.stagingOnPersisted id)), ⟨owner, .bound id⟩) := rfl
    rw [same, keep_self kept]
    rfl
  | pending id batch staged =>
    have same : MapHandle.staging .empty key value ⟨owner, .pending id batch staged⟩ =
        (.error (.invalidOperation (.stagingOnPersisted id)), ⟨owner, .pending id batch staged⟩) := by
      simp [MapHandle.staging, Binding.settled, Ledger.outcome, Ledger.empty]
    rw [same, keep_self kept]
    rfl

theorem grows_mutate (ideal : Ideal) (batched : Bool) (mutation : Mutation) :
    ideal.view.Grows (ideal.mutate batched mutation).2.view := by
  by_cases mode : ideal.draft?.isSome = batched
  · cases mutation with
    | putItem tablePrefix key register =>
      simp only [mutate, write_of_mode mode]
      split
      · next value _ =>
        split
        · exact .refl _
        · simpa using ideal.view.grows_putItem tablePrefix key value
      · exact .refl _
    | deleteItem tablePrefix key =>
      simp only [mutate, write_of_mode mode]
      split
      · exact .refl _
      · simpa using ideal.view.grows_put tablePrefix key none
    | setItem mapRegister key register =>
      simp only [mutate, write_of_mode mode]
      split
      · next map value _ _ =>
        split
        · exact .refl _
        · simpa using ideal.view.grows_setItem map.binding key value
      · exact .refl _
  · rw [mutate_of_other mode]
    exact .refl _

theorem grows_perform (ideal : Ideal) (call : Call) :
    ideal.view.Grows (ideal.perform call).2.view := by
  cases call with
  | mutate batched mutation => exact ideal.grows_mutate batched mutation
  | bytes | newMap | snap | discard | befall => exact .refl _
  | clone | stage | getItem | getEntry =>
    simp only [perform]
    repeat' split
    all_goals simp [Dictionaries.Grows.refl]
  | openBatch | apply =>
    simp only [perform]
    split
    · next draft => simp [view, draft, Dictionaries.Grows.refl]
    · exact .refl _

theorem grows_run (ideal : Ideal) (calls : List Call) :
    ideal.view.Grows (ideal.run calls).2.view := by
  induction calls generalizing ideal with
  | nil => exact .refl _
  | cons call calls ih => exact (ideal.grows_perform call).trans (ih (ideal.perform call).2)

/-! ### Nothing refers to a map that was not made -/

/-- What is held, what is read from, and what is in hand leads to maps that were made. -/
structure Closed (ideal : Ideal) : Prop where
  held : ideal.held.Closed
  view : ideal.view.Closed
  grown : ideal.held.Grows ideal.view
  registers : ∀ {register value}, ideal.registers register = some value →
    value.Every ideal.view.HasMade
  snapshots : ∀ {name dictionaries}, ideal.snapshots name = some dictionaries →
    dictionaries.Closed ∧ dictionaries.Grows ideal.held

theorem Closed.keep (h : ideal.Closed) (register : Register) (value? : Option Value)
    (known : ∀ {value}, value? = some value → value.Every ideal.view.HasMade) :
    (ideal.keep register value?).Closed where
  held := h.held
  view := h.view
  grown := h.grown
  snapshots := h.snapshots
  registers {name value} given := by
    dsimp only [Ideal.keep] at given
    split at given
    · exact known given
    · exact h.registers given

theorem Closed.become (h : ideal.Closed) {later : Dictionaries} (closed : later.Closed)
    (grows : ideal.view.Grows later) : (ideal.become later).Closed := by
  have registers {register value} (given : (ideal.become later).registers register = some value) :
      value.Every (ideal.become later).view.HasMade := by
    rw [registers_become] at given
    rw [view_become]
    exact Value.Every.imp (Dictionaries.HasMade.mono grows) (h.registers given)
  have view : (ideal.become later).view.Closed := by
    rw [view_become]
    exact closed
  cases draft : ideal.draft? with
  | none =>
    have same := view_of_none draft
    have becomes : ideal.become later = { ideal with held := later } := by
      rw [Ideal.become, draft]
    rw [same] at grows
    rw [becomes] at registers view ⊢
    refine ⟨closed, view, ?_, registers, fun taken => ?_⟩
    · rw [Ideal.view, draft]
      exact .refl _
    · obtain ⟨closed, before⟩ := h.snapshots taken
      exact ⟨closed, before.trans grows⟩
  | some dictionaries =>
    have becomes : ideal.become later = { ideal with draft? := some later } := by
      rw [Ideal.become, draft]
    rw [becomes] at registers view ⊢
    exact ⟨h.held, view, h.grown.trans grows, registers, h.snapshots⟩

/-- A handle in hand is on a map that was made, and so is everything staged in it. -/
theorem Closed.map (h : ideal.Closed) {register : Register} {map : MapHandle}
    (held : ideal.map? register = some map) : map.binding.Every ideal.view.HasMade := by
  obtain ⟨value, given, same⟩ := Option.bind_eq_some_iff.mp held
  have known := h.registers given
  cases value <;> cases same
  exact known

theorem every_ofStored {dictionaries : Dictionaries} {stored : StoredValue}
    (known : dictionaries.Knows stored) (database : DatabaseId) :
    (Value.ofStored database stored).Every dictionaries.HasMade := by
  cases stored with
  | bytes payload => trivial
  | reference id => exact known

theorem Closed.found (h : ideal.Closed) {found? : Option StoredValue}
    (known : ∀ {stored}, found? = some stored → ideal.view.Knows stored) (into : Register) :
    (ideal.found found? into).2.Closed := by
  cases found? with
  | none => exact h
  | some stored =>
    refine h.keep into _ fun same => ?_
    cases same
    exact every_ofStored (known rfl) _

theorem Closed.mutate (h : ideal.Closed) {batched : Bool} {mutation : Mutation}
    (fits : (ideal.mutate batched mutation).2.view.Fits) :
    (ideal.mutate batched mutation).2.Closed := by
  by_cases mode : ideal.draft?.isSome = batched
  · cases mutation with
    | putItem tablePrefix key register =>
      simp only [Ideal.mutate, write_of_mode mode] at fits ⊢
      cases given : ideal.registers register with
      | none => exact h
      | some value =>
        simp only [given] at fits ⊢
        by_cases zero : Layout.separator ∈ tablePrefix
        · rw [if_pos zero]
          exact h
        · rw [if_neg zero] at fits ⊢
          simp only [view_keep, view_become] at fits
          obtain ⟨closed, known⟩ := h.view.putItem (h.registers given) fits
          refine (h.become closed (ideal.view.grows_putItem ..)).keep register _ fun same => ?_
          rw [view_become, ← Option.some.inj same]
          exact every_ofStored known _
    | deleteItem tablePrefix key =>
      simp only [Ideal.mutate, write_of_mode mode]
      by_cases zero : Layout.separator ∈ tablePrefix
      · rw [if_pos zero]
        exact h
      · rw [if_neg zero]
        exact h.become (h.view.put tablePrefix key none nofun) (ideal.view.grows_put ..)
    | setItem mapRegister key register =>
      simp only [Ideal.mutate, write_of_mode mode] at fits ⊢
      cases held : ideal.map? mapRegister with
      | none => exact h
      | some map =>
        cases given : ideal.registers register with
        | none => exact h
        | some value =>
          simp only [held, given] at fits ⊢
          by_cases itself : register = mapRegister
          · rw [if_pos itself]
            exact h
          · rw [if_neg itself] at fits ⊢
            simp only [view_keep, view_become] at fits
            obtain ⟨closed, made, known⟩ := h.view.setItem (h.map held) (h.registers given) fits
            have became := h.become closed (ideal.view.grows_setItem ..)
            refine (became.keep mapRegister _ fun same => ?_).keep register _ fun same => ?_
            · rw [view_become, ← Option.some.inj same]
              exact made
            · rw [view_keep, view_become, ← Option.some.inj same]
              exact every_ofStored known _
  · rw [mutate_of_other mode]
    exact h

/-- Staging puts into a handle what was in hand. -/
theorem Closed.stage (h : ideal.Closed) {mapRegister register : Register} {key : Bytes} :
    (ideal.perform (.stage mapRegister key register)).2.Closed := by
  unfold Ideal.perform
  dsimp only
  cases held : ideal.map? mapRegister with
  | none => exact h
  | some map =>
    cases given : ideal.registers register with
    | none => exact h
    | some value =>
      by_cases itself : register = mapRegister
      · simp only [if_pos itself]
        exact h
      · have mine := h.map held
        simp only [if_neg itself]
        cases binding : map.binding with
        | bound id | pending id _ _ => exact h.keep register none (by rintro _ ⟨⟩)
        | unbound staged =>
          rw [binding] at mine
          refine (h.keep mapRegister _ fun same => ?_).keep register none (by rintro _ ⟨⟩)
          rw [← Option.some.inj same]
          exact Staged.Every.insert (h.registers given) mine

theorem Closed.openBatch (h : ideal.Closed) : (ideal.perform .openBatch).2.Closed := by
  simp only [Ideal.perform]
  split
  · next draft =>
    have same := view_of_none draft
    refine ⟨h.held, h.held, .refl _, fun given => ?_, h.snapshots⟩
    exact same ▸ h.registers given
  · exact h

theorem Closed.apply (h : ideal.Closed) : (ideal.perform .apply).2.Closed := by
  simp only [Ideal.perform]
  split
  · next dictionaries draft =>
    have same := view_of_some draft
    refine ⟨same ▸ h.view, same ▸ h.view, .refl _, fun given => ?_, fun taken => ?_⟩
    · exact same ▸ h.registers given
    · obtain ⟨closed, before⟩ := h.snapshots taken
      exact ⟨closed, before.trans (same ▸ h.grown)⟩
  · exact h

theorem Closed.snap (h : ideal.Closed) (into : Nat) : (ideal.perform (.snap into)).2.Closed := by
  refine ⟨h.held, h.view, h.grown, h.registers, fun {name dictionaries} taken => ?_⟩
  dsimp only [Ideal.perform] at taken
  split at taken
  · cases taken
    exact ⟨h.held, .refl _⟩
  · exact h.snapshots taken

theorem Closed.getItem (h : ideal.Closed) {name : Nat} {tablePrefix key : Bytes}
    {into : Register} : (ideal.perform (.getItem name tablePrefix key into)).2.Closed := by
  simp only [Ideal.perform]
  split
  · next dictionaries taken =>
    split
    · exact h
    · obtain ⟨closed, before⟩ := h.snapshots taken
      exact h.found (fun found => (closed.items found).mono (before.trans h.grown)) into
  · exact h

theorem Closed.getEntry (h : ideal.Closed) {name : Nat} {mapRegister into : Register}
    {key : Bytes} : (ideal.perform (.getEntry name mapRegister key into)).2.Closed := by
  simp only [Ideal.perform]
  split
  · next dictionaries map taken _ =>
    obtain ⟨closed, before⟩ := h.snapshots taken
    have entered {id : InstanceId} {stored : StoredValue}
        (found : ((dictionaries.map? id).bind fun entries => entries[key]?) = some stored) :
        ideal.view.Knows stored := by
      obtain ⟨entries, made, here⟩ := Option.bind_eq_some_iff.mp found
      exact (closed.entries made here).mono (before.trans h.grown)
    split
    · exact h
    all_goals exact h.found entered into
  · exact h

/-- **No call makes anything refer to a map that was not made.** -/
theorem Closed.perform (h : ideal.Closed) {call : Call} (fits : (ideal.perform call).2.view.Fits) :
    (ideal.perform call).2.Closed := by
  cases call with
  | mutate batched mutation => exact h.mutate fits
  | stage => exact h.stage
  | openBatch => exact h.openBatch
  | apply => exact h.apply
  | snap into => exact h.snap into
  | getItem => exact h.getItem
  | getEntry => exact h.getEntry
  | discard | befall => exact h
  | bytes payload into =>
    refine h.keep into _ fun same => ?_
    cases same
    trivial
  | newMap into =>
    refine h.keep into _ fun same => ?_
    cases same
    trivial
  | clone source into =>
    simp only [Ideal.perform]
    split
    · next value given =>
      refine h.keep into _ fun same => ?_
      cases same
      exact h.registers given
    · exact h

theorem Closed.run (h : ideal.Closed) {calls : List Call} (fits : (ideal.run calls).2.view.Fits) :
    (ideal.run calls).2.Closed := by
  induction calls generalizing ideal with
  | nil => exact h
  | cons call calls ih =>
    have fitted := ((ideal.perform call).2.grows_run calls).fits fits
    exact ih (h.perform fitted) fits

end Ideal

/-- Whether the call is one that an ideal session makes: nothing is discarded, and nothing
befalls the engine. -/
def Call.isLasting : Call → Bool
  | discard | befall _ => false
  | _ => true

end NestedStore
