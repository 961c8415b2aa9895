import Mathlib.Data.List.Induction
import Mathlib.Data.List.Nodup
import Mathlib.Data.List.Pairwise
import NestedStore.Proofs.Session.Places

/-! # Where an instance comes from

Instances are handed out with ascending numbers, and what is handed out in a batch that is then
discarded may be handed out again (`Numbered`). It is safe to do so because whatever leads to an
instance descends from the one time that it was handed out for good: no handle remembers what was
discarded, wherever it was copied or staged meanwhile (`handles_never_dangle_nor_alias`). -/
namespace NestedStore

/-- An instance was handed out. -/
structure Birth where
  /-- How many calls were made before. -/
  call : Nat
  batch? : Option BatchId
  id : InstanceId

namespace Session

/-- The session after calls. -/
def after (session : Session) (calls : List Call) : Session := (session.run calls).2

/-- What a call hands out, in order. -/
def births (session : Session) (position : Nat) (call : Call) : List Birth :=
  (session.born call).map fun id => ⟨position, session.batch?.map Batch.id, id⟩

/-- What calls hand out, in order. -/
def birthsIn (session : Session) (position : Nat) : List Call → List Birth
  | [] => []
  | call :: calls =>
    session.births position call ++ (session.perform call).2.birthsIn (position + 1) calls

/-- What leads to an instance after calls descends from the time that it was handed out: the call
that handed it out put it there, or a later one passed it on. -/
inductive Descends (origin : Session) (birth : Birth) : List Call → Place → Prop
  | born {calls : List Call} {call : Call} {place : Place}
      (here : birth ∈ (origin.after calls).births calls.length call)
      (before : ¬ (origin.after calls).LeadsTo place birth.id)
      (now : (origin.after (calls ++ [call])).LeadsTo place birth.id) :
      Descends origin birth (calls ++ [call]) place
  | passed {calls : List Call} {call : Call} {source place : Place}
      (before : Descends origin birth calls source)
      (passes : (origin.after calls).Passes (origin.after (calls ++ [call])) call
        ((origin.after calls).perform call).1 source place)
      (now : (origin.after (calls ++ [call])).LeadsTo place birth.id) :
      Descends origin birth (calls ++ [call]) place

theorem after_concat (origin : Session) (calls : List Call) (call : Call) :
    origin.after (calls ++ [call]) = ((origin.after calls).perform call).2 :=
  (run_append origin calls [call]).1

theorem birthsIn_concat (session : Session) (position : Nat) (calls : List Call) (call : Call) :
    session.birthsIn position (calls ++ [call]) =
      session.birthsIn position calls ++
        (session.after calls).births (position + calls.length) call := by
  induction calls generalizing session position with
  | nil => exact List.append_nil _
  | cons first calls ih =>
    have shifted : position + (first :: calls).length = position + 1 + calls.length := by
      rw [List.length_cons]
      omega
    rw [List.cons_append, birthsIn, ih, shifted, birthsIn, List.append_assoc]
    rfl

/-! ## Numbers -/

variable {session next : Session} {call : Call} {answer : Answer} {births : List Birth}
  {owed : List InstanceId}

/-- What a call that mutates nothing does to the cells and the open batch. -/
inductive Moves (session next : Session) : Prop
  | still (contents : next.contents = session.contents) (view : next.view = session.view)
      (outcomes : ∀ batch, next.store.ledger.outcome batch = session.store.ledger.outcome batch)
      (keeps : ∀ {batch}, session.batch? = some batch →
        ∃ later, next.batch? = some later ∧ later.id = batch.id)
  | dropped {batch : Batch} (held : session.batch? = some batch) (closed : next.batch? = none)
      (contents : next.contents = session.contents)
      (concludes : session.store.ledger.Concludes next.store.ledger batch.id .discarded)
  | taken {batch : Batch} (held : session.batch? = some batch) (closed : next.batch? = none)
      (cells : next.contents.cells = batch.after)
      (concludes : session.store.ledger.Concludes next.store.ledger batch.id .applied)

theorem Performs.moves (h : session.Performs call answer next) (hs : session.Sound)
    (orderly : session.Orderly owed) (plain : Plain call) : session.Moves next := by
  have still {next : Session} (contents : next.contents = session.contents)
      (batch? : next.batch? = session.batch?)
      (ledger : next.store.ledger = session.store.ledger) : session.Moves next := by
    refine .still contents ?_ (fun batch => congrArg (Ledger.outcome · batch) ledger)
      fun held => ⟨_, batch? ▸ held, rfl⟩
    rw [view, view, batch?, contents]
  cases h with
  | mutate => exact absurd rfl (plain _ _)
  | stage _ _ _ looked | found _ _ _ looked | nothing looked =>
    exact still (looked.contents hs) rfl looked.ledger
  | openBatch free =>
    have contents := congrArg (·.engine.contents) (space_openBatch hs)
    have noBatch {batch : Batch} (held : session.batch? = some batch) : False := by
      cases (orderly.batch held).locked.symm.trans free
    refine .still contents ?_ (fun batch => Ledger.outcome_openNext _ batch)
      fun held => (noBatch held).elim
    cases held : session.batch? with
    | none => exact (view_atOnce held).symm
    | some batch => exact (noBatch held).elim
  | @apply batch space result held ends =>
    obtain ⟨engine, ledger, _, rfl⟩ := Batch.apply_spec ends
    have tended := orderly.batch held
    have concludes := Ledger.concludes tended.known tended.undecided
    have contents := contents_applied hs space
    rw [engine] at contents
    rcases (session.space.engine.write_spec batch.writes).outcome with
      ⟨taken, after⟩ | ⟨_, after, error, refused⟩
    · rw [taken] at ledger
      replace ledger : space.ledger = session.store.ledger.conclude batch.id .applied := ledger
      have pinned : session.space.engine.contents = batch.snapshot.contents := tended.pinned.symm
      rw [after, pinned] at contents
      refine .taken held rfl ((congrArg Contents.cells contents).trans batch.cells_taken) ?_
      have conclusion := concludes .applied
      rw [← ledger] at conclusion
      exact conclusion
    · rw [refused] at ledger
      replace ledger : space.ledger = session.store.ledger.conclude batch.id .discarded := ledger
      refine .dropped held rfl (contents.trans after) ?_
      have conclusion := concludes .discarded
      rw [← ledger] at conclusion
      exact conclusion
  | discard held =>
    have tended := orderly.batch held
    exact .dropped held rfl (congrArg (·.engine.contents) (space_discarded hs held))
      (Ledger.concludes tended.known tended.undecided .discarded)
  | befall => exact still (congrArg (·.engine.contents) (space_befall hs _)) rfl rfl
  | _ => exact still rfl rfl rfl

/-- What was handed out has ascending numbers, as far as it was not discarded, all below the next
one. -/
structure Numbered (session : Session) (births : List Birth) : Prop where
  ascending : births.Pairwise fun first later => session.Stands first.batch? →
    session.Stands later.batch? → first.id.val < later.id.val
  below : ∀ birth ∈ births, session.Stands birth.batch? →
    birth.id.val.toNat < nextNumber session.view
  settled : ∀ birth ∈ births, session.store.ledger.awaited? birth.batch? = some none →
    birth.id.val.toNat < nextNumber session.contents.cells
  waiting : ∀ birth ∈ births, ∀ {batch},
    session.store.ledger.awaited? birth.batch? = some (some batch) →
      ∃ held, session.batch? = some held ∧ held.id = batch

/-- What was handed out stands on nothing, or on the open batch. -/
theorem Numbered.awaits (h : session.Numbered births) {birth : Birth} (member : birth ∈ births)
    (stands : session.Stands birth.batch?) :
    session.store.ledger.awaited? birth.batch? = some none ∨
      ∃ batch, session.batch? = some batch ∧ birth.batch? = some batch.id := by
  cases awaits : session.store.ledger.awaited? birth.batch? with
  | none => exact absurd awaits stands
  | some waiting =>
    cases waiting with
    | none => exact .inl rfl
    | some batch =>
      obtain ⟨held, opened, rfl⟩ := h.waiting birth member awaits
      exact .inr ⟨held, opened, (Ledger.eq_of_awaited? awaits).1⟩

/-- The number of an instance tells when it was handed out for good. -/
theorem Numbered.eq_of_id (h : session.Numbered births) {birth other : Birth}
    (member : birth ∈ births) (member' : other ∈ births) (stands : session.Stands birth.batch?)
    (stands' : session.Stands other.batch?) (same : birth.id = other.id) : birth = other := by
  let Determined (birth other : Birth) : Prop := session.Stands birth.batch? →
    session.Stands other.batch? → birth.id = other.id → birth = other
  have determined : births.Pairwise Determined := by
    refine h.ascending.imp fun less stands stands' same => absurd (less stands stands') ?_
    rw [same]
    exact UInt64.lt_irrefl _
  have : Std.Symm Determined :=
    ⟨fun _ _ determined stands' stands same => (determined stands stands' same.symm).symm⟩
  exact determined.forall_of_forall (fun _ _ _ _ _ => rfl) member member' stands stands' same

theorem Numbered.moves (h : session.Numbered births) (moves : session.Moves next)
    (decides : session.store.ledger.Decides next.store.ledger) : next.Numbered births := by
  have ascending : births.Pairwise fun first later => next.Stands first.batch? →
      next.Stands later.batch? → first.id.val < later.id.val :=
    h.ascending.imp fun less stands stands' => less (decides.stands stands) (decides.stands stands')
  have stood {birth : Birth} (settled : next.store.ledger.awaited? birth.batch? = some none) :
      session.Stands birth.batch? := decides.stands (by rw [Ledger.Stands, settled]; rintro ⟨⟩)
  -- A batch that is decided leaves nothing that waits for one.
  have decided {batch : Batch} {outcome : Outcome} (held : session.batch? = some batch)
      (concludes : session.store.ledger.Concludes next.store.ledger batch.id outcome)
      (final : outcome ≠ .undecided) {birth : Birth} (member : birth ∈ births) {waiting : BatchId}
      (awaits : next.store.ledger.awaited? birth.batch? = some (some waiting)) : False := by
    obtain ⟨made, undecided⟩ := Ledger.eq_of_awaited? awaits
    have stands : next.Stands birth.batch? := by
      rw [Stands, Ledger.Stands, awaits]
      rintro ⟨⟩
    rcases h.awaits member (decides.stands stands) with settled | ⟨_, opened, mine⟩
    · rw [decides.settled settled] at awaits
      cases awaits
    · cases held.symm.trans opened
      rw [made] at mine
      cases mine
      exact final (concludes.decided.symm.trans undecided)
  cases moves with
  | still contents view outcomes keeps =>
    refine ⟨ascending, ?_, ?_, ?_⟩
    · intro birth member stands
      rw [view]
      exact h.below birth member (decides.stands stands)
    · intro birth member settled
      rw [contents]
      exact h.settled birth member (by rwa [← Ledger.awaited?_congr outcomes])
    · intro birth member batch awaits
      rw [Ledger.awaited?_congr outcomes] at awaits
      obtain ⟨held, opened, rfl⟩ := h.waiting birth member awaits
      exact keeps opened
  | @dropped batch held closed contents concludes =>
    have lasting {birth : Birth} (member : birth ∈ births) (stands : next.Stands birth.batch?) :
        birth.id.val.toNat < nextNumber session.contents.cells := by
      rcases h.awaits member (decides.stands stands) with settled | ⟨_, opened, mine⟩
      · exact h.settled birth member settled
      · cases held.symm.trans opened
        refine absurd ?_ stands
        rw [mine]
        simp [Ledger.awaited?, concludes.decided]
    refine ⟨ascending, ?_, ?_, ?_⟩
    · intro birth member stands
      rw [view_atOnce closed, contents]
      exact lasting member stands
    · intro birth member settled
      rw [contents]
      exact lasting member (by rw [Stands, Ledger.Stands, settled]; rintro ⟨⟩)
    · exact fun birth member _ awaits => (decided held concludes (by rintro ⟨⟩) member awaits).elim
  | @taken batch held closed cells concludes =>
    have below {birth : Birth} (member : birth ∈ births) (stands : session.Stands birth.batch?) :
        birth.id.val.toNat < nextNumber next.contents.cells := by
      rw [cells, ← view_later held]
      exact h.below birth member stands
    refine ⟨ascending, ?_, fun birth member settled => below member (stood settled), ?_⟩
    · intro birth member stands
      rw [view_atOnce closed]
      exact below member (decides.stands stands)
    · exact fun birth member _ awaits => (decided held concludes (by rintro ⟨⟩) member awaits).elim

/-- A mutation takes steps, all of them when they are left to the batch. -/
theorem Mutates.steps {batched : Bool} {mutation : Mutation} {effects : List Effect}
    (mutates : session.Mutates batched mutation effects answer next) (h : session.Orderly owed)
    (room : handedOutIn next.store.events + 1 < UInt64.size) :
    ∃ own late, Steps own session.view none effects late := by
  obtain ⟨_, rfl⟩ | ⟨_, own, _, _, _, late, steps, _⟩ := mutates.behaves h room
  · exact ⟨fun _ => False, none, .done _ _⟩
  · exact ⟨own, late, steps⟩

theorem Mutates.view {batched : Bool} {mutation : Mutation} {effects : List Effect}
    (h : session.Mutates batched mutation effects answer next) (hs : session.Sound) :
    next.view = applyAll session.view effects := by
  cases h with
  | refused | illNamed => rfl
  | deleteItem _ wrote _ => exact wrote.view hs
  | putItem _ _ wrote _ | setItem _ _ _ wrote _ =>
    have same := wrote.view hs
    exact same

theorem Leaves.closed {batched : Bool} {effects : List Effect}
    (leaves : session.Leaves batched effects next) (free : session.batch? = none) :
    next.batch? = none := by
  cases opened : next.batch? with
  | none => rfl
  | some later =>
    obtain ⟨_, was, _⟩ := leaves.drafts opened
    cases free.symm.trans was

/-- A mutation takes no number back that was handed out at once. -/
theorem Mutates.nextNumber_committed {batched : Bool} {mutation : Mutation} {effects : List Effect}
    (mutates : session.Mutates batched mutation effects answer next) (hs : session.Sound)
    (grows : nextNumber session.view ≤ nextNumber next.view) :
    nextNumber session.contents.cells ≤ nextNumber next.contents.cells := by
  have leaves := mutates.leaves hs
  cases held : session.batch? with
  | none => rwa [view_atOnce held, view_atOnce (leaves.closed held)] at grows
  | some batch =>
    have still : (if batched then [] else effects) = [] := by
      refine List.eq_nil_iff_forall_not_mem.mpr fun effect member => ?_
      cases batched with
      | true => cases member
      | false =>
        have mode := mutates.mode member
        rw [held] at mode
        cases mode
    rw [leaves.cells, still]
    exact Nat.le_refl _

theorem Numbered.mutates (h : session.Numbered births) (hs : session.Sound)
    (orderly : session.Orderly owed) {batched : Bool} {mutation : Mutation}
    (mutates : session.Mutates batched mutation (session.journal batched mutation) answer next)
    (room : handedOutIn next.store.events + 1 < UInt64.size) (position : Nat) :
    next.Numbered (births ++ session.births position (.mutate batched mutation)) := by
  obtain ⟨own, late, steps⟩ := mutates.steps orderly room
  obtain ⟨ascending, between⟩ := steps.ascending
  have grows := steps.nextNumber_le.1
  rw [← mutates.view hs] at between grows
  have leaves := mutates.leaves hs
  have ledger := leaves.ledger
  have stands (batch? : Option BatchId) : next.Stands batch? = session.Stands batch? := by
    rw [Stands, ledger, Stands]
  have committed := mutates.nextNumber_committed hs grows
  have made {birth : Birth} (member : birth ∈ session.births position (.mutate batched mutation)) :
      birth.batch? = session.batch?.map Batch.id ∧
        birth.id ∈ allocatedIn (session.journal batched mutation) := by
    obtain ⟨id, made, rfl⟩ := List.mem_map.mp member
    exact ⟨rfl, made⟩
  refine ⟨List.pairwise_append.mpr ⟨?_, ?_, ?_⟩, ?_, ?_, ?_⟩
  · simp only [stands]
    exact h.ascending
  · exact List.pairwise_map.mpr (ascending.imp fun less _ _ => less)
  · intro first old later new stood _
    rw [stands] at stood
    have below := h.below first old stood
    have above := (between _ (made new).2).1
    exact UInt64.lt_iff_toNat_lt.mpr (by omega)
  · intro birth member stood
    rcases List.mem_append.mp member with old | new
    · rw [stands] at stood
      exact Nat.lt_of_lt_of_le (h.below birth old stood) grows
    · exact (between _ (made new).2).2
  · intro birth member settled
    rw [ledger] at settled
    rcases List.mem_append.mp member with old | new
    · exact Nat.lt_of_lt_of_le (h.settled birth old settled) committed
    · obtain ⟨mine, allocated⟩ := made new
      rw [mine] at settled
      cases held : session.batch? with
      | none =>
        rw [← view_atOnce (leaves.closed held)]
        exact (between _ allocated).2
      | some batch =>
        have undecided := (orderly.batch held).undecided
        rw [held, Option.map_some, Ledger.awaited?_undecided undecided] at settled
        cases settled
  · intro birth member batch awaits
    rw [ledger] at awaits
    rcases List.mem_append.mp member with old | new
    · obtain ⟨held, opened, rfl⟩ := h.waiting birth old awaits
      exact leaves.keeps opened
    · obtain ⟨same, _⟩ := Ledger.eq_of_awaited? awaits
      rw [(made new).1] at same
      obtain ⟨held, opened, rfl⟩ := Option.map_eq_some_iff.mp same
      exact leaves.keeps opened

theorem Numbered.performs (h : session.Numbered births) (hs : session.Sound)
    (orderly : session.Orderly owed) (call : Call)
    (room : handedOutIn (session.perform call).2.store.events + 1 < UInt64.size) (position : Nat) :
    (session.perform call).2.Numbered (births ++ session.births position call) := by
  by_cases plain : Plain call
  · have performs := perform_spec hs call
    have noneBorn : session.births position call = [] := by
      cases call with
      | mutate => exact absurd rfl (plain _ _)
      | _ => rfl
    rw [noneBorn, List.append_nil]
    exact h.moves (performs.moves hs orderly plain)
      (performs.decides hs fun held => (orderly.batch held).toCurrent)
  · unfold Plain at plain
    push Not at plain
    obtain ⟨batched, mutation, rfl⟩ := plain
    exact h.mutates hs orderly (mutate_spec hs) room position

/-! ## Descent -/

/-- Whatever is named after calls descends from a time that the instance was handed out, which
stands for as long. -/
def Vouched (origin : Session) (calls : List Call) : Prop :=
  ∀ {place : Place} {batch? : Option BatchId} {id : InstanceId},
    (origin.after calls).Names place batch? id → (origin.after calls).Stands batch? →
      ∃ birth ∈ origin.birthsIn 0 calls, birth.id = id ∧
        (origin.after calls).store.ledger.Outlasts birth.batch? batch? ∧
        origin.Descends birth calls place

/-- No place leads to an instance before it is handed out. -/
theorem Vouched.unknown {origin : Session} {calls : List Call} (h : origin.Vouched calls)
    (numbered : (origin.after calls).Numbered (origin.birthsIn 0 calls)) {place : Place}
    {id : InstanceId} (fresh : nextNumber (origin.after calls).view ≤ id.val.toNat) :
    ¬ (origin.after calls).LeadsTo place id := by
  rintro ⟨batch?, named, stands⟩
  obtain ⟨birth, member, rfl, outlasts, _⟩ := h named stands
  exact absurd (numbered.below birth member (outlasts.stands stands)) (Nat.not_lt.mpr fresh)

/-- What a call hands out counts up from the next number. -/
theorem born_ascending (hs : session.Sound) (orderly : session.Orderly owed) (call : Call)
    (room : handedOutIn (session.perform call).2.store.events + 1 < UInt64.size) :
    (session.born call).Pairwise (fun id other => id.val < other.val) ∧
      ∀ id ∈ session.born call, nextNumber session.view ≤ id.val.toNat := by
  cases call with
  | mutate batched mutation =>
    obtain ⟨own, late, steps⟩ := Mutates.steps (mutate_spec hs) orderly room
    obtain ⟨ascending, between⟩ := steps.ascending
    exact ⟨ascending, fun id member => (between id member).1⟩
  | _ => exact ⟨.nil, nofun⟩

theorem Vouched.concat {origin : Session} {calls : List Call} (h : origin.Vouched calls)
    (numbered : (origin.after calls).Numbered (origin.birthsIn 0 calls))
    (hs : (origin.after calls).Sound) (orderly : (origin.after calls).Orderly owed) (call : Call)
    (room : handedOutIn (origin.after (calls ++ [call])).store.events + 1 < UInt64.size) :
    origin.Vouched (calls ++ [call]) := by
  intro place batch? id named stands
  have leads : (origin.after (calls ++ [call])).LeadsTo place id := ⟨batch?, named, stands⟩
  have performed := after_concat origin calls call
  have births := birthsIn_concat origin 0 calls call
  rw [Nat.zero_add] at births
  rw [births]
  rw [performed] at named stands room
  rcases follows hs orderly call named stands with
    ⟨source, batch?', was, stood, passes, outlasting⟩ | ⟨mine, allocated⟩
  · obtain ⟨birth, member, rfl, outlasts, descends⟩ := h was stood
    refine ⟨birth, List.mem_append_left _ member, rfl, ?_, .passed descends ?_ leads⟩
    · rw [performed]
      exact outlasting _ outlasts
    · rw [performed]
      exact passes
  · have member : ⟨calls.length, batch?, id⟩ ∈ (origin.after calls).births calls.length call :=
      List.mem_map.mpr ⟨id, allocated, by rw [mine]⟩
    have fresh := (born_ascending hs orderly call room).2 id allocated
    exact ⟨_, List.mem_append_right _ member, rfl, Ledger.outlasts_refl _,
      .born member (h.unknown numbered fresh) leads⟩

/-! ## Runs -/

/-- Everything that is known after calls about where instances come from. -/
structure Traced (origin : Session) (calls : List Call) : Prop where
  sound : (origin.after calls).Sound
  orderly : ∃ owed, (origin.after calls).Orderly owed
  numbered : (origin.after calls).Numbered (origin.birthsIn 0 calls)
  vouched : origin.Vouched calls

theorem traced_start {store : Store} {database : DatabaseId}
    (present : database < store.databases.size)
    (empty : (store.database database).engine.contents = .empty) :
    Traced (start store database) [] where
  sound := sound_start present
  orderly := ⟨[], orderly_start empty⟩
  numbered := ⟨.nil, nofun, nofun, nofun⟩
  vouched named _ := by
    have contents : (start store database).contents = .empty := empty
    cases named with
    | hand bears =>
      obtain ⟨_, given, _⟩ := bears
      cases given
    | cell refers =>
      have nothing : (start store database).contents.cells.RefersTo _ _ := refers
      rw [KeySpace.RefersTo, contents] at nothing
      simp [Contents.empty] at nothing
    | draft held _ => cases held
    | taken given _ => cases given

theorem Traced.concat {origin : Session} {calls : List Call} (h : Traced origin calls) (call : Call)
    (room : handedOutIn (origin.after (calls ++ [call])).store.events + 1 < UInt64.size) :
    Traced origin (calls ++ [call]) := by
  obtain ⟨sound, ⟨owed, orderly⟩, numbered, vouched⟩ := h
  have whole : origin.Vouched (calls ++ [call]) :=
    vouched.concat numbered sound orderly call room
  have births := birthsIn_concat origin 0 calls call
  rw [Nat.zero_add] at births
  rw [after_concat] at room
  have performs := perform_spec sound call
  obtain ⟨owed', orderly', _⟩ := orderly.performs sound performs room
  refine ⟨?_, ⟨owed', ?_⟩, ?_, whole⟩
  · rw [after_concat]
    exact performs.sound sound
  · rw [after_concat]
    exact orderly'
  · rw [births, after_concat]
    exact numbered.performs sound orderly call room calls.length

theorem handedOut_le_after {origin : Session} (hs : origin.Sound) (first later : List Call) :
    handedOutIn (origin.after first).store.events ≤
      handedOutIn (origin.after (first ++ later)).store.events := by
  have split : origin.after (first ++ later) = (origin.after first).after later :=
    (run_append origin first later).1
  rw [split]
  exact handedOut_le_run (sound_run hs first) later

theorem Traced.run {origin : Session} (start : Traced origin []) {calls : List Call}
    (room : handedOutIn (origin.after calls).store.events + 1 < UInt64.size) :
    Traced origin calls := by
  induction calls using List.reverseRecOn with
  | nil => exact start
  | append_singleton calls call ih =>
    have sound : origin.Sound := start.sound
    have before := handedOut_le_after sound calls [call]
    exact (ih (by omega)).concat call room

/-! ## What a call hands out -/

/-- The call binds a map in hand to an instance that it hands out. -/
def BindsTo (session : Session) (call : Call) (hand : Hand) (id : InstanceId) : Prop :=
  id ∈ session.born call ∧ ¬ session.LeadsTo (.hand hand.1 hand.2) id ∧
    (session.perform call).2.LeadsTo (.hand hand.1 hand.2) id

/-- What a call hands out is new: nothing is kept for it when it is handed out, no place leads to
it, no two maps in hand are bound to it, and a map in which it is put by the same call was handed
out before it. -/
structure AllotsAnew (session : Session) (call : Call) : Prop where
  unused : ∀ {batched mutation first id later}, call = .mutate batched mutation →
    session.journal batched mutation = first ++ .note (.allocated id) :: later →
      Unused session.contents.cells id ∧ Unused (applyAll session.view first) id
  unknown : ∀ {id place}, id ∈ session.born call → ¬ session.LeadsTo place id
  apart : ∀ {hand hand' id}, session.BindsTo call hand id → session.BindsTo call hand' id →
    hand = hand'
  inside : ∀ {parent child name}, parent ∈ session.born call → child ∈ session.born call →
    KeySpace.RefersTo (session.perform call).2.view (Layout.entryKey parent name) child →
      parent.val < child.val

theorem Orderly.hasCount_view (h : session.Orderly owed) {id : InstanceId}
    (housed : HasCount session.contents.cells id) : HasCount session.view id := by
  cases held : session.batch? with
  | none => rwa [view_atOnce held]
  | some batch =>
    rw [view_later held]
    exact (h.batch held).grown housed

/-- What lies in view is a place that leads where it says. -/
theorem leadsTo_of_view (orderly : session.Orderly owed) {key : Bytes} {id : InstanceId}
    (refers : KeySpace.RefersTo session.view key id) : ∃ place, session.LeadsTo place id := by
  cases held : session.batch? with
  | none =>
    rw [view_atOnce held] at refers
    exact ⟨.cell key, none, .cell refers, by rintro ⟨⟩⟩
  | some batch =>
    rw [view_later held] at refers
    refine ⟨.draft key, _, .draft held refers, ?_⟩
    rw [Stands, Ledger.Stands, Ledger.awaited?_undecided (orderly.batch held).undecided]
    rintro ⟨⟩

/-- A number from the next one on is in no use before it is handed out. -/
theorem unused_mutate (hs : session.Sound) (orderly : session.Orderly owed) {batched : Bool}
    {mutation : Mutation} {first later : List Effect} {id : InstanceId}
    (room : handedOutIn (session.perform (.mutate batched mutation)).2.store.events + 1 < UInt64.size)
    (split : session.journal batched mutation = first ++ .note (.allocated id) :: later)
    (fresh : nextNumber session.view ≤ id.val.toNat) :
    Unused session.contents.cells id ∧ Unused (applyAll session.view first) id := by
  obtain ⟨own, late, steps⟩ := Mutates.steps (mutate_spec hs) orderly room
  refine ⟨orderly.consistent.unused fun housed => ?_, steps.unused orderly.consistent_view split⟩
  have below := orderly.consistent_view.allocated (orderly.hasCount_view housed)
  exact absurd below (Nat.not_lt.mpr fresh)

/-- A call binds each instance that it hands out to one map in hand at most. -/
theorem BindsTo.unique (hs : session.Sound)
    (ascending : (session.born call).Pairwise fun id other => id.val < other.val) {hand hand' : Hand}
    {id : InstanceId} (binds : session.BindsTo call hand id)
    (binds' : session.BindsTo call hand' id) : hand = hand' := by
  obtain ⟨register, trail⟩ := hand
  obtain ⟨register', trail'⟩ := hand'
  obtain ⟨member, before, now⟩ := binds
  obtain ⟨_, before', now'⟩ := binds'
  cases call with
  | mutate batched mutation =>
    have mutates := @mutate_spec session batched mutation hs
    obtain ⟨made, ids, borne⟩ := mutates.bore
    have bound {register : Register} {trail : Trail}
        (before : ¬ session.LeadsTo (.hand register trail) id)
        (now : (session.perform (.mutate batched mutation)).2.LeadsTo (.hand register trail) id) :
        ((register, trail), id) ∈ made := by
      obtain ⟨batch?, named, stands⟩ := now
      cases named with
      | hand bears =>
        rcases borne bears with ⟨batch?', was, same⟩ | ⟨_, member⟩
        · refine absurd ⟨batch?', .hand was, ?_⟩ before
          rw [Stands, Ledger.Stands, same, ← (mutates.leaves hs).ledger]
          exact stands
        · exact member
    have distinct : (made.map Prod.snd).Nodup :=
      (ascending.sublist ids).imp fun less same => absurd (same ▸ less) (UInt64.lt_irrefl _)
    have same := List.inj_on_of_nodup_map distinct (bound before now) (bound before' now') rfl
    exact congrArg Prod.fst same
  | _ => cases member

theorem Traced.allotsAnew {origin : Session} {calls : List Call} (h : Traced origin calls)
    (call : Call)
    (room : handedOutIn (origin.after (calls ++ [call])).store.events + 1 < UInt64.size) :
    (origin.after calls).AllotsAnew call := by
  obtain ⟨sound, ⟨owed, orderly⟩, numbered, vouched⟩ := h
  have unknown {place : Place} {id : InstanceId}
      (fresh : nextNumber (origin.after calls).view ≤ id.val.toNat) :
      ¬ (origin.after calls).LeadsTo place id := vouched.unknown numbered fresh
  rw [after_concat] at room
  generalize origin.after calls = session at *
  obtain ⟨ascending, fresh⟩ := born_ascending sound orderly call room
  refine ⟨?_, fun member => unknown (fresh _ member), BindsTo.unique sound ascending, ?_⟩
  · rintro batched mutation first id later rfl split
    refine unused_mutate sound orderly room split (fresh id ?_)
    rw [born, split, allocatedIn_append]
    exact List.mem_append_right _ List.mem_cons_self
  · intro parent child name parentBorn childBorn refers
    cases call with
    | mutate batched mutation =>
      have mutates := @mutate_spec session batched mutation sound
      have after : (session.perform (.mutate batched mutation)).2.view =
          applyAll session.view (session.journal batched mutation) := mutates.view sound
      rw [KeySpace.RefersTo, after] at refers
      rcases applyAll_written refers with written | ⟨before, _⟩
      · rcases mutates.refers written with ⟨register, trail, batch?, bears, stands, _⟩ | ⟨_, order⟩
        · exact absurd ⟨batch?, .hand bears, stands⟩ (unknown (fresh child childBorn))
        · rcases order parent name rfl with both | ⟨⟨register, trail⟩, batch?, bears, stands⟩
          · have pair : [parent, child].Pairwise fun id other => id.val < other.val :=
              ascending.sublist both
            exact (List.pairwise_cons.mp pair).1 child List.mem_cons_self
          · exact absurd ⟨batch?, .hand bears, stands⟩ (unknown (fresh parent parentBorn))
      · obtain ⟨place, leads⟩ := leadsTo_of_view orderly before
        exact absurd leads (unknown (fresh child childBorn))
    | _ => cases parentBorn

/-! ## What handles report -/

/-- The instance that a map in hand reports. -/
def instanceAt? (session : Session) (register : Register) (trail : Trail) : Option InstanceId := do
  let value ← session.registers register
  let map ← value.mapAt? session.store.ledger trail
  map.instance? session.store.ledger

theorem bears_of_instanceAt? {register : Register} {trail : Trail} {id : InstanceId}
    (reports : session.instanceAt? register trail = some id) :
    ∃ batch?, session.Bears (register, trail) batch? id ∧ session.Stands batch? := by
  obtain ⟨value, given, found⟩ := Option.bind_eq_some_iff.mp reports
  obtain ⟨map, found, on⟩ := Option.bind_eq_some_iff.mp found
  obtain ⟨batch?, bears, stands⟩ := Value.bears_of_mapAt? found on
  exact ⟨batch?, ⟨value, given, bears⟩, stands⟩

/-- What a handle reports is stored when no batch is open. -/
theorem Orderly.hasCount_of_instanceAt? (h : session.Orderly owed) (closed : session.batch? = none)
    {register : Register} {trail : Trail} {id : InstanceId}
    (reports : session.instanceAt? register trail = some id) :
    HasCount session.contents.cells id := by
  obtain ⟨batch?, bears, stands⟩ := bears_of_instanceAt? reports
  have settled := h.loyal bears stands
  obtain ⟨value, given, bears⟩ := bears
  have sanctioned := (h.truthful given).of_bears bears
  rw [closed, Option.map_none] at settled
  cases batch? with
  | none => exact sanctioned
  | some batch =>
    have final : session.store.ledger.awaited? (some batch) = some none :=
      settled.elim (fun same => same) fun same => same
    cases decided : session.store.ledger.outcome batch with
    | applied => rwa [Session.sanctioned, decided] at sanctioned
    | undecided | discarded => simp [Ledger.awaited?, decided] at final

instance (session : Session) (batch? : Option BatchId) : Decidable (session.Stands batch?) :=
  inferInstanceAs (Decidable (session.store.ledger.awaited? batch? ≠ none))

/-- Handles never dangle and never alias, and no instance is handed out twice. However a database
is used from the start, as long as instances remain to be handed out: a handle that reports an
instance while no batch is open reports one that is stored; handles that report the same instance
descend from the one time that it was handed out; what was handed out and not discarded counts up,
in the order of handing out; and whatever is handed out is new at that moment. -/
theorem handles_never_dangle_nor_alias (store : Store) (database : DatabaseId) (calls : List Call)
    (present : database < store.databases.size)
    (empty : (store.database database).engine.contents = .empty)
    (room : handedOutIn ((start store database).after calls).store.events < UInt64.size - 1) :
    let origin := start store database
    let session := origin.after calls
    (session.batch? = none → ∀ register trail id, session.instanceAt? register trail = some id →
      HasCount session.contents.cells id) ∧
    (∀ register trail register' trail' id, session.instanceAt? register trail = some id →
      session.instanceAt? register' trail' = some id →
        ∃ birth ∈ origin.birthsIn 0 calls, birth.id = id ∧ session.Stands birth.batch? ∧
          origin.Descends birth calls (.hand register trail) ∧
          origin.Descends birth calls (.hand register' trail')) ∧
    ((origin.birthsIn 0 calls).filter fun birth => session.Stands birth.batch?).Pairwise
      (fun first later => first.id.val < later.id.val) ∧
    ∀ before call later, calls = before ++ call :: later →
      (origin.after before).AllotsAnew call := by
  intro origin session
  have started : Traced origin [] := traced_start present empty
  have initially : origin.Sound := started.sound
  replace room : handedOutIn session.store.events + 1 < UInt64.size := Nat.add_lt_of_lt_sub room
  have traced {first : List Call} (later : List Call) (whole : first ++ later = calls) :
      Traced origin first := by
    have before := handedOut_le_after initially first later
    rw [whole] at before
    exact started.run (Nat.lt_of_le_of_lt (Nat.add_le_add_right before 1) room)
  obtain ⟨_, ⟨_, orderly⟩, numbered, vouched⟩ := traced [] (List.append_nil calls)
  refine ⟨?_, ?_, ?_, ?_⟩
  · exact fun closed register trail id reports => orderly.hasCount_of_instanceAt? closed reports
  · intro register trail register' trail' id reports reports'
    obtain ⟨_, bears, stands⟩ := bears_of_instanceAt? reports
    obtain ⟨_, bears', stands'⟩ := bears_of_instanceAt? reports'
    obtain ⟨birth, member, mine, outlasts, descends⟩ := vouched (.hand bears) stands
    obtain ⟨other, member', mine', outlasts', descends'⟩ := vouched (.hand bears') stands'
    have same : birth = other := numbered.eq_of_id member member' (outlasts.stands stands)
      (outlasts'.stands stands') (mine.trans mine'.symm)
    exact ⟨birth, member, mine, outlasts.stands stands, descends, same ▸ descends'⟩
  · refine List.pairwise_filter.mpr (numbered.ascending.imp fun less stands stands' => ?_)
    exact less (of_decide_eq_true stands) (of_decide_eq_true stands')
  · rintro before call later rfl
    refine (traced (call :: later) rfl).allotsAnew call ?_
    have within := handedOut_le_after initially (before ++ [call]) later
    rw [List.append_assoc, List.singleton_append] at within
    exact Nat.lt_of_le_of_lt (Nat.add_le_add_right within 1) room

/-- A map with a map staged in it is stored in a batch that is discarded. A copy is stored at once
and read back, and so is another map. -/
def storedTwice : List Call :=
  [.newMap 0, .newMap 1, .stage 0 [1] 1, .openBatch, .mutate true (.putItem [1] [1] 0), .clone 0 2,
    .discard, .mutate false (.putItem [1] [2] 2), .newMap 3, .mutate false (.putItem [1] [3] 3),
    .snap 0, .getItem 0 [1] [2] 4, .getEntry 0 4 [1] 5]

/-- The instances of the discarded batch are handed out again, to the copy: the one that was stored
then reports none, and the copy reports the same as what is read back. -/
theorem handles_never_dangle_nor_alias_stored_twice :
    let origin := start .single 0
    let session := origin.after storedTwice
    ((origin.birthsIn 0 storedTwice).map fun birth => (birth.call, birth.id.val)) =
        [(4, 1), (4, 2), (7, 1), (7, 2), (9, 3)] ∧
      [0, 2, 3, 4, 5].map (session.instanceAt? · []) =
        [none, some ⟨1⟩, some ⟨3⟩, some ⟨1⟩, some ⟨2⟩] ∧
      HasCount session.contents.cells ⟨1⟩ ∧
      (∃ birth, birth.call = 7 ∧ origin.Descends birth storedTwice (.hand 2 []) ∧
        origin.Descends birth storedTwice (.hand 4 [])) ∧
      (origin.after (storedTwice.take 7)).AllotsAnew (.mutate false (.putItem [1] [2] 2)) := by
  intro origin session
  have born : ((origin.birthsIn 0 storedTwice).map fun birth => (birth.call, birth.id.val)) =
      [(4, 1), (4, 2), (7, 1), (7, 2), (9, 3)] := by decide +kernel
  have reports : [0, 2, 3, 4, 5].map (session.instanceAt? · []) =
      [none, some ⟨1⟩, some ⟨3⟩, some ⟨1⟩, some ⟨2⟩] := by decide +kernel
  have copy : session.instanceAt? 2 [] = some ⟨1⟩ := by decide +kernel
  have found : session.instanceAt? 4 [] = some ⟨1⟩ := by decide +kernel
  have lasting : ∀ birth ∈ origin.birthsIn 0 storedTwice, birth.id = ⟨1⟩ →
      session.Stands birth.batch? → birth.call = 7 := by decide +kernel
  obtain ⟨stored, common, _, anew⟩ := handles_never_dangle_nor_alias .single 0 storedTwice
    (by decide) rfl (by decide +kernel)
  obtain ⟨birth, member, one, stands, descends, descends'⟩ := common 2 [] 4 [] ⟨1⟩ copy found
  exact ⟨born, reports, stored (by decide +kernel) 2 [] ⟨1⟩ copy,
    ⟨birth, lasting birth member one stands, descends, descends'⟩,
    anew (storedTwice.take 7) (.mutate false (.putItem [1] [2] 2)) (storedTwice.drop 8) rfl⟩

end Session

end NestedStore
