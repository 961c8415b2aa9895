import NestedStore.Proofs.Session.Orderly
import NestedStore.Proofs.Map.Bearing
import NestedStore.Proofs.Map.Resolved

/-! # Where instances are named

An instance is named by maps in hand, at the end of a trail of staged entries, and by references in
the cells of the database, of the open batch and of snapshots. Calls pass a name on: a value is
copied, staged or stored, a batch is opened or applied, a snapshot is taken or read (`Passes`). No
place comes to name an instance in any other way, unless the instance is handed out in that very
call (`follows`). -/
namespace NestedStore

/-- A map in hand: the name that a value is kept under, and the trail to the map in it. -/
abbrev Hand := Register × Trail

/-- Where an instance may be named. -/
inductive Place where
  | hand (register : Register) (trail : Trail)
  /-- In a committed cell. -/
  | cell (key : Bytes)
  /-- In a cell as the open batch has it. -/
  | draft (key : Bytes)
  /-- In a cell as a snapshot has it. -/
  | taken (snapshot : Nat) (key : Bytes)

/-- The cell that a mutation writes, at once or in the open batch. -/
def Place.home : Bool → Bytes → Place
  | false, key => .cell key
  | true, key => .draft key

/-- The mutation stores what is borne in hand at the key, if it stores it at all. -/
inductive Mutation.Stores : Mutation → Hand → Bytes → Prop
  | item {tablePrefix key : Bytes} {register : Register} :
      Stores (.putItem tablePrefix key register) (register, []) (Address.item tablePrefix key).key
  | entry {map register : Register} {key : Bytes} {id : InstanceId} :
      Stores (.setItem map key register) (register, []) (Layout.entryKey id key)
  | inItem {tablePrefix key name : Bytes} {register : Register} {trail : Trail} {id : InstanceId} :
      Stores (.putItem tablePrefix key register) (register, trail ++ [name])
        (Layout.entryKey id name)
  | inEntry {map register : Register} {key name : Bytes} {trail : Trail} {id : InstanceId} :
      Stores (.setItem map key register) (register, trail ++ [name]) (Layout.entryKey id name)
  | inMap {map register : Register} {key name : Bytes} {trail : Trail} {id : InstanceId} :
      Stores (.setItem map key register) (map, trail ++ [name]) (Layout.entryKey id name)

namespace Session

/-- A map in hand is on an instance, bound in a batch or in none. -/
def Bears (session : Session) (hand : Hand) (batch? : Option BatchId) (id : InstanceId) : Prop :=
  ∃ value, session.registers hand.1 = some value ∧ value.Bears hand.2 batch? id

/-- A place names an instance, by what was done in a batch or in none. -/
inductive Names (session : Session) : Place → Option BatchId → InstanceId → Prop
  | hand {register : Register} {trail : Trail} {batch? : Option BatchId} {id : InstanceId}
      (bears : session.Bears (register, trail) batch? id) :
      Names session (.hand register trail) batch? id
  | cell {key : Bytes} {id : InstanceId} (refers : session.contents.cells.RefersTo key id) :
      Names session (.cell key) none id
  | draft {key : Bytes} {id : InstanceId} {batch : Batch} (held : session.batch? = some batch)
      (refers : KeySpace.RefersTo batch.after key id) :
      Names session (.draft key) (some batch.id) id
  | taken {name : Nat} {key : Bytes} {id : InstanceId} {snapshot : Snapshot}
      (given : session.snapshots name = some snapshot)
      (refers : snapshot.contents.cells.RefersTo key id) : Names session (.taken name key) none id

/-- What was done in a batch, or in none, was not discarded. -/
def Stands (session : Session) (batch? : Option BatchId) : Prop :=
  session.store.ledger.Stands batch?

/-- A place leads to an instance. -/
def LeadsTo (session : Session) (place : Place) (id : InstanceId) : Prop :=
  ∃ batch?, session.Names place batch? id ∧ session.Stands batch?

/-- What a call passes on, from where it was before the call to where it is afterwards. -/
inductive Passes (session next : Session) : Call → Answer → Place → Place → Prop
  | kept {call : Call} {answer : Answer} {register : Register} {trail : Trail}
      (same : next.registers register = session.registers register) :
      Passes session next call answer (.hand register trail) (.hand register trail)
  /-- A mutation binds the maps in hand where they are. -/
  | bound {batched : Bool} {mutation : Mutation} {answer : Answer} {register : Register}
      {trail : Trail} :
      Passes session next (.mutate batched mutation) answer (.hand register trail)
        (.hand register trail)
  | cloned {source into : Register} {trail : Trail} :
      Passes session next (.clone source into) .done (.hand source trail) (.hand into trail)
  | staged {map value : Register} {key : Bytes} {trail : Trail} :
      Passes session next (.stage map key value) .done (.hand value trail)
        (.hand map (key :: trail))
  /-- What was staged on a map stays staged on it. -/
  | beside {map value : Register} {key : Bytes} {answer : Answer} {trail : Trail} :
      Passes session next (.stage map key value) answer (.hand map trail) (.hand map trail)
  | stored {batched : Bool} {mutation : Mutation} {answer : Answer} {register : Register}
      {trail : Trail} {key : Bytes} (stores : mutation.Stores (register, trail) key) :
      Passes session next (.mutate batched mutation) answer (.hand register trail)
        (.home batched key)
  | still {batched : Bool} {call : Call} {answer : Answer} {key : Bytes}
      (unwritten : ∀ mutation, call = .mutate batched mutation →
        ∀ op ∈ writesOf (session.journal batched mutation), op.key ≠ key)
      (unapplied : batched = false → call = .apply → answer ≠ .done) :
      Passes session next call answer (.home batched key) (.home batched key)
  | opened {key : Bytes} : Passes session next .openBatch .done (.cell key) (.draft key)
  | applied {key : Bytes} : Passes session next .apply .done (.draft key) (.cell key)
  | snapped {into : Nat} {key : Bytes} :
      Passes session next (.snap into) .done (.cell key) (.taken into key)
  | past {call : Call} {answer : Answer} {name : Nat} {key : Bytes}
      (same : next.snapshots name = session.snapshots name) :
      Passes session next call answer (.taken name key) (.taken name key)
  | found {call : Call} {name : Nat} {address : Address} {into : Register}
      (reads : session.Reads call name address into) :
      Passes session next call .done (.taken name address.key) (.hand into [])

/-- The instances that a call hands out, in order. -/
def born (session : Session) : Call → List InstanceId
  | .mutate batched mutation => allocatedIn (session.journal batched mutation)
  | _ => []

end Session

/-! ## Decisions stand -/

/-- The first stands for good when the second does. -/
def Ledger.Outlasts (ledger : Ledger) (batch? other? : Option BatchId) : Prop :=
  ledger.awaited? batch? = some none ∨ ledger.awaited? batch? = ledger.awaited? other?

/-- What was decided stays decided. -/
def Ledger.Decides (ledger later : Ledger) : Prop :=
  ∀ batch, ledger.outcome batch ≠ .undecided → later.outcome batch = ledger.outcome batch

namespace Ledger
variable {ledger later : Ledger} {batch? other? : Option BatchId}

theorem Decides.refl (ledger : Ledger) : ledger.Decides ledger := fun _ _ => rfl

theorem Concludes.decides {batch : BatchId} {outcome : Outcome}
    (h : ledger.Concludes later batch outcome) : ledger.Decides later := fun _ => h.stands

theorem outlasts_refl (batch? : Option BatchId) : ledger.Outlasts batch? batch? := .inr rfl

theorem Outlasts.trans {another? : Option BatchId} (h : ledger.Outlasts batch? other?)
    (rest : ledger.Outlasts other? another?) : ledger.Outlasts batch? another? := by
  rcases h with settled | same
  · exact .inl settled
  · rw [Outlasts, same]
    exact rest

theorem Outlasts.stands (h : ledger.Outlasts batch? other?) (stands : ledger.Stands other?) :
    ledger.Stands batch? := by
  rcases h with settled | same
  · rw [Stands, settled]
    rintro ⟨⟩
  · rw [Stands, same]
    exact stands

theorem awaited?_congr (outcomes : ∀ batch, later.outcome batch = ledger.outcome batch)
    (batch? : Option BatchId) : later.awaited? batch? = ledger.awaited? batch? := by
  cases batch? with
  | none => rfl
  | some batch => simp only [awaited?, outcomes]

/-- A binding that has nothing to wait for has nothing to wait for later. -/
theorem Decides.settled (h : ledger.Decides later) (settled : ledger.awaited? batch? = some none) :
    later.awaited? batch? = some none := by
  cases batch? with
  | none => rfl
  | some batch =>
    have applied : ledger.outcome batch = .applied := by
      cases decided : ledger.outcome batch <;> simp [awaited?, decided] at settled ⊢
    have same := h batch (by rw [applied]; rintro ⟨⟩)
    simp [awaited?, same, applied]

theorem Decides.stands (h : ledger.Decides later) (stands : later.Stands batch?) :
    ledger.Stands batch? := by
  cases batch? with
  | none => rintro ⟨⟩
  | some batch =>
    intro discarded
    have decided : ledger.outcome batch = .discarded := by
      cases decided : ledger.outcome batch <;> simp [awaited?, decided] at discarded ⊢
    have same := h batch (by rw [decided]; rintro ⟨⟩)
    apply stands
    simp [awaited?, same, decided]

theorem awaited?_undecided {batch : BatchId} (undecided : ledger.outcome batch = .undecided) :
    ledger.awaited? (some batch) = some (some batch) := by simp [awaited?, undecided]

/-- What waits for a batch was made in it. -/
theorem eq_of_awaited? {batch : BatchId} (awaits : ledger.awaited? batch? = some (some batch)) :
    batch? = some batch ∧ ledger.outcome batch = .undecided := by
  cases batch? with
  | none => cases awaits
  | some other =>
    cases decided : ledger.outcome other <;> simp [awaited?, decided] at awaits
    subst awaits
    exact ⟨rfl, decided⟩

theorem Decides.outlasts (h : ledger.Decides later) (stands : later.Stands other?)
    (outlasts : ledger.Outlasts batch? other?) : later.Outlasts batch? other? := by
  rcases outlasts with settled | same
  · exact .inl (h.settled settled)
  · cases awaits : ledger.awaited? other? with
    | none => exact absurd awaits (h.stands stands)
    | some waiting =>
      rw [awaits] at same
      cases waiting with
      | none => exact .inl (h.settled same)
      | some batch =>
        obtain ⟨rfl, _⟩ := eq_of_awaited? same
        obtain ⟨rfl, _⟩ := eq_of_awaited? awaits
        exact outlasts_refl _

end Ledger

namespace Session
variable {session next : Session} {batched : Bool} {mutation : Mutation} {effects : List Effect}
  {call : Call} {answer : Answer} {register : Register} {trail : Trail} {batch? : Option BatchId}
  {id : InstanceId} {key : Bytes}

theorem setting_batch? (session : Session) : session.setting.batch? = session.batch?.map Batch.id := by
  unfold setting
  cases session.batch? <;> rfl

/-- The ledger only ever decides. -/
theorem Performs.decides (h : session.Performs call answer next) (hs : session.Sound)
    (known : ∀ {batch}, session.batch? = some batch → session.Current batch) :
    session.store.ledger.Decides next.store.ledger := by
  have concluded {batch : Batch} (outcome : Outcome) (held : session.batch? = some batch) :
      session.store.ledger.Decides (session.store.ledger.conclude batch.id outcome) :=
    (Ledger.concludes (known held).known (known held).undecided outcome).decides
  cases h with
  | stage _ _ _ looked | found _ _ _ looked | nothing looked =>
    have same := looked.ledger
    intro batch _
    exact congrArg (Ledger.outcome · batch) same
  | mutate mutates =>
    cases mutates with
    | refused | illNamed => exact .refl _
    | putItem _ _ wrote _ | deleteItem _ wrote _ | setItem _ _ _ wrote _ =>
      have same := (wrote.outcome hs).1
      intro batch _
      exact congrArg (Ledger.outcome · batch) same
  | openBatch => exact fun batch _ => Ledger.outcome_openNext _ batch
  | apply held ends =>
    obtain ⟨_, ledger, _, _⟩ := Batch.apply_spec ends
    have conclusion := ledger ▸ concluded _ held
    exact conclusion
  | discard held => exact concluded .discarded held
  | _ => exact .refl _

/-! ## What follows from what -/

/-- What is named after a call was passed on by it: from a place that named it before, by something
that stands for as long. -/
def Follows (session next : Session) (call : Call) (answer : Answer) (place : Place)
    (batch? : Option BatchId) (id : InstanceId) : Prop :=
  ∃ before batch?', session.Names before batch?' id ∧ session.Stands batch?' ∧
    session.Passes next call answer before place ∧
      ∀ other?, session.store.ledger.Outlasts other? batch?' →
        next.store.ledger.Outlasts other? batch?

/-- What was named by the same before follows. -/
theorem Follows.same {before place : Place} (decides : session.store.ledger.Decides next.store.ledger)
    (stands : next.Stands batch?) (named : session.Names before batch? id)
    (passes : session.Passes next call answer before place) :
    session.Follows next call answer place batch? id :=
  ⟨before, batch?, named, decides.stands stands, passes, fun _ => decides.outlasts stands⟩

theorem Follows.kept (decides : session.store.ledger.Decides next.store.ledger)
    (stands : next.Stands batch?) (bears : next.Bears (register, trail) batch? id)
    (same : next.registers register = session.registers register) :
    session.Follows next call answer (.hand register trail) batch? id := by
  obtain ⟨value, given, bears⟩ := bears
  exact .same decides stands (.hand ⟨value, same ▸ given, bears⟩) (.kept same)

end Session

/-! ## References that are found -/

/-- A map that is read through a snapshot is the one that it holds a reference to. -/
theorem Snapshot.Holds.refersTo {snapshot : Snapshot} {owner : DatabaseId} {key : Bytes}
    {value : Value} {trail : Trail} {batch? : Option BatchId} {id : InstanceId}
    (h : snapshot.Holds owner key value) (bears : value.Bears trail batch? id) :
    trail = [] ∧ batch? = none ∧ snapshot.contents.cells.RefersTo key id := by
  obtain ⟨stored, present, decoded⟩ := h
  unfold Value.decode at decoded
  cases read : StoredValue.decode stored with
  | error fault =>
    rw [read] at decoded
    cases decoded
  | ok form? =>
    rw [read] at decoded
    cases form? with
    | none => cases decoded
    | some form =>
      cases decoded
      cases form with
      | bytes payload => cases bears
      | reference on =>
        obtain ⟨rfl, rfl, rfl⟩ := bears
        refine ⟨rfl, rfl, ?_⟩
        rw [KeySpace.RefersTo, present, StoredValue.encode_of_decode read]

/-- What is at a key after effects was written there, or nothing was. -/
theorem applyAll_written {effects : List Effect} {cells : KeySpace} {key value : Bytes}
    (present : (applyAll cells effects)[key]? = some value) :
    Effect.write (.put key value) ∈ effects ∨
      cells[key]? = some value ∧ ∀ op ∈ writesOf effects, op.key ≠ key := by
  induction effects generalizing cells with
  | nil => exact .inr ⟨present, nofun⟩
  | cons effect effects ih =>
    rcases ih present with written | ⟨before, untouched⟩
    · exact .inl (List.mem_cons_of_mem _ written)
    · cases effect with
      | note event => exact .inr ⟨before, untouched⟩
      | write op =>
        rw [Effect.applyTo, BatchOp.getElem?_applyTo] at before
        split at before
        · next same =>
          subst same
          cases op with
          | put key value' =>
            cases before
            exact .inl List.mem_cons_self
          | delete key => cases before
        · next differ =>
          refine .inr ⟨before, fun other member => ?_⟩
          rcases List.mem_cons.mp member with rfl | member
          · exact differ
          · exact untouched other member

/-! ## Calls that mutate nothing -/

mutual

/-- What every handle says, the one at the end of a trail says. -/
theorem Value.Every.of_bears {good : Option BatchId → InstanceId → Prop}
    {batch? : Option BatchId} {id : InstanceId} : ∀ {value : Value} {trail : Trail},
    value.Every good → value.Bears trail batch? id → good batch? id
  | .bytes _, _, _, bears => bears.elim
  | .map _ _, _, every, bears => Binding.Every.of_bears every bears

theorem Binding.Every.of_bears {good : Option BatchId → InstanceId → Prop}
    {batch? : Option BatchId} {id : InstanceId} : ∀ {binding : Binding} {trail : Trail},
    binding.Every good → binding.Bears trail batch? id → good batch? id
  | .unbound _, _, every, bears => Staged.Every.of_bears every bears
  | .bound on, _, every, bears => by
    obtain ⟨-, rfl, rfl⟩ := bears
    exact every
  | .pending on batch _, _, every, bears => by
    rcases bears with ⟨-, rfl, rfl⟩ | bears
    · exact every.1
    · exact Staged.Every.of_bears every.2 bears

theorem Staged.Every.of_bears {good : Option BatchId → InstanceId → Prop}
    {batch? : Option BatchId} {id : InstanceId} : ∀ {staged : Staged} {trail : Trail},
    staged.Every good → staged.Bears trail batch? id → good batch? id
  | .nil, _, _, bears => bears.elim
  | .cons _ _ _, _, every, bears => by
    rcases bears with ⟨_, rfl, bears⟩ | bears
    · exact Value.Every.of_bears every.1 bears
    · exact Staged.Every.of_bears every.2 bears

end

namespace Session
variable {session next : Session} {batched : Bool} {mutation : Mutation} {effects : List Effect}
  {call : Call} {answer : Answer} {register : Register} {trail : Trail} {batch? : Option BatchId}
  {id : InstanceId} {key : Bytes} {owed : List InstanceId}

/-- What is borne once something is kept under a name: what was borne under others, and what that
bears. -/
theorem bears_keep {into : Register} {value? : Option Value}
    (bears : (session.keep into value?).Bears (register, trail) batch? id) :
    register ≠ into ∧ session.Bears (register, trail) batch? id ∨
      register = into ∧ ∃ value, value? = some value ∧ value.Bears trail batch? id := by
  obtain ⟨value, given, bears⟩ := bears
  dsimp only [Session.keep] at given
  split at given
  · next same => exact .inr ⟨same, value, given, bears⟩
  · next differ => exact .inl ⟨differ, value, given, bears⟩

/-- The call makes no mutation. -/
def Plain (call : Call) : Prop := ∀ batched mutation, call ≠ .mutate batched mutation

theorem Follows.found {store : Store} {address : Address} {snapshot : Snapshot} {value : Value}
    {name : Nat} {into : Register} (reads : session.Reads call name address into)
    (given : session.snapshots name = some snapshot)
    (holds : snapshot.Holds session.database address.key value)
    (looked : session.Looked store) (bears : value.Bears trail batch? id) :
    session.Follows ({ session with store }.keep into (some value)) call .done (.hand into trail)
      batch? id := by
  obtain ⟨rfl, rfl, refers⟩ := holds.refersTo bears
  refine ⟨_, none, .taken given refers, nofun, .found reads, fun other? settled => ?_⟩
  have ledger := looked.ledger
  exact ledger.symm ▸ settled

/-- What is borne in hand follows from what was borne in hand, or from what was read. -/
theorem Performs.follows_hand (h : session.Performs call answer next) (plain : Plain call)
    (decides : session.store.ledger.Decides next.store.ledger) (stands : next.Stands batch?)
    (bears : next.Bears (register, trail) batch? id) :
    session.Follows next call answer (.hand register trail) batch? id := by
  cases h with
  | mutate => exact absurd rfl (plain _ _)
  | bytes =>
    rcases bears_keep bears with ⟨differ, _⟩ | ⟨_, _, same, borne⟩
    · exact .kept decides stands bears (if_neg differ)
    · cases same
      cases borne
  | newMap =>
    rcases bears_keep bears with ⟨differ, _⟩ | ⟨_, _, same, borne⟩
    · exact .kept decides stands bears (if_neg differ)
    · cases same
      cases borne
  | @clone source into value given =>
    rcases bears_keep bears with ⟨differ, _⟩ | ⟨rfl, _, same, borne⟩
    · exact .kept decides stands bears (if_neg differ)
    · cases same
      exact .same decides stands (.hand ⟨value, given, borne⟩) .cloned
  | @stage mapRegister valueRegister key map value store held given differ looked =>
    rcases bears_keep bears with ⟨other, below⟩ | ⟨_, _, impossible, _⟩
    · rcases bears_keep below with ⟨another, _⟩ | ⟨rfl, _, same, borne⟩
      · exact .kept decides stands bears ((if_neg other).trans (if_neg another))
      · cases same
        rcases MapHandle.staging_bears borne with ⟨batch?', was, same⟩ | ⟨staged, deeper, rfl, was⟩
        · have before : session.Bears (register, trail) batch?' id :=
            ⟨_, registers_of_map? held, was⟩
          refine ⟨_, batch?', .hand before, ?_, .beside, fun other? outlasts => ?_⟩
          · have standing := decides.stands stands
            rw [Stands, Ledger.Stands, same]
            exact standing
          · refine decides.outlasts stands ?_
            rw [Ledger.Outlasts, ← same]
            exact outlasts
        · rw [staged]
          exact .same decides stands (.hand ⟨value, given, was⟩) .staged
    · cases impossible
  | found reads given holds looked =>
    rcases bears_keep bears with ⟨differ, _⟩ | ⟨rfl, _, same, borne⟩
    · exact .kept decides stands bears (if_neg differ)
    · cases same
      exact .found reads given holds looked borne
  | _ => exact .kept decides stands bears rfl

theorem Follows.still_cell (plain : Plain call) (unapplied : call = .apply → answer ≠ .done)
    (decides : session.store.ledger.Decides next.store.ledger)
    (same : next.contents = session.contents) (refers : next.contents.cells.RefersTo key id) :
    session.Follows next call answer (.cell key) none id :=
  .same decides nofun (.cell (same ▸ refers))
    (@Passes.still _ _ false _ _ _ (fun _ mutates => absurd mutates (plain _ _)) fun _ => unapplied)

/-- What is in a committed cell follows from what was in it, or from the batch that was applied. -/
theorem Performs.follows_cell (h : session.Performs call answer next) (hs : session.Sound)
    (current : ∀ {batch}, session.batch? = some batch → session.Current batch) (plain : Plain call)
    (decides : session.store.ledger.Decides next.store.ledger)
    (refers : next.contents.cells.RefersTo key id) :
    session.Follows next call answer (.cell key) none id := by
  cases h with
  | mutate => exact absurd rfl (plain _ _)
  | refused => exact .still_cell plain (by rintro _ ⟨⟩) decides rfl refers
  | illNamed => exact .still_cell plain (by rintro _ ⟨⟩) decides rfl refers
  | nothing looked empty =>
    exact .still_cell plain (fun _ => empty) decides (looked.contents hs) refers
  | found reads given holds looked =>
    have unapplied : call ≠ .apply := by cases reads <;> rintro ⟨⟩
    exact .still_cell plain (fun applied => absurd applied unapplied) decides
      (looked.contents hs) refers
  | stage _ _ _ looked => exact .still_cell plain (by rintro ⟨⟩) decides (looked.contents hs) refers
  | openBatch =>
    have same := congrArg (·.engine.contents) (space_openBatch hs)
    exact .still_cell plain (by rintro ⟨⟩) decides same refers
  | @apply batch space result held ends =>
    obtain ⟨engine, ledger, _, rfl⟩ := Batch.apply_spec ends
    have contents := contents_applied hs space
    rw [engine] at contents
    rcases (session.space.engine.write_spec batch.writes).outcome with
      ⟨taken, after⟩ | ⟨_, after, error, refused⟩
    · rw [taken] at ledger ⊢
      have tended := current held
      have pinned : session.space.engine.contents = batch.snapshot.contents := tended.pinned.symm
      rw [after, pinned] at contents
      rw [contents, KeySpace.RefersTo, batch.cells_taken] at refers
      refine ⟨_, _, .draft held refers, ?_, .applied, fun other? outlasts => .inl ?_⟩
      · rw [Stands, Ledger.Stands, Ledger.awaited?_undecided tended.undecided]
        rintro ⟨⟩
      · rcases outlasts with settled | awaits
        · exact decides.settled settled
        · rw [Ledger.awaited?_undecided tended.undecided] at awaits
          obtain ⟨rfl, _⟩ := Ledger.eq_of_awaited? awaits
          have conclusion := Ledger.concludes tended.known tended.undecided .applied
          have decided : space.ledger.outcome batch.id = .applied := by
            rw [ledger]
            exact conclusion.decided
          show space.ledger.awaited? (some batch.id) = some none
          simp [Ledger.awaited?, decided]
    · refine .still_cell plain (fun _ => ?_) decides (contents.trans after) refers
      rw [refused]
      rintro ⟨⟩
  | discard held =>
    exact .still_cell plain (by rintro ⟨⟩) decides
      (congrArg (·.engine.contents) (space_discarded hs held))
      refers
  | @befall medium =>
    have contents := congrArg (·.engine.contents) (space_befall hs medium)
    exact .still_cell plain (by rintro ⟨⟩) decides contents refers
  | _ => exact .still_cell plain (by rintro ⟨⟩) decides rfl refers

/-- What is in a cell of the open batch follows from what was in it, or in the committed one when it
was opened. -/
theorem Performs.follows_draft (h : session.Performs call answer next) (plain : Plain call)
    (decides : session.store.ledger.Decides next.store.ledger) {batch : Batch}
    (held : next.batch? = some batch) (stands : next.Stands (some batch.id))
    (refers : KeySpace.RefersTo batch.after key id) :
    session.Follows next call answer (.draft key) (some batch.id) id := by
  have still (same : next.batch? = session.batch?) :
      session.Follows next call answer (.draft key) (some batch.id) id :=
    .same decides stands (.draft (same ▸ held) refers)
      (@Passes.still _ _ true _ _ _ (fun _ mutates => absurd mutates (plain _ _)) nofun)
  cases h with
  | mutate => exact absurd rfl (plain _ _)
  | openBatch free =>
    cases held
    refine ⟨.cell key, none, .cell refers, nofun, .opened, fun other? settled => .inl ?_⟩
    exact decides.settled (settled.elim (fun settled => settled) fun same => same)
  | apply => cases held
  | discard => cases held
  | _ => exact still rfl

/-- What is in a snapshot follows from what was in it, or in the cells that it was taken of. -/
theorem Performs.follows_taken (h : session.Performs call answer next) (plain : Plain call)
    (decides : session.store.ledger.Decides next.store.ledger) {name : Nat} {snapshot : Snapshot}
    (given : next.snapshots name = some snapshot)
    (refers : snapshot.contents.cells.RefersTo key id) :
    session.Follows next call answer (.taken name key) none id := by
  have past (same : next.snapshots name = session.snapshots name) :
      session.Follows next call answer (.taken name key) none id :=
    .same decides nofun (.taken (same ▸ given) refers) (.past same)
  cases h with
  | mutate => exact absurd rfl (plain _ _)
  | @snap into =>
    by_cases same : name = into
    · subst same
      have taken : session.store.snapshot session.database = snapshot :=
        Option.some.inj ((if_pos rfl).symm.trans given)
      subst taken
      exact .same decides nofun (.cell refers) .snapped
    · exact past (if_neg same)
  | _ => exact past rfl

/-! ## Mutations -/

/-- The effects are done to the database, or to the open batch, and nothing else is. -/
structure Leaves (session : Session) (batched : Bool) (effects : List Effect) (next : Session) :
    Prop where
  ledger : next.store.ledger = session.store.ledger
  snapshots : next.snapshots = session.snapshots
  cells : next.contents.cells =
    applyAll session.contents.cells (if batched then [] else effects)
  drafts : ∀ {later}, next.batch? = some later → ∃ batch, session.batch? = some batch ∧
    later.id = batch.id ∧ later.after = applyAll batch.after (if batched then effects else [])
  keeps : ∀ {batch}, session.batch? = some batch →
    ∃ later, next.batch? = some later ∧ later.id = batch.id

theorem Wrote.leaves (wrote : session.Wrote effects batched next) (hs : session.Sound) :
    session.Leaves batched effects next := by
  obtain ⟨_, _, snapshots⟩ := wrote.frame
  obtain ⟨ledger, _, ⟨rfl, free, still, cells⟩ | ⟨rfl, contents, batch, later, held, now, same, _,
    after⟩⟩ := wrote.outcome hs
  · rw [view_atOnce free] at cells
    exact ⟨ledger, snapshots, cells, fun held => absurd (still.symm.trans held) nofun,
      fun held => absurd (free.symm.trans held) nofun⟩
  · rw [view_later held] at after
    refine ⟨ledger, snapshots, congrArg Contents.cells contents, fun held' => ?_, fun held' => ?_⟩
    · cases now.symm.trans held'
      exact ⟨batch, held, same, after⟩
    · cases held.symm.trans held'
      exact ⟨later, now, same⟩

/-- A mutation leaves its effects. -/
theorem Mutates.leaves (h : session.Mutates batched mutation effects answer next)
    (hs : session.Sound) : session.Leaves batched effects next := by
  cases h with
  | refused | illNamed =>
    refine ⟨rfl, rfl, ?_, fun held => ⟨_, held, rfl, ?_⟩, fun held => ⟨_, held, rfl⟩⟩
    all_goals rw [ite_self]; rfl
  | deleteItem _ wrote _ => exact wrote.leaves hs
  | putItem _ _ wrote _ | setItem _ _ _ wrote _ =>
    obtain ⟨ledger, snapshots, cells, drafts, keeps⟩ := wrote.leaves hs
    exact ⟨ledger, snapshots, cells, drafts, keeps⟩

/-- What is borne in hand after a mutation was borne before, or is one of those that were bound by
it, each to an instance of its own. -/
theorem Mutates.bore (h : session.Mutates batched mutation effects answer next) :
    ∃ made : List (Hand × InstanceId), (made.map Prod.snd).Sublist (allocatedIn effects) ∧
      ∀ {register trail batch? id}, next.Bears (register, trail) batch? id →
        (∃ batch?', session.Bears (register, trail) batch?' id ∧
          session.store.ledger.awaited? batch?' = session.store.ledger.awaited? batch?) ∨
        batch? = session.batch?.map Batch.id ∧ ((register, trail), id) ∈ made := by
  have named (register : Register) (made : List (Trail × InstanceId)) :
      (made.map fun (trail, id) => (((register, trail) : Hand), id)).map Prod.snd =
        made.map Prod.snd := by
    rw [List.map_map]
    rfl
  have still {mid : Session} (wrote : session.Wrote effects batched mid) {register : Register}
      {trail : Trail} {batch? : Option BatchId} {id : InstanceId}
      (bears : mid.Bears (register, trail) batch? id) :
      session.Bears (register, trail) batch? id := by
    rw [Bears, wrote.frame.2.1] at bears
    exact bears
  cases h with
  | refused | illNamed => exact ⟨[], List.nil_sublist _, fun bears => .inl ⟨_, bears, rfl⟩⟩
  | deleteItem named wrote deletes =>
    exact ⟨[], List.nil_sublist _, fun bears => .inl ⟨_, still wrote bears, rfl⟩⟩
  | @putItem _ _ kept _ value value' _ _ _ _ given wrote puts =>
    obtain ⟨made, ids, borne⟩ := puts.bore
    rw [setting_ledger, setting_batch?] at borne
    refine ⟨made.map fun (trail, id) => ((kept, trail), id), (named _ _).symm ▸ ids, ?_⟩
    intro register trail batch? id bears
    rcases bears_keep bears with ⟨_, bears⟩ | ⟨rfl, _, same, bears⟩
    · exact .inl ⟨_, still wrote bears, rfl⟩
    · cases same
      exact (borne bears).imp (fun ⟨batch?', was, same⟩ => ⟨batch?', ⟨value, given, was⟩, same⟩)
        fun ⟨mine, member⟩ => ⟨mine, List.mem_map_of_mem member⟩
  | @setItem mapRegister kept _ map map' value value' _ _ _ held given differ wrote sets =>
    obtain ⟨first, later, rfl, ⟨made, ids, borne⟩, ⟨made', ids', borne'⟩⟩ := sets.bore
    rw [setting_ledger, setting_batch?] at borne borne'
    refine ⟨(made.map fun (trail, id) => ((mapRegister, trail), id)) ++
      made'.map fun (trail, id) => ((kept, trail), id), ?_, ?_⟩
    · rw [List.map_append, named, named, allocatedIn_append]
      exact ids.append ids'
    · intro register trail batch? id bears
      rcases bears_keep bears with ⟨_, bears⟩ | ⟨rfl, _, same, bears⟩
      · rcases bears_keep bears with ⟨_, bears⟩ | ⟨rfl, _, same, bears⟩
        · exact .inl ⟨_, still wrote bears, rfl⟩
        · cases same
          exact (borne bears).imp
            (fun ⟨batch?', was, same⟩ => ⟨batch?', ⟨_, registers_of_map? held, was⟩, same⟩)
            fun ⟨mine, member⟩ => ⟨mine, List.mem_append_left _ (List.mem_map_of_mem member)⟩
      · cases same
        exact (borne' bears).imp (fun ⟨batch?', was, same⟩ => ⟨batch?', ⟨value, given, was⟩, same⟩)
          fun ⟨mine, member⟩ => ⟨mine, List.mem_append_right _ (List.mem_map_of_mem member)⟩

/-- A mutation writes references to maps that were borne in hand where it stores them from, and to
maps that it makes: those after the map that they are put in, unless that was borne before. -/
theorem Mutates.refers (h : session.Mutates batched mutation effects answer next)
    (member : Effect.reference key id ∈ effects) :
    (∃ register trail batch?, session.Bears (register, trail) batch? id ∧ session.Stands batch? ∧
        mutation.Stores (register, trail) key) ∨
      id ∈ allocatedIn effects ∧ ∀ parent name, key = Layout.entryKey parent name →
        [parent, id].Sublist (allocatedIn effects) ∨
          ∃ hand batch?, session.Bears hand batch? parent ∧ session.Stands batch? := by
  have unique {parent parent' : InstanceId} {name name' : Bytes}
      (same : Layout.entryKey parent name = Layout.entryKey parent' name') : parent = parent' := by
    have addresses : Address.entry parent name = .entry parent' name' :=
      Address.eq_of_key_eq trivial trivial same
    cases addresses
    rfl
  have second {parent : InstanceId} {made : List InstanceId} (both : [parent, id].Sublist made) :
      id ∈ made := both.subset (List.mem_cons_of_mem _ List.mem_cons_self)
  have standing {batch? : Option BatchId} (stands : session.setting.ledger.Stands batch?) :
      session.Stands batch? := by
    rw [setting_ledger] at stands
    exact stands
  cases h with
  | refused | illNamed => cases member
  | deleteItem named wrote deletes => exact absurd member deletes.no_reference
  | @putItem tablePrefix name register table value _ _ _ _ named given wrote puts =>
    rcases puts.refers member with ⟨parent, last, rfl, ⟨trail, batch?, was, stands, ends⟩ | both |
      ⟨impossible, _⟩⟩ | ⟨rfl, ⟨batch?, was, stands⟩ | made⟩
    · obtain ⟨first, rfl⟩ := List.getLast?_eq_some_iff.mp ends
      exact .inl ⟨register, _, batch?, ⟨value, given, was⟩, standing stands, .inItem⟩
    · exact .inr ⟨second both, fun parent' name' same => .inl (unique same ▸ both)⟩
    · cases impossible
    · obtain ⟨_, rfl⟩ := Table.of_named named
      exact .inl ⟨register, [], batch?, ⟨value, given, was⟩, standing stands, .item⟩
    · refine .inr ⟨made, fun parent' name' same => ?_⟩
      have addresses : Address.item table.tablePrefix name = .entry parent' name' :=
        Address.eq_of_key_eq table.noSeparator trivial same
      cases addresses
  | @setItem mapRegister register name map _ value _ _ _ _ held given differ wrote sets =>
    have mapGiven := registers_of_map? held
    obtain ⟨parent, last, rfl, ⟨trail, batch?, was, stands, ends⟩ | ⟨trail, batch?, was, stands,
      ends⟩ | both | ⟨made, batch?, was, stands⟩⟩ := sets.refers member
    · obtain ⟨first, rfl⟩ := List.getLast?_eq_some_iff.mp ends
      exact .inl ⟨mapRegister, _, batch?, ⟨_, mapGiven, was⟩, standing stands, .inMap⟩
    · refine .inl ⟨register, trail, batch?, ⟨value, given, was⟩, standing stands, ?_⟩
      obtain rfl | ⟨first, deepest, rfl⟩ := trail.eq_nil_or_concat'
      · obtain rfl : name = last := Option.some.inj ends
        exact .entry
      · rw [List.getLast?_cons, List.getLast?_concat] at ends
        obtain rfl : deepest = last := Option.some.inj ends
        exact .inEntry
    · exact .inr ⟨second both, fun parent' name' same => .inl (unique same ▸ both)⟩
    · refine .inr ⟨made, fun parent' name' same => .inr ⟨(mapRegister, []), batch?, ?_, ?_⟩⟩
      · exact ⟨_, mapGiven, unique same ▸ was⟩
      · exact standing stands

/-- Nothing is done in another mode than the session is in. -/
theorem Mutates.mode (h : session.Mutates batched mutation effects answer next)
    {effect : Effect} (done : effect ∈ effects) : session.batch?.isSome = batched := by
  cases h with
  | refused | illNamed => cases done
  | putItem _ _ wrote _ | deleteItem _ wrote _ | setItem _ _ _ wrote _ =>
    cases wrote with
    | atOnce free _ => rw [free, Option.isSome_none]
    | later held _ => rw [held, Option.isSome_some]

/-- What is borne in hand waits for the open batch, if for anything. -/
theorem Orderly.loyal (h : session.Orderly owed) {hand : Hand}
    (bears : session.Bears hand batch? id) (stands : session.Stands batch?) :
    session.store.ledger.Outlasts batch? (session.batch?.map Batch.id) := by
  obtain ⟨value, given, bears⟩ := bears
  have sanctioned := (h.truthful given).of_bears bears
  cases awaits : session.store.ledger.awaited? batch? with
  | none => exact absurd awaits stands
  | some waiting =>
    cases waiting with
    | none => exact .inl awaits
    | some batch =>
      obtain ⟨rfl, undecided⟩ := Ledger.eq_of_awaited? awaits
      rw [Session.sanctioned, undecided] at sanctioned
      obtain ⟨held, ongoing, rfl, _⟩ := sanctioned
      rw [ongoing]
      exact Ledger.outlasts_refl _

/-- What a place names after a mutation follows from what was named before it, or was made by it. -/
theorem Mutates.follows
    (h : session.Mutates batched mutation (session.journal batched mutation) answer next)
    (hs : session.Sound) (orderly : session.Orderly owed) {place : Place}
    (named : next.Names place batch? id) (stands : next.Stands batch?) :
    session.Follows next (.mutate batched mutation) answer place batch? id ∨
      batch? = session.batch?.map Batch.id ∧ id ∈ session.born (.mutate batched mutation) := by
  obtain ⟨ledger, snapshots, cells, drafts, _⟩ := h.leaves hs
  have decides : session.store.ledger.Decides next.store.ledger := ledger ▸ .refl _
  have stored {key : Bytes} (mine : batch? = session.batch?.map Batch.id)
      (member : Effect.reference key id ∈ session.journal batched mutation) :
      session.Follows next (.mutate batched mutation) answer (.home batched key) batch? id ∨
        batch? = session.batch?.map Batch.id ∧ id ∈ session.born (.mutate batched mutation) := by
    rcases h.refers member with ⟨register, trail, batch?', bears, standing, stores⟩ | ⟨made, _⟩
    · refine .inl ⟨_, batch?', .hand bears, standing, .stored stores, fun other? outlasts => ?_⟩
      refine decides.outlasts stands (outlasts.trans ?_)
      exact mine ▸ orderly.loyal bears standing
    · exact .inr ⟨mine, made⟩
  cases named with
  | @hand register trail _ _ bears =>
    obtain ⟨made, ids, borne⟩ := h.bore
    rcases borne bears with ⟨batch?', was, same⟩ | ⟨mine, member⟩
    · refine .inl ⟨.hand register trail, batch?', .hand was, ?_, .bound, fun other? outlasts => ?_⟩
      · have standing := decides.stands stands
        rw [Stands, Ledger.Stands, same]
        exact standing
      · refine decides.outlasts stands ?_
        rw [Ledger.Outlasts, ← same]
        exact outlasts
    · exact .inr ⟨mine, ids.subset (List.mem_map_of_mem member)⟩
  | @cell key _ refers =>
    rw [KeySpace.RefersTo, cells] at refers
    rcases applyAll_written refers with written | ⟨before, untouched⟩
    · cases batched with
      | true => cases written
      | false =>
        have free : session.batch? = none := Option.not_isSome_iff_eq_none.mp (by simp [h.mode written])
        exact stored (by rw [free]; rfl) written
    · refine .inl (.same decides stands (.cell before) (@Passes.still _ _ false _ _ _ ?_ ?_))
      · intro mutation same op member
        cases same
        exact untouched op member
      · rintro _ ⟨⟩
  | @draft key _ later held refers =>
    obtain ⟨batch, was, same, after⟩ := drafts held
    rw [KeySpace.RefersTo, after] at refers
    rcases applyAll_written refers with written | ⟨before, untouched⟩
    · cases batched with
      | false => cases written
      | true => exact stored (by rw [was, same]; rfl) written
    · rw [same] at stands ⊢
      refine .inl (.same decides stands (.draft was before)
        (@Passes.still _ _ true _ _ _ ?_ (by rintro ⟨⟩)))
      intro mutation same op member
      cases same
      exact untouched op member
  | @taken name key _ snapshot given refers =>
    refine .inl (.same decides stands (.taken (snapshots ▸ given) refers) (.past ?_))
    rw [snapshots]

/-- **What a place names after a call follows from what was named before it**, or was handed out in
that very call. -/
theorem follows (hs : session.Sound) (orderly : session.Orderly owed) (call : Call)
    {place : Place} (named : (session.perform call).2.Names place batch? id)
    (stands : (session.perform call).2.Stands batch?) :
    session.Follows (session.perform call).2 call (session.perform call).1 place batch? id ∨
      batch? = session.batch?.map Batch.id ∧ id ∈ session.born call := by
  have performs := perform_spec hs call
  have current {batch : Batch} (held : session.batch? = some batch) : session.Current batch :=
    (orderly.batch held).toCurrent
  have decides := performs.decides hs current
  by_cases plain : Plain call
  · generalize session.perform call = ended at *
    cases named with
    | hand bears => exact .inl (performs.follows_hand plain decides stands bears)
    | cell refers => exact .inl (performs.follows_cell hs current plain decides refers)
    | draft held refers => exact .inl (performs.follows_draft plain decides held stands refers)
    | taken given refers => exact .inl (performs.follows_taken plain decides given refers)
  · unfold Plain at plain
    push Not at plain
    obtain ⟨batched, mutation, rfl⟩ := plain
    exact (mutate_spec hs).follows hs orderly named stands

end Session

end NestedStore
