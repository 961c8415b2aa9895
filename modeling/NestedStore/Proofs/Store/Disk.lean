import NestedStore.Store.Disk

/-! # Files stay where they are

Where a path leads on a disk, it leads there still when a file is added, or another content is put
into one (`Extends`). So a file that was opened once is opened again (`Holds.openFile`), and read at
its path (`Holds.read`). -/
namespace NestedStore

theorem bind_eq_ok {ε α β : Type} {x : Except ε α} {f : α → Except ε β} {b : β}
    (h : x >>= f = .ok b) : ∃ a, x = .ok a ∧ f a = .ok b := by
  cases x with
  | error error => cases h
  | ok a => exact ⟨a, rfl, h⟩

namespace Disk

/-- What leads anywhere on the disk before, leads there after, and files are files still. -/
structure Extends (before after : Disk) : Prop where
  steps : ∀ {id : NodeId} {name : String} {next : NodeId},
    before.step id name = .ok next → after.step id name = .ok next
  files : ∀ {id : NodeId}, (before.content? id).isSome = true → (after.content? id).isSome = true

/-- A name that is neither empty nor made of dots, and not too long. -/
def Plain (name : String) : Prop :=
  name ≠ "" ∧ name ≠ "." ∧ name ≠ ".." ∧ name.utf8ByteSize ≤ longestName

instance (name : String) : Decidable (Plain name) := inferInstanceAs (Decidable (_ ∧ _))

/-- There is a file of the name in the directory that a path leads to. -/
structure Holds (disk : Disk) (path : Path) (name : String) (outer file : NodeId) : Prop where
  follows : disk.follow path = .ok outer
  found : disk.step outer name = .ok file
  isFile : (disk.content? file).isSome = true

variable {disk later : Disk} {path : Path} {name : String} {outer file id : NodeId}

theorem step_plain (plain : Plain name) :
    disk.step id name = .ok file ↔
      ∃ entries, disk.entries? id = some entries ∧ entries.lookup name = some file := by
  obtain ⟨notEmpty, notDot, notDots, short⟩ := plain
  unfold step entries?
  cases disk.nodes[id]? with
  | none => simp
  | some node =>
    cases node with
    | file content => simp
    | directory around entries =>
      simp only [notEmpty, notDot, notDots, or_self, if_false, Nat.not_lt.mpr short,
        Option.some.injEq, exists_eq_left']
      cases entries.lookup name <;> simp

theorem isDirectory_of_step {next : NodeId} (h : disk.step id name = .ok next) :
    ∃ around entries, disk.nodes[id]? = some (.directory around entries) := by
  unfold step at h
  split at h
  · cases h
  · cases h
  · next around entries held => exact ⟨around, entries, held⟩

namespace Extends

theorem refl (disk : Disk) : Extends disk disk := ⟨id, id⟩

theorem follow (h : Extends disk later) (led : disk.follow path = .ok outer) :
    later.follow path = .ok outer := by
  have folds {names : List String} {id : NodeId} (led : names.foldlM disk.step id = .ok outer) :
      names.foldlM later.step id = .ok outer := by
    induction names generalizing id with
    | nil => exact led
    | cons first rest ih =>
      rw [List.foldlM_cons] at led ⊢
      cases hs : disk.step id first with
      | error error =>
        rw [hs] at led
        cases led
      | ok next =>
        rw [hs] at led
        rw [h.steps hs]
        exact ih led
  unfold Disk.follow at led ⊢
  cases hf : path.names.foldlM disk.step (start path) with
  | error error =>
    rw [hf] at led
    cases led
  | ok last =>
    rw [hf] at led
    cases led
    rw [folds hf]
    rfl

theorem holds (h : Extends disk later) (held : disk.Holds path name outer file) :
    later.Holds path name outer file :=
  ⟨h.follow held.follows, h.steps held.found, h.files held.isFile⟩

end Extends

theorem nodes_add (disk : Disk) (outer : NodeId) (name : String) (node : Node) (id : NodeId) :
    (disk.add outer name node).nodes[id]? =
      if id = disk.nodes.size then some node
      else if outer = id then disk.nodes[id]?.map (Node.addEntry name disk.nodes.size)
      else disk.nodes[id]? := by
  simp [add, Array.getElem?_push, Array.getElem?_modify]

theorem lt_size {node : Node} (h : disk.nodes[id]? = some node) : id ≠ disk.nodes.size := by
  obtain ⟨inside, _⟩ := Array.getElem?_eq_some_iff.mp h
  exact Nat.ne_of_lt inside

theorem entries?_eq_some {entries : List (String × NodeId)} : disk.entries? id = some entries ↔
    ∃ around, disk.nodes[id]? = some (.directory around entries) := by
  unfold entries?
  cases disk.nodes[id]? with
  | none => simp
  | some node => cases node <;> simp

theorem content?_isSome : (disk.content? id).isSome = true ↔
    ∃ content, disk.nodes[id]? = some (.file content) := by
  unfold content?
  cases disk.nodes[id]? with
  | none => simp
  | some node => cases node <;> simp [Node.content?]

/-- A new name in a directory hides none that was there. -/
theorem extends_add {entries : List (String × NodeId)} {node : Node}
    (listed : disk.entries? outer = some entries) (unused : entries.lookup name = none) :
    Extends disk (disk.add outer name node) where
  steps := by
    intro id other next led
    obtain ⟨around, entries', held⟩ := isDirectory_of_step led
    by_cases mine : outer = id
    · subst mine
      obtain rfl : entries' = entries := by
        rw [entries?, held] at listed
        exact Option.some.inj listed
      have now : (disk.add outer name node).nodes[outer]? =
          some (.directory around ((name, disk.nodes.size) :: entries')) := by
        rw [nodes_add, if_neg (lt_size held), if_pos rfl, held]
        rfl
      unfold step at led ⊢
      rw [held] at led
      rw [now]
      dsimp only at led ⊢
      split
      · next here => rwa [if_pos here] at led
      · next notHere =>
        rw [if_neg notHere] at led
        split
        · next up => rwa [if_pos up] at led
        · next notUp =>
          rw [if_neg notUp] at led
          split
          · next long => rwa [if_pos long] at led
          · next short =>
            rw [if_neg short] at led
            have others : ((name, disk.nodes.size) :: entries').lookup other =
                entries'.lookup other := by
              rw [List.lookup_cons]
              split
              · next same =>
                rw [← beq_iff_eq.mp same] at unused
                rw [unused] at led
                cases led
              · rfl
            rwa [others]
    · have now : (disk.add outer name node).nodes[id]? = disk.nodes[id]? := by
        rw [nodes_add, if_neg (lt_size held), if_neg mine]
      unfold step at led ⊢
      rwa [now]
  files := by
    intro id isFile
    obtain ⟨content, held⟩ := content?_isSome.mp isFile
    refine content?_isSome.mpr ⟨content, ?_⟩
    rw [nodes_add, if_neg (lt_size held), held]
    split <;> rfl

/-- Another content leaves a file a file. -/
theorem extends_rewrite (isFile : (disk.content? id).isSome = true) (content : Bytes) :
    Extends disk (disk.rewrite id content) where
  steps := by
    intro other name next led
    obtain ⟨before, file⟩ := content?_isSome.mp isFile
    obtain ⟨around, entries, held⟩ := isDirectory_of_step led
    have differ : id ≠ other := by
      intro same
      subst same
      cases file.symm.trans held
    have now : (disk.rewrite id content).nodes[other]? = disk.nodes[other]? := by
      simp [rewrite, differ]
    unfold step at led ⊢
    rwa [now]
  files := by
    intro other held
    obtain ⟨before, file⟩ := content?_isSome.mp held
    obtain ⟨inside, _⟩ := Array.getElem?_eq_some_iff.mp file
    refine content?_isSome.mpr ?_
    by_cases same : id = other
    · exact ⟨content, by simp [rewrite, same, inside]⟩
    · exact ⟨before, by simp [rewrite, same, file]⟩

theorem content?_rewrite (isFile : (disk.content? id).isSome = true) (content : Bytes) :
    (disk.rewrite id content).content? id = some content := by
  obtain ⟨before, file⟩ := content?_isSome.mp isFile
  obtain ⟨inside, _⟩ := Array.getElem?_eq_some_iff.mp file
  simp [content?, rewrite, inside, Node.content?]

/-! ## Opening files -/

/-- A file that is opened is there. -/
theorem openFile_spec (plain : Plain name) (h : disk.openFile path name = .ok (outer, file, later)) :
    checkPath (path.inside name) = .ok () ∧ Extends disk later ∧ later.limit = disk.limit ∧
      later.Holds path name outer file := by
  unfold Disk.openFile at h
  obtain ⟨_, checked, h⟩ := bind_eq_ok h
  obtain ⟨directory, led, h⟩ := bind_eq_ok h
  refine ⟨checked, ?_⟩
  cases listed : disk.entries? directory with
  | none =>
    rw [listed] at h
    cases h
  | some entries =>
    rw [listed] at h
    dsimp only at h
    cases found : entries.lookup name with
    | none =>
      rw [found] at h
      cases h
      have grows : Extends disk (disk.add outer name (.file [])) := extends_add listed found
      obtain ⟨around, held⟩ := entries?_eq_some.mp listed
      refine ⟨grows, rfl, grows.follow led, (step_plain plain).mpr ?_, ?_⟩
      · refine ⟨(name, disk.nodes.size) :: entries, entries?_eq_some.mpr ⟨around, ?_⟩, ?_⟩
        · rw [nodes_add, if_neg (lt_size held), if_pos rfl, held]
          rfl
        · simp
      · refine content?_isSome.mpr ⟨[], ?_⟩
        rw [nodes_add, if_pos rfl]
    | some id =>
      rw [found] at h
      dsimp only at h
      split at h
      · cases h
      · next isFile =>
        cases h
        refine ⟨.refl _, rfl, led, (step_plain plain).mpr ⟨entries, listed, found⟩, ?_⟩
        rwa [Option.isNone_iff_eq_none, ← ne_eq, ← Option.isSome_iff_ne_none] at isFile

/-- A file that is there is opened as it is. -/
theorem Holds.openFile (h : disk.Holds path name outer file) (plain : Plain name)
    (checked : checkPath (path.inside name) = .ok ()) :
    disk.openFile path name = .ok (outer, file, disk) := by
  obtain ⟨entries, listed, found⟩ := (step_plain plain).mp h.found
  have isFile : (disk.content? file).isNone = false := by
    rw [Option.isNone_eq_false_iff]
    exact h.isFile
  simp [Disk.openFile, checked, h.follows, listed, found, isFile, bind, Except.bind, pure,
    Except.pure]

/-! ## Paths -/

theorem eq_of_step_empty {next : NodeId} (h : disk.step id "" = .ok next) : next = id := by
  obtain ⟨around, entries, held⟩ := isDirectory_of_step h
  rw [step, held] at h
  cases h
  rfl

theorem foldlM_concat {ε α β : Type} {f : β → α → Except ε β} {front : List α} {b b' : β} (last : α)
    (h : front.foldlM f b = .ok b') : (front ++ [last]).foldlM f b = f b' last := by
  rw [List.foldlM_append, h]
  show (f b' last >>= fun b => pure b) = f b' last
  exact bind_pure _

/-- A slash at the end of a path is not walked over twice. -/
theorem follow_inside (led : disk.follow path = .ok outer) :
    disk.follow (path.inside name) = (disk.step outer name).mapError .system := by
  have walked : path.names.foldlM disk.step (start path) = .ok outer := by
    unfold follow at led
    cases hf : path.names.foldlM disk.step (start path) with
    | error error =>
      rw [hf] at led
      cases led
    | ok last =>
      rw [hf] at led
      cases led
      rfl
  have names : (path.inside name).names.foldlM disk.step (start path) = disk.step outer name := by
    unfold Path.inside
    dsimp only
    split
    · next slash =>
      obtain ⟨front, parts⟩ := List.getLast?_eq_some_iff.mp slash
      rw [parts, List.foldlM_append] at walked
      obtain ⟨reached, before, last⟩ := bind_eq_ok walked
      obtain ⟨next, here, last⟩ := bind_eq_ok last
      cases last
      rw [parts, List.dropLast_concat, eq_of_step_empty here]
      exact foldlM_concat name before
    · exact foldlM_concat name walked
  rw [follow, show start (path.inside name) = start path from rfl, names]

theorem foldr_add (sizes : List Nat) (more : Nat) :
    sizes.foldr (· + ·) more = sizes.foldr (· + ·) 0 + more := by
  induction sizes with
  | nil => exact (Nat.zero_add more).symm
  | cons first rest ih => rw [List.foldr_cons, List.foldr_cons, ih, Nat.add_assoc]

/-- A path is good enough when one into its directory is. -/
theorem checkPath_of_inside (checked : checkPath (path.inside name) = .ok ()) :
    checkPath path = .ok () := by
  have zeros : path.hasZero = true → (path.inside name).hasZero = true := by
    unfold Path.hasZero Path.inside
    dsimp only
    split
    · next slash =>
      obtain ⟨front, parts⟩ := List.getLast?_eq_some_iff.mp slash
      rw [parts, List.dropLast_concat, List.any_append, List.any_append, Bool.or_eq_true,
        Bool.or_eq_true]
      exact fun zero => .inl (zero.resolve_right (by simp))
    · intro zero
      rw [List.any_append, zero]
      rfl
  have sizes : path.size ≤ (path.inside name).size := by
    unfold Path.size Path.inside
    rw [foldr_add, foldr_add _ (_ - 1)]
    dsimp only
    split
    · next slash =>
      obtain ⟨front, parts⟩ := List.getLast?_eq_some_iff.mp slash
      rw [parts, List.dropLast_concat, List.map_append, List.map_append, List.foldr_append,
        List.foldr_append, foldr_add, foldr_add _ (List.foldr _ _ (List.map _ [name]))]
      simp
    · rw [List.map_append, List.foldr_append, foldr_add _ (List.foldr _ _ _)]
      simp
      omega
  unfold checkPath at checked ⊢
  split at checked
  · cases checked
  · next clean =>
    split at checked
    · cases checked
    · next short =>
      rw [if_neg (fun zero => clean (zeros zero)), if_neg (by omega)]

/-- A file that is there is read at its path. -/
theorem Holds.read (h : disk.Holds path name outer file) (plain : Plain name)
    (checked : checkPath (path.inside name) = .ok ()) {content : Bytes}
    (held : disk.content? file = some content) :
    disk.read (path.inside name) = .ok (file, content) := by
  have spelled : (path.inside name).isEmpty = false := by
    obtain ⟨notEmpty, _⟩ := plain
    simp [Path.isEmpty, Path.inside, notEmpty]
  have walked : disk.walk (path.inside name) = .ok file := by
    rw [walk, checked, spelled, follow_inside h.follows, h.found]
    rfl
  rw [Disk.read, walked]
  dsimp only [bind, Except.bind]
  rw [held]
  rfl

theorem leads_of_follow (led : disk.follow path = .ok outer) (checked : checkPath path = .ok ())
    (spelled : path.isEmpty = false) : disk.leads path = true := by
  rw [leads, walk, checked, spelled, show (do
    let _ ← Except.ok (); if false = true then throw (.system .notFound) else disk.follow path :
      Except IoError NodeId) = disk.follow path from rfl, led]
  rfl

theorem not_leads_of_isEmpty (spelled : path.isEmpty = true) : disk.leads path = false := by
  unfold leads walk
  rw [spelled]
  cases checkPath path <;> rfl

/-- Nothing is made on a path that leads nowhere else. -/
theorem create_of_isEmpty (checked : checkPath path = .ok ()) (spelled : path.isEmpty = true) :
    disk.create path = (.ok (), disk) := by
  have names : ∀ name ∈ path.names, name = "" := by
    unfold Path.isEmpty at spelled
    simpa using (Bool.and_eq_true_iff.mp spelled).2
  have moves : path.moves = [] := by
    have nothing : path.names.filter (fun name => name ≠ "") = [] :=
      List.filter_eq_nil_iff.mpr fun name member => by simp [names name member]
    have noMoves : path.names.filter (fun name => name ≠ "" ∧ name ≠ ".") = [] :=
      List.filter_eq_nil_iff.mpr fun name member => by simp [names name member]
    rw [Path.moves, noMoves, Path.endsInPlace, nothing]
    rfl
  rw [create, checked, moves]
  rfl

end Disk

end NestedStore
