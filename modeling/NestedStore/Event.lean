import NestedStore.Error

/-!
What the store reports about itself while it works: one line for each thing worth a note, with a
level, a message and the values that belong to it.
-/

namespace NestedStore

/-- How much an event matters. -/
inductive Level where
  | debug
  | warn
  | error

def Level.name : Level → String
  | debug => "DEBUG"
  | warn => "WARN"
  | error => "ERROR"

/-- Whether events of the level are shown to everybody, and not only to those who ask for all. -/
def Level.isWeighty : Level → Bool
  | debug => false
  | warn | error => true

/-- Something worth a note. -/
inductive Event where
  /-- Opening a log cut off bytes after its last valid record. -/
  | tornTail (offset dropped : Nat)
  /-- A log was read when its directory was opened. -/
  | replayed (directory : String) (batches keys : Nat)
  /-- A record could not be appended, and what was written of it was cut off again. -/
  | cutBack (offset : Nat) (cause : IoError)
  /-- A record could not be appended, nor cut off again. -/
  | cutBackFailed (offset : Nat) (cause second : IoError)
  /-- An engine closed itself because its log may end in a torn record. -/
  | closedItself (directory : String)
  | allocated (id : InstanceId)
  | bound (id : InstanceId) (staged : Nat)
  | unboundAgain (id : InstanceId)
  | applied (ops : Nat)
  | usedUnbound (cause : StoreError)
  | countOverflow (id : InstanceId) (count : UInt64)
  | countMissing (id : InstanceId)
  | problem (text : String)
  | verified (keys maps problems : Nat)

namespace Event

def level : Event → Level
  | tornTail .. | cutBack .. => .warn
  | replayed .. | allocated _ | bound .. | unboundAgain _ | applied _ | verified .. => .debug
  | cutBackFailed .. | closedItself _ | usedUnbound _ | countOverflow .. | countMissing _
  | problem _ => .error

def message : Event → String
  | tornTail .. => "truncating torn tail of batch log"
  | replayed .. => "replayed batch log"
  | cutBack .. => "batch append failed, log cut back"
  | cutBackFailed .. => "batch log rollback failed"
  | closedItself _ => "batch log could not be cut back, closing engine"
  | allocated _ => "allocated map instance"
  | bound .. => "bound map"
  | unboundAgain _ => "batch discarded, map unbound again"
  | applied _ => "applied batch"
  | usedUnbound _ => "map used before first persist"
  | countOverflow .. => "map count cell overflow"
  | countMissing _ => "map count cell missing"
  | problem _ => "verification problem"
  | verified .. => "verification finished"

/-- The values that go with the message, by name. -/
def fields : Event → List (String × String)
  | tornTail offset dropped => [("offset", toString offset), ("dropped", toString dropped)]
  | replayed directory batches keys =>
    [("dir", directory), ("batches", toString batches), ("keys", toString keys)]
  | cutBack offset cause => [("offset", toString offset), ("error", cause.message)]
  | cutBackFailed offset cause second =>
    [("offset", toString offset), ("error", cause.message), ("rollback", second.message)]
  | closedItself directory => [("dir", directory)]
  | allocated id | unboundAgain id | countMissing id => [("instance", id.label)]
  | bound id staged => [("instance", id.label), ("staged", toString staged)]
  | applied ops => [("ops", toString ops)]
  | usedUnbound cause => [("err", cause.message)]
  | countOverflow id count => [("instance", id.label), ("count", toString count.toNat)]
  | problem text => [("problem", text)]
  | verified keys maps problems =>
    [("keys", toString keys), ("maps", toString maps), ("problems", toString problems)]

/-- The event on one line. -/
def line (event : Event) : String :=
  " ".intercalate (event.level.name :: event.message
    :: event.fields.map fun (name, value) => name ++ "=" ++ value)

end Event

end NestedStore
