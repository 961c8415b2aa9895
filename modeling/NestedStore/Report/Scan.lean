import NestedStore.Map
import NestedStore.Report.Error

/-!
What reports read: all entries of a snapshot, in key order, and the next instance.
-/

namespace NestedStore

/-- An operation that may end in a report error. -/
abbrev Reporting (α : Type) := ExceptT ReportError (StateM Workspace) α

namespace Reporting

/-- A store operation inside a report. -/
def ofAction {α : Type} (action : Action Workspace α) : Reporting α := fun space =>
  let (result, space) := action.run space
  (result.mapError ReportError.store, space)

/-- Ends with a storage error, if there is one. -/
def ofStorage {α : Type} (result : Except StorageError α) : Reporting α :=
  liftExcept (result.mapError ReportError.storage)

end Reporting

/-- All entries of a snapshot in key order. -/
def Snapshot.entries (snapshot : Snapshot) : Reporting (List (Bytes × Bytes)) := do
  Reporting.ofStorage (snapshot.cursor (← get).engine).walk

end NestedStore
