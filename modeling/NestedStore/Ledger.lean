/-!
The ledger of write batches. Batches are numbered as they are opened, and each is decided once:
applied or discarded. Map handles that were bound inside a batch ask the ledger what became of it.
-/

namespace NestedStore

/-- The number of a write batch. -/
abbrev BatchId := Nat

/-- What became of a batch. -/
inductive Outcome where
  | undecided
  | applied
  | discarded
  deriving DecidableEq

/-- What became of every batch that was ever opened. -/
structure Ledger where
  outcomes : Array Outcome

namespace Ledger

/-- No batch was opened yet. -/
def empty : Ledger := ⟨#[]⟩

/-- The number of the next batch. -/
def next (ledger : Ledger) : BatchId := ledger.outcomes.size

/-- Opens the next batch. -/
def openNext (ledger : Ledger) : Ledger := ⟨ledger.outcomes.push .undecided⟩

/-- What became of a batch; one that was not opened is as undecided as one that is still open. -/
def outcome (ledger : Ledger) (batch : BatchId) : Outcome :=
  ledger.outcomes[batch]?.getD .undecided

/-- Decides an open batch; a decision stands. -/
def conclude (ledger : Ledger) (batch : BatchId) (outcome : Outcome) : Ledger :=
  match ledger.outcome batch with
  | .undecided => ⟨ledger.outcomes.setIfInBounds batch outcome⟩
  | _ => ledger

end Ledger

end NestedStore
