import Chip8.Machine.Cycle
import Chip8.Snapshot

/-!
# Traces

A trace is the list of snapshots taken after each cycle of a run. Two traces are compared by the
first place at which they part.
-/

namespace Chip8

abbrev Trace := List Snapshot

namespace Trace

/-- In what two traces differ where they part. -/
inductive Difference
  | field (f : Snapshot.Field)
  /-- One of the traces has ended. -/
  | length
  deriving DecidableEq, Repr

def Difference.name : Difference → String
  | field f => f.name
  | length => "length"

/-- Where two traces part, counting cycles from `cycle`. -/
def divergenceFrom (cycle : Nat) : Trace → Trace → Option (Nat × Difference)
  | [], [] => none
  | e :: expected, a :: actual =>
    match e.firstDifference a with
    | some f => some (cycle, .field f)
    | none => divergenceFrom (cycle + 1) expected actual
  | [], _ :: _ => some (cycle, .length)
  | _ :: _, [] => some (cycle, .length)

/-- The first cycle at which two traces part, and in what. -/
def firstDivergence (expected actual : Trace) : Option (Nat × Difference) :=
  divergenceFrom 0 expected actual

/-- The trace of at most `limit` cycles, the one that faults included, and the fault if there is
one. -/
structure Recording where
  trace : Trace
  fault : Option Fault
  machine : Machine
  deriving DecidableEq, Repr

/-- Runs at most `limit` cycles, up to and including the first that faults, taking a snapshot after
each. -/
def record : (limit : Nat) → Machine → Recording
  | 0, m => ⟨[], none, m⟩
  | limit + 1, m =>
    match m.cycle with
    | (.error fault, after) => ⟨[after.snapshot], some fault, after⟩
    | (.ok (), after) =>
      let rest := record limit after
      { rest with trace := after.snapshot :: rest.trace }

end Trace

end Chip8
