import StorageLedger.Ledger.Error
import StorageLedger.Ledger.Log
import StorageLedger.Store.Execution

namespace StorageLedger.Ledger
open StorageLedger.Store

inductive Event where
  | begin_
  | execute
  | commit
  | rollback
  | dispose
deriving DecidableEq, Repr

def Event.name : Event → String
  | .begin_ => "begin"
  | .execute => "execute"
  | .commit => "commit"
  | .rollback => "rollback"
  | .dispose => "dispose"

/-- The points at which the store may fail. -/
inductive FaultPoint where
  | connect
  | execute
  | commit
deriving DecidableEq, Repr

/-- A failure that the store is made to show at a point. -/
structure Fault where
  point : FaultPoint
  failure : Failure
deriving DecidableEq, Repr

/-- The failure at a point, if the store is made to fail there. -/
def faultAt (fault : Option Fault) (point : FaultPoint) : Option Failure :=
  fault.bind fun f => if f.point = point then some f.failure else none

/-- What work on a table leaves behind. -/
structure Run (ε α : Type) where
  /-- What the store was told to do, in order. -/
  events : List Event
  /-- The statements that reached the store, in order. -/
  statements : List Statement
  logs : List LogRecord
  result : Except ε α
  table : Table

namespace Run

def idle (result : Except ε α) (table : Table) : Run ε α := ⟨[], [], [], result, table⟩

/-- The run with its result or error changed, and with further log records. -/
def finish (run : Run ε α) (f : Except ε α → Except ε' β × List LogRecord) : Run ε' β :=
  let (result, logs) := f run.result
  ⟨run.events, run.statements, run.logs ++ logs, result, run.table⟩

/-- The run with an event in front of it and one behind it. -/
def between (first last : Event) (run : Run ε α) : Run ε α :=
  { run with events := first :: run.events ++ [last] }

end Run

/-- Work in a transaction of its own on a committed table. -/
def ownTransaction (connectFault commitFault : Option ε) (work : Table → Run ε α)
    (committed : Table) : Run ε α :=
  match connectFault with
  -- What could not begin is not ended either.
  | some e => ⟨[.begin_], [], [], .error e, committed⟩
  | none =>
    let run := work committed
    match run.result with
    | .error _ => { run.between .begin_ .rollback with table := committed }
    | .ok _ =>
      match commitFault with
      | some e => { run.between .begin_ .commit with result := .error e, table := committed }
      | none => run.between .begin_ .commit

/-- Executes statements in order and gives the last reply. The first failure ends the work and
leaves the table as it was. -/
def perform (store : Store) (executeFault : Option Failure) (last : Reply) :
    List Statement → Table → Run Failure Reply
  | [], t => .idle (.ok last) t
  | s :: rest, t =>
    match executeFault with
    | some failure => ⟨[.execute], [s], [], .error failure, t⟩
    | none =>
      match store.run t s with
      | .error failure => ⟨[.execute], [s], [], .error failure, t⟩
      | .ok (reply, t') =>
        let run := perform store none reply rest t'
        { run with
          events := .execute :: run.events
          statements := s :: run.statements
          -- A failure further on undoes this statement too.
          table := match run.result with
            | .ok _ => run.table
            | .error _ => t }

end StorageLedger.Ledger
