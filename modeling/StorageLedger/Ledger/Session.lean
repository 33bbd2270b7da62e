import StorageLedger.Ledger.Call

namespace StorageLedger.Ledger
open StorageLedger.Store StorageLedger.Calendar

structure Transaction where
  view : Table
  /-- The rows at the last savepoint, if one was set. -/
  savepoint : Option Table

/-- The state between two steps. -/
structure Session where
  committed : Table
  /-- The caller's transaction, if one is open. -/
  transaction : Option Transaction
  steps : Nat

def Session.start : Session := ⟨.empty, none, 0⟩

/-- The rows that are seen: those of the open transaction, else the committed ones. -/
def Session.visible (s : Session) : Table :=
  match s.transaction with
  | some tx => tx.view
  | none => s.committed

/-- The seconds from 1970 to the start of the store's clock. -/
def clockStart : Int := 1704067200

def clockZero : Timestamp := .ofDate ⟨2024, 1, 1, by decide, by decide, by decide⟩

/-- The time at which a step writes: a second for every step before it and itself. -/
def stamp (step : Nat) : Timestamp :=
  -- Past the last year of the calendar the clock is back at its start.
  (Timestamp.ofUnix (clockStart + step) 0).toOption.getD clockZero

inductive Action where
  | call (c : Call) (handle : Handle) (fault : Option Fault)
  | refuse (e : LedgerError)
  | commit
  | rollback
  | savepoint
  | rollbackToSavepoint
  | dump

inductive Answer where
  | call (result : Except LedgerError Outcome) (logs : List LogRecord)
  | done
  | rows (rows : List Row)

/-- The caller's transaction, opened if none is open. -/
def Session.opened (s : Session) : Transaction := s.transaction.getD ⟨s.committed, none⟩

/-- A call through an engine runs on the committed table. -/
def Session.callEngine (s : Session) (store : Store) (c : Call) (fault : Option Fault) :
    Session × Run LedgerError Outcome :=
  let run := c.run store .engine fault s.committed
  ({ s with committed := run.table }, run)

/-- A call through a connection or a session runs in the caller's transaction, which its first
statement opens. -/
def Session.callCaller (s : Session) (store : Store) (c : Call) (handle : Handle)
    (fault : Option Fault) : Session × Run LedgerError Outcome :=
  let run := c.run store handle fault s.opened.view
  -- A call that is answered without a statement opens no transaction.
  if run.statements.isEmpty then (s, run)
  else ({ s with transaction := some { s.opened with view := run.table } }, run)

def Session.call (s : Session) (store : Store) (c : Call) (handle : Handle) (fault : Option Fault) :
    Session × Run LedgerError Outcome :=
  if handle = .engine then s.callEngine store c fault else s.callCaller store c handle fault

/-- What a step does to the state, the step count apart, and what it answers. -/
def Session.act (s : Session) (store : Store) : Action → Session × Answer
  | .call c handle fault =>
    let (s', run) := s.call store c handle fault
    (s', .call run.result run.logs)
  | .refuse e => (s, .call (.error e) [])
  | .commit => ({ s with committed := s.visible, transaction := none }, .done)
  | .rollback => ({ s with transaction := none }, .done)
  | .savepoint =>
    ({ s with transaction := some { s.opened with savepoint := some s.opened.view } }, .done)
  | .rollbackToSavepoint =>
    -- The savepoint stays. Without one there is nothing to return to.
    let restore (tx : Transaction) := { tx with view := tx.savepoint.getD tx.view }
    ({ s with transaction := s.transaction.map restore }, .done)
  | .dump => (s, .rows s.visible.sorted)

/-- One step, with the store's clock at the number of the step. -/
def Session.step (s : Session) (a : Action) : Session × Answer :=
  let s := { s with steps := s.steps + 1 }
  s.act { now := stamp s.steps } a

def Session.run (s : Session) : List Action → Session × List Answer
  | [] => (s, [])
  | a :: rest =>
    let (s, answer) := s.step a
    let (s, answers) := s.run rest
    (s, answer :: answers)

end StorageLedger.Ledger
