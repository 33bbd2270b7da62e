import StorageLedger.Ledger.Session
import StorageLedger.Proofs.CallRun

namespace StorageLedger.Ledger
open StorageLedger.Store

variable {handle : Handle}

/-- The rows that are seen are those of the caller's transaction, opened if none is open. -/
theorem Session.visible_eq_opened (s : Session) : s.visible = s.opened.view := by
  rw [Session.visible, Session.opened]
  cases s.transaction <;> rfl

theorem Session.visible_of_no_transaction {s : Session} (h : s.transaction = none) :
    s.visible = s.committed := by
  simp only [Session.visible, h]

/-- The store that the next step finds. -/
def Session.nextStore (s : Session) : Store := { now := stamp (s.steps + 1) }

theorem Session.step_steps (s : Session) (a : Action) : (s.step a).1.steps = s.steps + 1 := by
  cases a with
  | call c handle fault =>
    simp only [Session.step, Session.act, Session.call]
    split
    · rfl
    · simp only [Session.callCaller]
      split <;> rfl
  | _ => rfl

theorem Session.step_engine (s : Session) (c : Call) (fault : Option Fault) :
    s.step (.call c .engine fault) =
      let run := c.run s.nextStore .engine fault s.committed
      (⟨run.table, s.transaction, s.steps + 1⟩, .call run.result run.logs) := rfl

theorem Session.step_caller_eq (s : Session) (c : Call) (fault : Option Fault)
    (h : handle ≠ .engine) :
    s.step (.call c handle fault) =
      let run := c.run s.nextStore handle fault s.opened.view
      (if run.statements.isEmpty then { s with steps := s.steps + 1 }
        else ⟨s.committed, some { s.opened with view := run.table }, s.steps + 1⟩,
        .call run.result run.logs) := by
  cases hidle : (c.run s.nextStore handle fault s.opened.view).statements.isEmpty <;>
  · simp only [Session.nextStore, Session.opened] at hidle
    simp only [Session.step, Session.act, Session.call, if_neg h, Session.callCaller,
      Session.opened, Session.nextStore, hidle]
    rfl

theorem Session.step_caller (s : Session) (c : Call) (fault : Option Fault)
    (h : handle ≠ .engine) :
    let run := c.run s.nextStore handle fault s.visible
    let after := (s.step (.call c handle fault)).1
    (s.step (.call c handle fault)).2 = .call run.result run.logs ∧
      after.committed = s.committed ∧ after.opened = { s.opened with view := run.table } := by
  rw [Session.visible_eq_opened, Session.step_caller_eq s c fault h]
  refine ⟨rfl, ?_, ?_⟩
  · dsimp only
    split <;> rfl
  · dsimp only
    split
    · next hidle =>
      rw [Call.run_idle h (List.isEmpty_iff.1 hidle)]
      rfl
    · rfl

theorem Session.step_caller_visible (s : Session) (c : Call) (fault : Option Fault)
    (h : handle ≠ .engine) :
    (s.step (.call c handle fault)).1.visible =
      (c.run s.nextStore handle fault s.visible).table := by
  rw [Session.visible_eq_opened, (s.step_caller c fault h).2.2]

/-- The rows that a call through a handle finds. -/
def Session.rowsFor (s : Session) (handle : Handle) : Table :=
  if handle = .engine then s.committed else s.visible

theorem Session.step_answer (s : Session) (c : Call) (handle : Handle) (fault : Option Fault) :
    let run := c.run s.nextStore handle fault (s.rowsFor handle)
    (s.step (.call c handle fault)).2 = .call run.result run.logs := by
  by_cases hh : handle = .engine
  · subst hh
    rfl
  · rw [Session.rowsFor, if_neg hh]
    exact (s.step_caller c fault hh).1

theorem Session.step_rows_for (s : Session) (c : Call) (handle : Handle) (fault : Option Fault) :
    (s.step (.call c handle fault)).1.rowsFor handle =
      (c.run s.nextStore handle fault (s.rowsFor handle)).table := by
  by_cases hh : handle = .engine
  · subst hh
    rfl
  · rw [Session.rowsFor, Session.rowsFor, if_neg hh, if_neg hh]
    exact s.step_caller_visible c fault hh

/-- A call that works on the rows that are seen, as one through an engine does where no transaction
of the caller is open. -/
theorem Session.step_on_view (s : Session) (c : Call) (fault : Option Fault)
    (h : handle = .engine → s.transaction = none) :
    let run := c.run s.nextStore handle fault s.visible
    (s.step (.call c handle fault)).2 = .call run.result run.logs ∧
      (s.step (.call c handle fault)).1.visible = run.table := by
  by_cases hh : handle = .engine
  · have hclosed := h hh
    subst hh
    rw [Session.visible_of_no_transaction hclosed]
    exact ⟨rfl, Session.visible_of_no_transaction hclosed⟩
  · exact ⟨(s.step_caller c fault hh).1, s.step_caller_visible c fault hh⟩

theorem Session.run_cons (s : Session) (a : Action) (as : List Action) :
    s.run (a :: as) = (((s.step a).1.run as).1, (s.step a).2 :: ((s.step a).1.run as).2) := rfl

theorem Session.run_append (s : Session) (as bs : List Action) :
    s.run (as ++ bs) = (((s.run as).1.run bs).1, (s.run as).2 ++ ((s.run as).1.run bs).2) := by
  induction as generalizing s with
  | nil => rfl
  | cons a as ih =>
    rw [List.cons_append, Session.run_cons, ih, Session.run_cons]
    rfl

theorem Session.run_length (s : Session) (as : List Action) : (s.run as).2.length = as.length := by
  induction as generalizing s with
  | nil => rfl
  | cons a as ih => rw [Session.run_cons, List.length_cons, List.length_cons, ih]

end StorageLedger.Ledger
