import StorageLedger.Ledger.Call
import StorageLedger.Proofs.Execution

namespace StorageLedger.Ledger
open StorageLedger.Store

variable {store : Store} {handle : Handle} {fault : Option Fault} {t : Table} {c : Call}
variable {read : Reply → Except Failure Reply}
variable {conclude : Reply → Except LedgerError Outcome × List LogRecord}

theorem perform_error {fault : Option Failure}
    (h : (perform store fault last statements t).result = .error e) :
    (perform store fault last statements t).table = t := by
  cases statements with
  | nil => cases h
  | cons s rest =>
    cases fault with
    | some failure => rfl
    | none =>
      simp only [perform] at h ⊢
      cases hr : store.run t s with
      | error failure => rfl
      | ok answer =>
        simp only [hr] at h ⊢
        rw [h]

theorem perform_idle {fault : Option Failure}
    (h : (perform store fault last statements t).statements = []) :
    (perform store fault last statements t).table = t := by
  cases statements with
  | nil => rfl
  | cons s rest =>
    cases fault with
    | some failure => rfl
    | none =>
      simp only [perform] at h
      split at h <;> cases h

theorem perform_logs {fault : Option Failure} :
    (perform store fault last statements t).logs = [] := by
  induction statements generalizing fault last t with
  | nil => rfl
  | cons s rest ih =>
    cases fault with
    | some failure => rfl
    | none =>
      simp only [perform]
      split
      · rfl
      · exact ih

/-- What every statement keeps, statements one after another keep. -/
theorem perform_preserves {P : Table → Prop} {fault : Option Failure}
    (hP : ∀ s ∈ statements, ∀ t reply t', P t → store.run t s = .ok (reply, t') → P t')
    (h : P t) : P (perform store fault last statements t).table := by
  induction statements generalizing fault last t with
  | nil => exact h
  | cons s rest ih =>
    obtain ⟨hs, hrest⟩ := List.forall_mem_cons.1 hP
    cases fault with
    | some failure => exact h
    | none =>
      simp only [perform]
      split
      · exact h
      · next reply t' hr =>
        dsimp only
        split
        · exact ih hrest (hs t reply t' h hr)
        · exact h

theorem perform_query {fault : Option Failure} (h : ∀ s ∈ statements, s.isQuery) :
    (perform store fault last statements t).table = t := by
  apply perform_preserves (P := fun t' => t' = t) _ rfl
  intro s hs t₁ reply t₂ ht hr
  exact (run_query (h s hs) hr).trans ht

theorem perform_single_ok {fault : Option Failure}
    (h : (perform store fault last [s] t).result = .ok reply) :
    store.run t s = .ok (reply, (perform store fault last [s] t).table) := by
  cases fault with
  | some failure => cases h
  | none =>
    simp only [perform] at h ⊢
    cases hr : store.run t s with
    | error failure =>
      simp only [hr] at h
      cases h
    | ok answer =>
      simp only [hr, Run.idle] at h ⊢
      cases h
      rfl

theorem performRead_single_ok {fault : Option Failure}
    (h : (performRead store fault [s] read t).result = .ok reply) :
    ∃ answer, store.run t s = .ok (answer, (performRead store fault [s] read t).table) ∧
      read answer = .ok reply := by
  cases hr : (perform store fault (.affected 0) [s] t).result with
  | error failure =>
    simp only [performRead, hr] at h
    cases h
  | ok answer =>
    simp only [performRead, hr] at h
    exact ⟨answer, perform_single_ok hr, h⟩

theorem performRead_single (hrun : store.run t s = .ok (answer, t'))
    (hread : read answer = .ok reply) :
    (performRead store none [s] read t).result = .ok reply := by
  simp only [performRead, perform, hrun]
  exact hread

section OwnTransaction

variable {work : Table → Run ε α} {connectFault commitFault : Option ε}

theorem ownTransaction_of_error (h : (work t).result = .error e) :
    ownTransaction none commitFault work t =
      { (work t).between .begin_ .rollback with table := t } := by
  simp only [ownTransaction, h]

theorem ownTransaction_of_ok (h : (work t).result = .ok a) :
    ownTransaction none none work t = (work t).between .begin_ .commit := by
  simp only [ownTransaction, h]

theorem ownTransaction_of_commit_fault (h : (work t).result = .ok a) :
    ownTransaction none (some e) work t =
      { (work t).between .begin_ .commit with result := .error e, table := t } := by
  simp only [ownTransaction, h]

theorem ownTransaction_error
    (h : (ownTransaction connectFault commitFault work t).result = .error e) :
    (ownTransaction connectFault commitFault work t).table = t := by
  cases connectFault with
  | some e' => rfl
  | none =>
    cases hr : (work t).result with
    | error e' => rw [ownTransaction_of_error hr]
    | ok a =>
      cases commitFault with
      | some e' => rw [ownTransaction_of_commit_fault hr]
      | none =>
        rw [ownTransaction_of_ok hr] at h
        cases hr.symm.trans h

theorem ownTransaction_ok
    (h : (ownTransaction connectFault commitFault work t).result = .ok a) :
    (work t).result = .ok a ∧
      (ownTransaction connectFault commitFault work t).table = (work t).table := by
  cases connectFault with
  | some e => cases h
  | none =>
    cases hr : (work t).result with
    | error e =>
      rw [ownTransaction_of_error hr] at h
      cases hr.symm.trans h
    | ok a' =>
      cases commitFault with
      | some e =>
        rw [ownTransaction_of_commit_fault hr] at h
        cases h
      | none =>
        rw [ownTransaction_of_ok hr] at h ⊢
        exact ⟨hr.symm.trans h, rfl⟩

theorem ownTransaction_logs (h : (work t).logs = []) :
    (ownTransaction connectFault commitFault work t).logs = [] := by
  cases connectFault with
  | some e => rfl
  | none =>
    cases hr : (work t).result with
    | error e =>
      rw [ownTransaction_of_error hr]
      exact h
    | ok a =>
      cases commitFault with
      | some e =>
        rw [ownTransaction_of_commit_fault hr]
        exact h
      | none =>
        rw [ownTransaction_of_ok hr]
        exact h

end OwnTransaction

def carryOut (handle : Handle) (fault : Option Fault) (work : Table → Run Failure Reply)
    (t : Table) : Run Failure Reply :=
  if handle = .engine then ownTransaction (faultAt fault .connect) (faultAt fault .commit) work t
  else work t

theorem carryOut_of_engine {work : Table → Run Failure Reply} (h : handle = .engine) :
    carryOut handle fault work t =
      ownTransaction (faultAt fault .connect) (faultAt fault .commit) work t := if_pos h

theorem carryOut_of_caller {work : Table → Run Failure Reply} (h : handle ≠ .engine) :
    carryOut handle fault work t = work t := if_neg h

theorem carryOut_ok {work : Table → Run Failure Reply}
    (h : (carryOut handle fault work t).result = .ok reply) :
    (work t).result = .ok reply ∧ (carryOut handle fault work t).table = (work t).table := by
  by_cases hh : handle = .engine
  · rw [carryOut_of_engine hh] at h ⊢
    exact ownTransaction_ok h
  · rw [carryOut_of_caller hh] at h ⊢
    exact ⟨h, rfl⟩

theorem carryOut_faultless {work : Table → Run Failure Reply}
    (h : (work t).result = .ok reply) : (carryOut handle none work t).result = .ok reply := by
  by_cases hh : handle = .engine
  · rw [carryOut_of_engine hh]
    exact (congrArg Run.result (ownTransaction_of_ok h)).trans h
  · rw [carryOut_of_caller hh]
    exact h

theorem carryOut_error {work : Table → Run Failure Reply}
    (hwork : ∀ e, (work t).result = .error e → (work t).table = t)
    (h : (carryOut handle fault work t).result = .error e) :
    (carryOut handle fault work t).table = t := by
  by_cases hh : handle = .engine
  · rw [carryOut_of_engine hh] at h ⊢
    exact ownTransaction_error h
  · rw [carryOut_of_caller hh] at h ⊢
    exact hwork e h

theorem carryOut_logs {work : Table → Run Failure Reply} (h : (work t).logs = []) :
    (carryOut handle fault work t).logs = [] := by
  by_cases hh : handle = .engine
  · rw [carryOut_of_engine hh]
    exact ownTransaction_logs h
  · rw [carryOut_of_caller hh]
    exact h

theorem carryOut_preserves {P : Table → Prop} {work : Table → Run Failure Reply} (h : P t)
    (hwork : P (work t).table) : P (carryOut handle fault work t).table := by
  by_cases hh : handle = .engine
  · rw [carryOut_of_engine hh]
    cases hr : (ownTransaction (faultAt fault .connect) (faultAt fault .commit) work t).result with
    | error e =>
      rw [ownTransaction_error hr]
      exact h
    | ok reply =>
      rw [(ownTransaction_ok hr).2]
      exact hwork
  · rw [carryOut_of_caller hh]
    exact hwork

theorem Call.run_answer (h : c.plan handle = .answer result) :
    c.run store handle fault t = ⟨[], [], c.openingLogs ++ [], result, t⟩ := by
  simp only [Call.run, h]
  rfl

theorem Call.run_send (h : c.plan handle = .send statements read conclude) :
    c.run store handle fault t =
      let run := c.conclude conclude
        (carryOut handle fault (performRead store (faultAt fault .execute) statements read) t)
      { run with logs := c.openingLogs ++ run.logs } := by
  simp only [Call.run, h]
  rfl

theorem Call.run_of_reply (hplan : c.plan handle = .send statements read conclude)
    (h : (carryOut handle fault
      (performRead store (faultAt fault .execute) statements read) t).result = .ok reply) :
    (c.run store handle fault t).result = (conclude reply).1 ∧
      (c.run store handle fault t).logs = c.openingLogs ++ (conclude reply).2 := by
  have hlogs : (carryOut handle fault
      (performRead store (faultAt fault .execute) statements read) t).logs = [] :=
    carryOut_logs perform_logs
  rw [Call.run_send hplan]
  simp only [Call.conclude, Run.finish, h, hlogs, List.nil_append, and_self]

theorem Call.run_of_failure {failure : Failure}
    (hplan : c.plan handle = .send statements read conclude)
    (h : (carryOut handle fault
      (performRead store (faultAt fault .execute) statements read) t).result = .error failure) :
    (c.run store handle fault t).result = .error (c.errorOf failure).1 ∧
      (c.run store handle fault t).logs = c.openingLogs ++ (c.errorOf failure).2 := by
  have hlogs : (carryOut handle fault
      (performRead store (faultAt fault .execute) statements read) t).logs = [] :=
    carryOut_logs perform_logs
  rw [Call.run_send hplan]
  simp only [Call.conclude, Run.finish, h, hlogs, List.nil_append, and_self]

theorem Call.run_preserves {P : Table → Prop}
    (hP : ∀ statements read conclude, c.plan handle = .send statements read conclude →
      ∀ s ∈ statements, ∀ t reply t', P t → store.run t s = .ok (reply, t') → P t')
    (h : P t) : P (c.run store handle fault t).table := by
  cases hplan : c.plan handle with
  | answer result =>
    rw [Call.run_answer hplan]
    exact h
  | send statements read conclude =>
    rw [Call.run_send hplan]
    exact carryOut_preserves h (perform_preserves (hP statements read conclude hplan) h)

/-- A plan that can fail after the store has answered only if it asks queries. -/
def Plan.FailsSafe : Plan → Prop
  | .answer _ => True
  | .send statements read conclude =>
    (∀ s ∈ statements, s.isQuery) ∨
      (∀ reply, read reply = .ok reply) ∧ ∀ reply, ∃ o, (conclude reply).1 = .ok o

theorem planBulk_fails_safe (w : WorkspaceId) (es : List Entry) : (planBulk w es).FailsSafe := by
  unfold planBulk
  split
  · trivial
  · exact .inr ⟨fun _ => rfl, fun _ => ⟨_, rfl⟩⟩

theorem Call.plan_fails_safe (c : Call) (handle : Handle) : (c.plan handle).FailsSafe := by
  cases c with
  | contains => exact .inl (by simp [Statement.isQuery])
  | get => exact .inl (by simp [Statement.isQuery])
  | listRecords => exact .inl (by simp [Statement.isQuery])
  | listIds => exact .inl (by simp [Statement.isQuery])
  | usage => exact .inl (by simp [Statement.isQuery])
  | createSchema => exact .inl (by simp [Statement.isQuery])
  | resetSchema => exact .inr ⟨fun _ => rfl, fun _ => ⟨_, rfl⟩⟩
  | upsert w f ty v =>
    simp only [Call.plan]
    split
    · trivial
    · exact .inr ⟨fun _ => rfl, fun _ => ⟨_, rfl⟩⟩
  | insertBulk w batch =>
    simp only [Call.plan]
    split
    · trivial
    · exact planBulk_fails_safe _ _
  | delete w f =>
    simp only [Call.plan]
    split
    · trivial
    · exact .inr ⟨fun _ => rfl, fun _ => ⟨_, rfl⟩⟩

theorem Plan.FailsSafe.work_error {fault : Option Failure}
    (hp : (Plan.send statements read conclude).FailsSafe)
    (h : (performRead store fault statements read t).result = .error e) :
    (performRead store fault statements read t).table = t := by
  rcases hp with hq | ⟨hread, _⟩
  · exact perform_query hq
  · cases hr : (perform store fault (.affected 0) statements t).result with
    | error e' => exact perform_error hr
    | ok reply =>
      simp only [performRead, hr] at h
      cases (hread reply).symm.trans h

/-- A call without a result leaves the table as it was. -/
theorem Call.run_error (h : (c.run store handle fault t).result = .error e) :
    (c.run store handle fault t).table = t := by
  have hp := c.plan_fails_safe handle
  cases hplan : c.plan handle with
  | answer result => rw [Call.run_answer hplan]
  | send statements read conclude =>
    rw [hplan] at hp
    rw [Call.run_send hplan] at h ⊢
    let work := performRead store (faultAt fault .execute) statements read
    show (carryOut handle fault work t).table = t
    cases hr : (carryOut handle fault work t).result with
    | error failure => exact carryOut_error (fun _ => hp.work_error) hr
    | ok reply =>
      -- The work has succeeded, so what failed is its conclusion, which only that of a query may.
      rcases hp with hq | ⟨_, hconclude⟩
      · exact (carryOut_ok hr).2.trans (perform_query hq)
      · obtain ⟨o, ho⟩ := hconclude reply
        simp only [Call.conclude, Run.finish, work, hr, ho] at h
        cases h

/-- A call that has a result has executed its statement, read the reply and concluded from it. -/
theorem Call.run_ok (hplan : c.plan handle = .send [s] read conclude)
    (h : (c.run store handle fault t).result = .ok o) :
    ∃ answer reply, store.run t s = .ok (answer, (c.run store handle fault t).table) ∧
      read answer = .ok reply ∧ (conclude reply).1 = .ok o := by
  rw [Call.run_send hplan] at h ⊢
  let work := performRead store (faultAt fault .execute) [s] read
  cases hr : (carryOut handle fault work t).result with
  | error failure =>
    simp only [Call.conclude, Run.finish, work, hr] at h
    cases h
  | ok reply =>
    simp only [Call.conclude, Run.finish, work, hr] at h ⊢
    obtain ⟨hwork, htable⟩ := carryOut_ok hr
    obtain ⟨answer, hanswer, hread⟩ := performRead_single_ok hwork
    exact ⟨answer, reply, htable ▸ hanswer, hread, h⟩

theorem Call.table_of_query (hplan : c.plan handle = .send [s] read conclude) (hs : s.isQuery) :
    (c.run store handle fault t).table = t := by
  apply Call.run_preserves (P := fun t' => t' = t) _ rfl
  intro statements read' conclude' hplan' s' hs' t₁ reply t₂ ht₁ hrun
  obtain ⟨rfl, _, _⟩ := Plan.send.inj (hplan.symm.trans hplan')
  obtain rfl := List.mem_singleton.1 hs'
  exact (run_query hs hrun).trans ht₁

theorem Call.run_idle (h : handle ≠ .engine)
    (hidle : (c.run store handle fault t).statements = []) :
    (c.run store handle fault t).table = t := by
  cases hplan : c.plan handle with
  | answer result => rw [Call.run_answer hplan]
  | send statements read conclude =>
    simp only [Call.run_send hplan, Call.conclude, Run.finish, carryOut_of_caller h] at hidle ⊢
    exact perform_idle hidle

theorem Call.plan_of_ne_engine (c : Call) (h : handle ≠ .engine) (h' : handle' ≠ .engine) :
    c.plan handle = c.plan handle' := by
  cases c with
  | delete w f => simp only [Call.plan, if_neg h, if_neg h']
  | _ => rfl

theorem Call.run_of_ne_engine (c : Call) (h : handle ≠ .engine) (h' : handle' ≠ .engine) :
    c.run store handle fault t = c.run store handle' fault t := by
  simp only [Call.run, c.plan_of_ne_engine h h', if_neg h, if_neg h']

theorem Call.plan_of_not_delete (h : ∀ w fileId, c ≠ .delete w fileId) (handle handle' : Handle) :
    c.plan handle = c.plan handle' := by
  cases c with
  | delete w fileId => exact absurd rfl (h w fileId)
  | _ => rfl

theorem carryOut_engine {work : Table → Run Failure Reply}
    (hwork : ∀ e, (work t).result = .error e → (work t).table = t)
    (hconnect : faultAt fault .connect = none) (hcommit : faultAt fault .commit = none) :
    (carryOut .engine fault work t).result = (work t).result ∧
      (carryOut .engine fault work t).logs = (work t).logs ∧
      (carryOut .engine fault work t).table = (work t).table := by
  rw [carryOut_of_engine rfl, hconnect, hcommit]
  cases hr : (work t).result with
  | error e =>
    rw [ownTransaction_of_error hr]
    exact ⟨hr, rfl, (hwork e hr).symm⟩
  | ok reply =>
    rw [ownTransaction_of_ok hr]
    exact ⟨hr, rfl, rfl⟩

/-- A transaction of its own changes neither what a call answers nor what it leaves behind, unless
the store fails when the transaction begins or ends. -/
theorem Call.run_engine (store : Store) (t : Table) (hplan : c.plan .engine = c.plan handle)
    (h : handle ≠ .engine) (hconnect : faultAt fault .connect = none)
    (hcommit : faultAt fault .commit = none) :
    (c.run store .engine fault t).result = (c.run store handle fault t).result ∧
      (c.run store .engine fault t).logs = (c.run store handle fault t).logs ∧
      (c.run store .engine fault t).table = (c.run store handle fault t).table := by
  have hp := c.plan_fails_safe handle
  cases hsend : c.plan handle with
  | answer result =>
    rw [Call.run_answer hsend, Call.run_answer (hplan.trans hsend)]
    exact ⟨rfl, rfl, rfl⟩
  | send statements read conclude =>
    rw [hsend] at hp
    rw [Call.run_send hsend, Call.run_send (hplan.trans hsend)]
    have hwork : ∀ e, (performRead store (faultAt fault .execute) statements read t).result =
        .error e → (performRead store (faultAt fault .execute) statements read t).table = t :=
      fun _ => hp.work_error
    generalize performRead store (faultAt fault .execute) statements read = work at hwork ⊢
    obtain ⟨hresult, hlogs, htable⟩ := carryOut_engine hwork hconnect hcommit
    simp only [Call.conclude, Run.finish, carryOut_of_caller h, hresult, hlogs, htable, and_self]

end StorageLedger.Ledger
