import StorageLedger.Proofs.CallRun

namespace StorageLedger.Ledger
open StorageLedger.Store

variable {store store' : Store} {handle : Handle} {t : Table} {c : Call}
variable {statements : List Statement} {read : Reply → Except Failure Reply}
variable {conclude : Reply → Except LedgerError Outcome × List LogRecord}
variable {f : Table → Table} {g : Reply → Reply} {forget : Outcome → Outcome}

def Run.through (f : Table → Table) (g : α → β) (run : Run ε α) : Run ε β :=
  ⟨run.events, run.statements, run.logs, run.result.map g, f run.table⟩

theorem perform_through (fault : Option Failure) (last : Reply)
    (hrun : ∀ s ∈ statements, ∀ t, store'.run (f t) s = (store.run t s).map (Prod.map g f))
    (t : Table) :
    perform store' fault (g last) statements (f t) =
      (perform store fault last statements t).through f g := by
  induction statements generalizing fault last t with
  | nil => rfl
  | cons s rest ih =>
    obtain ⟨hs, hrest⟩ := List.forall_mem_cons.1 hrun
    cases fault with
    | some failure => rfl
    | none =>
      simp only [perform, hs]
      cases store.run t s with
      | error failure => rfl
      | ok answer =>
        obtain ⟨reply, t'⟩ := answer
        simp only [Except.map, Prod.map, ih none reply hrest]
        cases hr : (perform store none reply rest t').result with
        | error failure => simp only [Run.through, hr, Except.map]
        | ok reply' => simp only [Run.through, hr, Except.map]

theorem performRead_through {fault : Option Failure} (hstart : g (.affected 0) = .affected 0)
    (hrun : ∀ s ∈ statements, ∀ t, store'.run (f t) s = (store.run t s).map (Prod.map g f))
    (hread : ∀ reply, (perform store fault (.affected 0) statements t).result = .ok reply →
      read (g reply) = (read reply).map g) :
    performRead store' fault statements read (f t) =
      (performRead store fault statements read t).through f g := by
  have hperform := perform_through fault (.affected 0) hrun t
  rw [hstart] at hperform
  simp only [performRead, hperform]
  cases hr : (perform store fault (.affected 0) statements t).result with
  | error failure =>
    simp only [Run.through, hr]
    rfl
  | ok reply =>
    simp only [Run.through, hr, Except.map, bind, Except.bind, hread reply hr]

theorem ownTransaction_through {work work' : Table → Run Failure Reply}
    (h : work' (f t) = (work t).through f g) :
    ownTransaction connectFault commitFault work' (f t) =
      (ownTransaction connectFault commitFault work t).through f g := by
  cases connectFault with
  | some e => rfl
  | none =>
    have hresult : (work' (f t)).result = (work t).result.map g := congrArg Run.result h
    cases hr : (work t).result with
    | error e =>
      rw [hr] at hresult
      rw [ownTransaction_of_error hr, ownTransaction_of_error hresult, h]
      rfl
    | ok reply =>
      rw [hr] at hresult
      cases commitFault with
      | some e =>
        rw [ownTransaction_of_commit_fault hr, ownTransaction_of_commit_fault hresult, h]
        rfl
      | none =>
        rw [ownTransaction_of_ok hr, ownTransaction_of_ok hresult, h]
        rfl

theorem carryOut_through {fault : Option Fault} {work work' : Table → Run Failure Reply}
    (h : work' (f t) = (work t).through f g) :
    carryOut handle fault work' (f t) = (carryOut handle fault work t).through f g := by
  by_cases hh : handle = .engine
  · rw [carryOut_of_engine hh, carryOut_of_engine hh]
    exact ownTransaction_through h
  · rw [carryOut_of_caller hh, carryOut_of_caller hh]
    exact h

theorem Call.conclude_through {run : Run Failure Reply}
    (h : ∀ reply, run.result = .ok reply →
      conclude (g reply) = ((conclude reply).1.map forget, (conclude reply).2)) :
    c.conclude conclude (run.through f g) = (c.conclude conclude run).through f forget := by
  cases hr : run.result with
  | error failure =>
    simp only [Call.conclude, Run.finish, Run.through, hr]
    rfl
  | ok reply =>
    simp only [Call.conclude, Run.finish, Run.through, hr, Except.map, h reply hr]

/-- A call whose statements, reading and conclusion do the same before and after the maps. -/
theorem Call.run_through {fault : Option Fault}
    (hplan : c.plan handle = .send statements read conclude)
    (hstart : g (.affected 0) = .affected 0)
    (hrun : ∀ s ∈ statements, ∀ t, store'.run (f t) s = (store.run t s).map (Prod.map g f))
    (hread : ∀ reply,
      (perform store (faultAt fault .execute) (.affected 0) statements t).result = .ok reply →
        read (g reply) = (read reply).map g)
    (hconclude : ∀ reply,
      (carryOut handle fault
        (performRead store (faultAt fault .execute) statements read) t).result = .ok reply →
        conclude (g reply) = ((conclude reply).1.map forget, (conclude reply).2)) :
    c.run store' handle fault (f t) = (c.run store handle fault t).through f forget := by
  rw [Call.run_send hplan, Call.run_send hplan]
  dsimp only
  rw [carryOut_through (performRead_through hstart hrun hread), Call.conclude_through hconclude]
  rfl

end StorageLedger.Ledger
