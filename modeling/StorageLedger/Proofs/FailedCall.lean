import StorageLedger.Proofs.Session

namespace StorageLedger.Ledger
open StorageLedger.Store

variable {s : Session} {c : Call} {handle : Handle} {fault : Option Fault}

theorem Session.failed_step_engine
    (h : (s.step (.call c .engine fault)).2 = .call (.error e) logs) :
    (s.step (.call c .engine fault)).1 = { s with steps := s.steps + 1 } := by
  rw [Session.step_engine] at h ⊢
  simp only [Answer.call.injEq] at h
  dsimp only
  rw [Call.run_error h.1]

theorem Session.failed_step_caller (hh : handle ≠ .engine)
    (h : (s.step (.call c handle fault)).2 = .call (.error e) logs) :
    (s.step (.call c handle fault)).1.committed = s.committed ∧
      (s.step (.call c handle fault)).1.opened = s.opened := by
  obtain ⟨hanswer, hcommitted, hopened⟩ := s.step_caller c fault hh
  rw [hanswer] at h
  simp only [Answer.call.injEq] at h
  refine ⟨hcommitted, hopened.trans ?_⟩
  rw [Call.run_error h.1, Session.visible_eq_opened]

/-- A call in the transaction of the caller depends on the rows that the caller sees, not on whether
the transaction is open already. -/
theorem Session.step_caller_congr {s' : Session} (hh : handle ≠ .engine)
    (hsteps : s.steps = s'.steps) (hcommitted : s.committed = s'.committed)
    (hopened : s.opened = s'.opened) :
    (s.step (.call c handle fault)).2 = (s'.step (.call c handle fault)).2 ∧
      (s.step (.call c handle fault)).1.committed = (s'.step (.call c handle fault)).1.committed ∧
      (s.step (.call c handle fault)).1.visible = (s'.step (.call c handle fault)).1.visible := by
  have hvisible : s.visible = s'.visible := by
    rw [Session.visible_eq_opened, Session.visible_eq_opened, hopened]
  have hstore : s.nextStore = s'.nextStore := by
    rw [Session.nextStore, Session.nextStore, hsteps]
  obtain ⟨hanswer, hcommitted₁, _⟩ := s.step_caller c fault hh
  obtain ⟨hanswer', hcommitted₂, _⟩ := s'.step_caller c fault hh
  refine ⟨?_, ?_, ?_⟩
  · rw [hanswer, hanswer', hvisible, hstore]
  · rw [hcommitted₁, hcommitted₂, hcommitted]
  · rw [s.step_caller_visible c fault hh, s'.step_caller_visible c fault hh, hvisible, hstore]

/-- A failed call leaves the committed rows, the rows that the caller sees and those at the last
savepoint as they were. The same call made again, or another one, with or without a fault, answers
and leaves behind what it would have at the same step if the failed call had not been made. -/
theorem Session.failed_call_changes_nothing (s : Session) (c : Call) (handle : Handle)
    (fault : Option Fault) (e : LedgerError) (logs : List LogRecord)
    (h : (s.step (.call c handle fault)).2 = .call (.error e) logs) :
    let failed := (s.step (.call c handle fault)).1
    failed.committed = s.committed ∧ failed.visible = s.visible ∧
      failed.opened.savepoint = s.opened.savepoint ∧
      ∀ (steps : Nat) (c' : Call) (fault' : Option Fault),
        let again := { failed with steps := steps }.step (.call c' handle fault')
        let instead := { s with steps := steps }.step (.call c' handle fault')
        again.2 = instead.2 ∧ again.1.committed = instead.1.committed ∧
          again.1.visible = instead.1.visible := by
  intro failed
  by_cases hh : handle = .engine
  · subst hh
    have hfailed : failed = { s with steps := s.steps + 1 } := Session.failed_step_engine h
    rw [hfailed]
    exact ⟨rfl, rfl, rfl, fun _ _ _ => ⟨rfl, rfl, rfl⟩⟩
  · obtain ⟨hcommitted, hopened⟩ := Session.failed_step_caller hh h
    have hvisible : failed.visible = s.visible := by
      rw [Session.visible_eq_opened, Session.visible_eq_opened, hopened]
    refine ⟨hcommitted, hvisible, congrArg Transaction.savepoint hopened, ?_⟩
    intro steps c' fault'
    exact Session.step_caller_congr hh rfl hcommitted hopened

theorem Session.failed_batch_keeps_row :
    let w : WorkspaceId := ⟨7, by decide⟩
    let s := (Session.start.step (.call (.upsert w "o_c" "text/plain" (.int 5)) .session none)).1
    let batch := [⟨"o", "a", "text/plain", 1⟩, ⟨"o", "b", "text/plain", -1⟩]
    let a : Action := .call (.insertBulk w (.entries batch)) .connection none
    (s.step a).2 = .call (.error (.storeFailure "insert_blob_metadata_bulk" .negativeSize))
        [plainLog .error
          ("insert_blob_metadata_bulk: store failure: " ++ Failure.negativeSize.text)] ∧
      (s.step a).1.visible = s.visible ∧ s.visible.rows.length = 1 := by
  intro w s batch a
  have h : (s.step a).2 = .call (.error (.storeFailure "insert_blob_metadata_bulk" .negativeSize))
      [plainLog .error
        ("insert_blob_metadata_bulk: store failure: " ++ Failure.negativeSize.text)] := rfl
  obtain ⟨_, hvisible, _⟩ := s.failed_call_changes_nothing _ _ _ _ _ h
  exact ⟨h, hvisible, rfl⟩

end StorageLedger.Ledger
