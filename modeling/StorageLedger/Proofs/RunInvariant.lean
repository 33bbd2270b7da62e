import Mathlib
import StorageLedger.Proofs.TableInvariant

namespace StorageLedger.Ledger
open StorageLedger.Calendar StorageLedger.Store

variable {now : Timestamp} {handle : Handle} {fault : Option Fault} {t : Table} {c : Call}

/-- The committed table, and those of the caller's transaction: its view and its savepoint. -/
def Session.tables (s : Session) : List Table :=
  s.committed :: (s.transaction.map fun tx => tx.view :: tx.savepoint.toList).getD []

theorem Session.visible_mem_tables (s : Session) : s.visible ∈ s.tables := by
  rw [Session.visible, Session.tables]
  cases s.transaction with
  | none => exact List.mem_cons_self
  | some tx => exact List.mem_cons_of_mem _ List.mem_cons_self

theorem Session.Valid.tables {s : Session} (h : s.Valid times) : ∀ t ∈ s.tables, t.Valid times := by
  intro t ht
  rcases List.mem_cons.1 ht with rfl | ht
  · exact h.committed
  · cases hs : s.transaction with
    | none =>
      rw [hs] at ht
      cases ht
    | some tx =>
      have hopened := Session.opened_of_transaction hs
      rw [hs] at ht
      rcases List.mem_cons.1 ht with rfl | ht
      · exact hopened ▸ h.view
      · exact h.savepoint t (hopened ▸ Option.mem_toList.1 ht)

/-- The time is the stamp of one of so many steps. -/
def StampedBy (steps : Nat) (time : Timestamp) : Prop :=
  ∃ i, 1 ≤ i ∧ i ≤ steps ∧ time = stamp i

theorem StampedBy.mono (h : StampedBy m time) (hm : m ≤ n) : StampedBy n time := by
  obtain ⟨i, hpos, hi, htime⟩ := h
  exact ⟨i, hpos, Nat.le_trans hi hm, htime⟩

theorem Session.Valid.step_stamped {s : Session} (h : s.Valid (StampedBy s.steps)) (a : Action) :
    (s.step a).1.Valid (StampedBy (s.step a).1.steps) := by
  rw [Session.step_steps]
  have hearlier := h.mono fun time ht => ht.mono (Nat.le_succ s.steps)
  have hnow : StampedBy (s.steps + 1) (stamp (s.steps + 1)) :=
    ⟨s.steps + 1, Nat.le_add_left 1 _, Nat.le_refl _, rfl⟩
  exact hearlier.step hnow a

theorem Session.Valid.run_stamped {s : Session} (h : s.Valid (StampedBy s.steps))
    (as : List Action) : (s.run as).1.Valid (StampedBy (s.steps + as.length)) := by
  induction as generalizing s with
  | nil => exact h
  | cons a as ih =>
    have hrun := ih (h.step_stamped a)
    rw [Session.step_steps, Nat.add_right_comm] at hrun
    exact hrun

/-- A plan that logs no error of its own when the store replies without a script. -/
def Plan.Quiet : Plan → Prop
  | .answer _ => True
  | .send statements read conclude => ∀ now fault t reply,
      (performRead { now := now } fault statements read t).result = .ok reply →
        ∀ record ∈ (conclude reply).2, record.level ≠ .error

theorem Plan.Quiet.of_logs {read : Reply → Except Failure Reply}
    {conclude : Reply → Except LedgerError Outcome × List LogRecord}
    (h : ∀ reply, ∀ record ∈ (conclude reply).2, record.level ≠ .error) :
    (Plan.send statements read conclude).Quiet :=
  fun _ _ _ reply _ => h reply

/-- An upsert would complain of a number of rows other than one. The store always affects one. -/
theorem Call.plan_quiet (c : Call) (handle : Handle) : (c.plan handle).Quiet := by
  cases c with
  | upsert w f ty v =>
    simp only [Call.plan]
    split
    · trivial
    · intro now fault t reply hr
      obtain ⟨answer, hanswer, hread⟩ := performRead_single_ok hr
      cases hread
      rw [(execute_ok_upsert hanswer).2.1]
      exact List.forall_mem_nil _
  | insertBulk w batch =>
    simp only [Call.plan]
    split
    · trivial
    · unfold planBulk
      split
      · trivial
      · exact Plan.Quiet.of_logs (by simp [bulkLog, plainLog])
  | delete w f =>
    simp only [Call.plan]
    split
    · trivial
    · exact Plan.Quiet.of_logs (by simp [plainLog])
  | _ => exact Plan.Quiet.of_logs (by simp)

theorem Call.openingLogs_level (c : Call) : ∀ record ∈ c.openingLogs, record.level ≠ .error := by
  cases c with
  | get w f => simp [Call.openingLogs, plainLog]
  | _ => exact List.forall_mem_nil _

theorem Call.errorOf_logs {failure : Failure} (h : record ∈ (c.errorOf failure).2) :
    record = plainLog .error (c.name ++ ": store failure: " ++ failure.text) := by
  unfold Call.errorOf at h
  split at h
  · exact List.mem_singleton.1 h
  · cases h

theorem Call.error_record (h : record ∈ (c.run { now := now } handle fault t).logs)
    (herror : record.level = .error) :
    ∃ failure : Failure,
      record = plainLog .error (c.name ++ ": store failure: " ++ failure.text) := by
  have hopening := c.openingLogs_level record
  have hquiet := c.plan_quiet handle
  cases hplan : c.plan handle with
  | answer result =>
    rw [Call.run_answer hplan, List.append_nil] at h
    exact absurd herror (hopening h)
  | send statements read conclude =>
    rw [hplan] at hquiet
    let work := performRead { now := now } (faultAt fault .execute) statements read
    cases hr : (carryOut handle fault work t).result with
    | error failure =>
      rw [(Call.run_of_failure hplan hr).2] at h
      rcases List.mem_append.1 h with h | h
      · exact absurd herror (hopening h)
      · exact ⟨failure, Call.errorOf_logs h⟩
    | ok reply =>
      rw [(Call.run_of_reply hplan hr).2] at h
      rcases List.mem_append.1 h with h | h
      · exact absurd herror (hopening h)
      · exact absurd herror (hquiet now _ t reply (carryOut_ok hr).1 record h)

def Answer.logs : Answer → List LogRecord
  | .call _ logs => logs
  | _ => []

theorem Session.step_error_record {s : Session} (h : record ∈ (s.step a).2.logs)
    (herror : record.level = .error) :
    ∃ (c : Call) (failure : Failure),
      record = plainLog .error (c.name ++ ": store failure: " ++ failure.text) := by
  cases a with
  | call c handle fault =>
    rw [s.step_answer c handle fault] at h
    exact ⟨c, Call.error_record h herror⟩
  | _ => cases h

theorem Session.run_error_record {s : Session} (hanswer : answer ∈ (s.run as).2)
    (h : record ∈ answer.logs) (herror : record.level = .error) :
    ∃ (c : Call) (failure : Failure),
      record = plainLog .error (c.name ++ ": store failure: " ++ failure.text) := by
  induction as generalizing s with
  | nil => cases hanswer
  | cons a as ih =>
    rw [Session.run_cons] at hanswer
    rcases List.mem_cons.1 hanswer with rfl | hanswer
    · exact Session.step_error_record h herror
    · exact ih hanswer

theorem Call.report_ne_row_count (c : Call) (text rest : String) :
    c.name ++ ": store failure: " ++ text ≠ "upsert_blob_metadata: rows_affected: " ++ rest := by
  intro h
  have hlists : (c.name ++ ": store failure: ").toList ++ text.toList =
      "upsert_blob_metadata: rows_affected: ".toList ++ rest.toList := by
    rw [← String.toList_append, ← String.toList_append, h]
  -- One of the two beginnings would begin with the other, which no name allows.
  have hleft := List.prefix_append (c.name ++ ": store failure: ").toList text.toList
  have hright := List.prefix_append "upsert_blob_metadata: rows_affected: ".toList rest.toList
  rw [← hlists] at hright
  rcases List.prefix_or_prefix_of_prefix hleft hright with hp | hp <;> revert hp
  · cases c <;> simp only [Call.name] <;> decide
  · cases c <;> simp only [Call.name] <;> decide

/-- After any run, and so after every step of one, no two rows of a table share a key, sizes are
within bounds, and each row was written by a step of the run. No step complains that an upsert
affected other than one row. -/
theorem Session.tables_stay_valid (as : List Action) :
    let run := Session.start.run as
    (∀ t ∈ run.1.tables, (t.rows.map Row.key).Nodup ∧
      ∀ r ∈ t.rows, 0 ≤ r.fileSize ∧ r.fileSize ≤ 2 ^ 63 - 1 ∧
        ∃ i, 1 ≤ i ∧ i ≤ as.length ∧ r.modifiedAt = stamp i) ∧
      ∀ answer ∈ run.2, ∀ record ∈ answer.logs, record.level = .error →
        record.anomaly = none ∧
          ∀ rest, record.message ≠ "upsert_blob_metadata: rows_affected: " ++ rest := by
  intro run
  refine ⟨?_, ?_⟩
  · intro t ht
    have hrun := Session.Valid.start.run_stamped as
    rw [show Session.start.steps + as.length = as.length from Nat.zero_add _] at hrun
    have hvalid := hrun.tables t ht
    exact ⟨hvalid.keys, hvalid.rows⟩
  · intro answer hanswer record hrecord herror
    obtain ⟨c, failure, rfl⟩ := Session.run_error_record hanswer hrecord herror
    exact ⟨rfl, c.report_ne_row_count failure.text⟩

theorem Session.tables_valid_after_failed_batch :
    let w : WorkspaceId := ⟨7, by decide⟩
    let batch := [⟨"o", "b", "text/css", 1⟩, ⟨"o", "c", "text/css", -1⟩]
    let as : List Action :=
      [.call (.upsert w "o_a" "text/plain" (.int 3)) .engine none,
        .call (.upsert w "o_a" "text/html" (.int 5)) .connection none, .savepoint,
        .call (.insertBulk w (.entries batch)) .session none]
    let run := Session.start.run as
    let row : Row := ⟨w, "o_a", "text/html", 5, stamp 2⟩
    let report := plainLog .error
      ("insert_blob_metadata_bulk: store failure: " ++ Failure.negativeSize.text)
    (run.1.visible ∈ run.1.tables ∧ (run.1.visible.rows.map Row.key).Nodup) ∧
      (row ∈ run.1.visible.rows ∧ ∃ i, 1 ≤ i ∧ i ≤ as.length ∧ row.modifiedAt = stamp i) ∧
      (∃ answer ∈ run.2, report ∈ answer.logs) ∧ report.level = .error ∧
      report.anomaly = none := by
  intro w batch as run row report
  obtain ⟨htables, hlogs⟩ := Session.tables_stay_valid as
  have hview : run.1.visible ∈ run.1.tables := run.1.visible_mem_tables
  have hrow : row ∈ run.1.visible.rows := by decide +kernel
  obtain ⟨hkeys, hrows⟩ := htables _ hview
  obtain ⟨_, _, hstamp⟩ := hrows row hrow
  let answer : Answer :=
    .call (.error (.storeFailure "insert_blob_metadata_bulk" .negativeSize)) [report]
  have hanswer : answer ∈ run.2 := .tail _ (.tail _ (.tail _ (.head _)))
  have hreport : report ∈ answer.logs := List.mem_singleton.2 rfl
  exact ⟨⟨hview, hkeys⟩, ⟨hrow, hstamp⟩, ⟨answer, hanswer, hreport⟩, rfl,
    (hlogs answer hanswer report hreport rfl).1⟩

end StorageLedger.Ledger
