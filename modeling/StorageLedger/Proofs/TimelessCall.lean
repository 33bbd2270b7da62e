import StorageLedger.Proofs.Projection
import StorageLedger.Proofs.Timeless

namespace StorageLedger.Ledger
open StorageLedger.Calendar StorageLedger.Store

variable {now : Timestamp} {t : Table} {handle : Handle} {fault : Option Fault} {c : Call}
variable {read : Reply → Except Failure Reply}
variable {conclude : Reply → Except LedgerError Outcome × List LogRecord}

/-- A plan of at most one statement whose reading of the reply does not look at times. -/
def Plan.Timeless : Plan → Prop
  | .answer result => result.map Outcome.timeless = result
  | .send statements read conclude => ∃ s, statements = [s] ∧
      ∀ now t reply t', execute now t s = .ok (reply, t') →
        read reply.timeless = (read reply).map Reply.timeless ∧
          ∀ reply', read reply = .ok reply' → conclude reply'.timeless =
            ((conclude reply').1.map Outcome.timeless, (conclude reply').2)

theorem Plan.Timeless.of_reply
    (h : ∀ now t reply t', execute now t s = .ok (reply, t') → reply.timeless = reply ∧
      (conclude reply).1.map Outcome.timeless = (conclude reply).1) :
    (Plan.send [s] .ok conclude).Timeless := by
  refine ⟨s, rfl, ?_⟩
  intro now t reply t' he
  obtain ⟨hreply, hresult⟩ := h now t reply t' he
  refine ⟨rfl, ?_⟩
  intro reply' hread
  cases hread
  rw [hreply, hresult]

theorem atMostOneRow_timeless (rows : List Row) :
    atMostOneRow (rowsReply rows).timeless =
      (atMostOneRow (rowsReply rows)).map Reply.timeless := by
  cases rows with
  | nil => rfl
  | cons r rows =>
    cases rows with
    | nil => rfl
    | cons r' rows => rfl

theorem atMostOneRow_ok (h : atMostOneRow reply = .ok reply') : reply' = reply := by
  unfold atMostOneRow at h
  split at h
  · cases h
  · cases h
    rfl

theorem recordOf_timeless (w : WorkspaceId) (f : String) (rows : List Row) :
    recordOf w f (rowsReply rows).timeless =
      (recordOf w f (rowsReply rows)).map Outcome.timeless := by
  simp only [recordOf, ← rowsReply_timeless, objects_rowsReply]
  cases rows with
  | nil => rfl
  | cons r rows =>
    simp only [List.map_cons, ofValue_row_timeless]
    cases Record.ofValue r.value <;> rfl

theorem mapM_ofValue_timeless (rows : List Row) :
    (rows.map fun r => r.timeless.value).mapM Record.ofValue =
      ((rows.map Row.value).mapM Record.ofValue).map (·.map Record.timeless) := by
  induction rows with
  | nil => rfl
  | cons r rows ih =>
    simp only [List.map_cons, List.mapM_cons, ofValue_row_timeless, ih]
    cases Record.ofValue r.value with
    | error rejection => rfl
    | ok record => cases (rows.map Row.value).mapM Record.ofValue <;> rfl

theorem recordsOf_timeless (rows : List Row) :
    recordsOf (rowsReply rows).timeless = (recordsOf (rowsReply rows)).map Outcome.timeless := by
  simp only [recordsOf, ← rowsReply_timeless, objects_rowsReply, List.map_map]
  rw [show Row.value ∘ Row.timeless = fun r => r.timeless.value from rfl, mapM_ofValue_timeless]
  cases (rows.map Row.value).mapM Record.ofValue <;> rfl

theorem scalar_total_timeless (t : Table) (w : WorkspaceId) :
    (Reply.scalar (totalSize t w)).timeless = .scalar (totalSize t w) := by
  unfold totalSize
  split <;> rfl

theorem usageOf_timeless (reply : Reply) :
    (usageOf reply).map Outcome.timeless = usageOf reply := by
  unfold usageOf
  cases Usage.clamp (reply.scalar?.getD .null) <;> rfl

theorem Call.plan_timeless (hc : c.reports) (handle : Handle) : (c.plan handle).Timeless := by
  cases c with
  | contains w f =>
    apply Plan.Timeless.of_reply
    intro now t reply t' he
    cases he
    exact ⟨rfl, rfl⟩
  | upsert w f ty v =>
    simp only [Call.plan]
    split
    · rfl
    · apply Plan.Timeless.of_reply
      intro now t reply t' he
      rw [(execute_ok_upsert he).2.1]
      exact ⟨rfl, rfl⟩
  | insertBulk w batch =>
    simp only [Call.plan]
    split
    · rfl
    · unfold planBulk
      split
      · rfl
      · apply Plan.Timeless.of_reply
        intro now t reply t' he
        rw [(execute_ok_insertAbsent he).2]
        exact ⟨rfl, rfl⟩
  | delete w f =>
    simp only [Call.plan]
    split
    · rfl
    · apply Plan.Timeless.of_reply
      intro now t reply t' he
      cases he
      exact ⟨rfl, rfl⟩
  | get w f =>
    refine ⟨_, rfl, ?_⟩
    intro now t reply t' he
    cases he
    refine ⟨atMostOneRow_timeless _, ?_⟩
    intro reply' hread
    rw [atMostOneRow_ok hread]
    dsimp only
    rw [recordOf_timeless]
  | listRecords w =>
    refine ⟨_, rfl, ?_⟩
    intro now t reply t' he
    cases he
    refine ⟨rfl, ?_⟩
    intro reply' hread
    cases hread
    dsimp only
    rw [recordsOf_timeless]
  | listIds w =>
    apply Plan.Timeless.of_reply
    intro now t reply t' he
    cases he
    refine ⟨?_, rfl⟩
    simp only [Reply.timeless, List.map_map]
    rfl
  | usage w =>
    apply Plan.Timeless.of_reply
    intro now t reply t' he
    cases he
    exact ⟨scalar_total_timeless t w, usageOf_timeless _⟩
  | createSchema => cases hc
  | resetSchema => cases hc

theorem Call.run_timeless (hc : c.reports) (now : Timestamp) (handle : Handle)
    (fault : Option Fault) (t : Table) :
    c.run { now := now.timeless } handle fault t.timeless =
      (c.run { now := now } handle fault t).timeless Outcome.timeless := by
  have hp := Call.plan_timeless hc handle
  cases hplan : c.plan handle with
  | answer result =>
    rw [hplan] at hp
    rw [Call.run_answer hplan, Call.run_answer hplan]
    simp only [Run.timeless, show result.map Outcome.timeless = result from hp]
  | send statements read conclude =>
    rw [hplan] at hp
    obtain ⟨s, rfl, hs⟩ := hp
    have hrun : ∀ s' ∈ [s], ∀ t, Store.run { now := now.timeless } t.timeless s' =
        (Store.run { now := now } t s').map (Prod.map Reply.timeless Table.timeless) :=
      fun s' _ t => execute_timeless now t s'
    have hread : ∀ reply, (perform { now := now } (faultAt fault .execute) (.affected 0) [s]
        t).result = .ok reply → read reply.timeless = (read reply).map Reply.timeless :=
      fun reply hr => (hs now t reply _ (perform_single_ok hr)).1
    apply Call.run_through hplan rfl hrun hread
    intro reply hr
    obtain ⟨answer, hanswer, hreply⟩ := performRead_single_ok (carryOut_ok hr).1
    exact (hs now t answer _ hanswer).2 reply hreply

/-- Tables that differ in times alone, at any two times that have a year: a call answers the same,
times apart, and again leaves tables that differ in times alone. -/
theorem Call.run_at_any_time (hc : c.reports) {now now' : Timestamp}
    (hnow : now.timeless = now'.timeless) {t t' : Table} (ht : t.timeless = t'.timeless) :
    (c.run { now := now } handle fault t).timeless Outcome.timeless =
      (c.run { now := now' } handle fault t').timeless Outcome.timeless := by
  rw [← Call.run_timeless hc, ← Call.run_timeless hc, hnow, ht]

end StorageLedger.Ledger
