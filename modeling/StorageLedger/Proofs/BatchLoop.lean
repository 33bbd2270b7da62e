import StorageLedger.Proofs.BatchInsertion
import StorageLedger.Proofs.TimelessCall

namespace StorageLedger.Ledger
open StorageLedger.Calendar StorageLedger.Store

variable {now : Timestamp} {handle : Handle} {t : Table} {w : WorkspaceId}
variable {es : List Entry}

theorem Call.run_upsert (now : Timestamp) (handle : Handle) (t : Table) (w : WorkspaceId)
    (fileId fileType : String) (hsize : Validation.fileSize v = .ok n) :
    let run := (Call.upsert w fileId fileType v).run { now := now } handle none t
    run.result = .ok .nothing ∧ run.logs = [] ∧
      run.table = t.put ⟨w, fileId, fileType, n, now⟩ := by
  intro run
  have hplan : (Call.upsert w fileId fileType v).plan handle =
      .send [.upsert w fileId fileType n] .ok fun reply =>
        (.ok .nothing, upsertLogs w fileId reply.affectedRows) := by
    simp only [Call.plan, hsize]
  have hrun : execute now t (.upsert w fileId fileType n) =
      .ok (.affected 1, t.put ⟨w, fileId, fileType, n, now⟩) := by
    simp only [execute, sizeFailure?_eq_none.2 (Validation.fileSize_bounds hsize)]
  obtain ⟨hresult, hlogs⟩ := Call.run_faultless _ handle hplan hrun rfl
  refine ⟨hresult, hlogs, ?_⟩
  obtain ⟨answer, _, hanswer, _, _⟩ := Call.run_ok hplan hresult
  exact (Prod.mk.inj (Except.ok.inj (hanswer.symm.trans hrun))).2

theorem Session.step_contains (s : Session) (handle : Handle) (w : WorkspaceId) (key : String) :
    let asked := s.step (.call (.contains w key) handle none)
    asked.2 = .call (.ok (.truth ((s.rowsFor handle).contains (w, key)))) [] ∧
      asked.1.rowsFor handle = s.rowsFor handle := by
  intro asked
  obtain ⟨hresult, hlogs⟩ :=
    Call.run_contains (stamp (s.steps + 1)) handle (s.rowsFor handle) w key
  refine ⟨?_, ?_⟩
  · rw [Table.contains_eq_isSome]
    exact (s.step_answer _ handle none).trans (congrArg₂ Answer.call hresult hlogs)
  · obtain ⟨_, _, hrun, _, _⟩ := Call.run_ok rfl hresult
    exact (s.step_rows_for _ handle none).trans (run_query rfl hrun)

theorem Session.step_upsert_absent (s : Session) (handle : Handle) (w : WorkspaceId) {e : Entry}
    (he : e.Valid) (hc : (s.rowsFor handle).contains (w, e.key) = false) :
    let put := s.step (.call (.upsert w e.key e.fileType (.int e.fileSize)) handle none)
    put.2 = .call (.ok .nothing) [] ∧
      put.1.rowsFor handle = (s.rowsFor handle).putIfAbsent (e.row (stamp (s.steps + 1)) w) := by
  intro put
  have hkey : (e.row (stamp (s.steps + 1)) w).key = (w, e.key) := rfl
  obtain ⟨hresult, hlogs, htable⟩ := Call.run_upsert (stamp (s.steps + 1)) handle
    (s.rowsFor handle) w e.key e.fileType (Validation.fileSize_of_bounds he.1 he.2)
  refine ⟨(s.step_answer _ handle none).trans (congrArg₂ Answer.call hresult hlogs), ?_⟩
  rw [Table.putIfAbsent_of_absent (hkey ▸ hc), ← Table.put_of_absent (hkey ▸ hc)]
  exact (s.step_rows_for _ handle none).trans htable

/-- Entries taken one after another, each upserted if its key does not exist: the session at the
end, and what the upserts answer. -/
def Session.insertOneByOne (s : Session) (handle : Handle) (w : WorkspaceId) :
    List Entry → Session × List Answer
  | [] => (s, [])
  | e :: es =>
    let asked := s.step (.call (.contains w e.key) handle none)
    match asked.2 with
    | .call (.ok (.truth false)) _ =>
      let put := asked.1.step (.call (.upsert w e.key e.fileType (.int e.fileSize)) handle none)
      let rest := put.1.insertOneByOne handle w es
      (rest.1, put.2 :: rest.2)
    | _ => asked.1.insertOneByOne handle w es

theorem Session.insertOneByOne_cons (s : Session) (handle : Handle) (w : WorkspaceId) {e : Entry}
    (es : List Entry) (he : e.Valid) :
    ∃ (s' : Session) (now : Timestamp), now.timeless = clockZero ∧
      s'.rowsFor handle = (s.rowsFor handle).putIfAbsent (e.row now w) ∧
      s.insertOneByOne handle w (e :: es) = ((s'.insertOneByOne handle w es).1,
        if (s.rowsFor handle).contains (w, e.key) then (s'.insertOneByOne handle w es).2
        else .call (.ok .nothing) [] :: (s'.insertOneByOne handle w es).2) := by
  let asked := s.step (.call (.contains w e.key) handle none)
  obtain ⟨hanswer, hrows⟩ := s.step_contains handle w e.key
  cases hc : (s.rowsFor handle).contains (w, e.key) with
  | true =>
    have hkey : (e.row clockZero w).key = (w, e.key) := rfl
    rw [hc] at hanswer
    refine ⟨asked.1, clockZero, rfl, ?_, ?_⟩
    · rw [Table.putIfAbsent_of_contains (hkey ▸ hc)]
      exact hrows
    · simp only [insertOneByOne, hanswer]
      rfl
  | false =>
    rw [hc] at hanswer
    obtain ⟨hput, hafter⟩ := asked.1.step_upsert_absent handle w he (hrows ▸ hc)
    refine ⟨_, stamp (asked.1.steps + 1), stamp_timeless _, hafter.trans (by rw [hrows]), ?_⟩
    simp only [insertOneByOne, hanswer]
    exact congrArg (fun answer => (_, answer :: _)) hput

theorem insertBatch_timeless (now : Timestamp) (w : WorkspaceId) (t : Table) (es : List Entry) :
    (t.insertBatch now w es).timeless = t.timeless.insertBatch now.timeless w es := by
  have htaken : (fun key => t.timeless.contains (w, key)) = fun key => t.contains (w, key) :=
    funext fun key => t.contains_timeless (w, key)
  rw [Table.insertBatch, Table.insertBatch, htaken]
  simp only [Table.timeless, List.map_append, List.map_map]
  rfl

/-- The loop leaves the rows that the batch leaves, times apart, behind those that were there, and
each of its upserts succeeds. -/
theorem Session.insertOneByOne_rows (s : Session) (handle : Handle) (w : WorkspaceId)
    (hes : ∀ e ∈ es, e.Valid) :
    let t := s.rowsFor handle
    let looped := s.insertOneByOne handle w es
    (looped.1.rowsFor handle).timeless = (t.insertBatch clockZero w es).timeless ∧
      t.rows <+: (looped.1.rowsFor handle).rows ∧
      looped.2 = List.replicate (Entry.firsts (fun key => t.contains (w, key)) es).length
        (.call (.ok .nothing) []) := by
  induction es generalizing s with
  | nil =>
    exact ⟨congrArg Table.timeless Table.insertBatch_nil.symm, List.prefix_rfl, rfl⟩
  | cons e es ih =>
    obtain ⟨he, hes⟩ := List.forall_mem_cons.1 hes
    obtain ⟨s', now, hnow, hrows, hloop⟩ := s.insertOneByOne_cons handle w es he
    obtain ⟨hafter, hprefix, hanswers⟩ := ih s' hes
    rw [hrows] at hafter hprefix hanswers
    rw [hloop]
    refine ⟨?_, (Table.prefix_putIfAbsent _ _).trans hprefix, ?_⟩
    · have hrow : (e.row now w).timeless = (e.row clockZero w).timeless :=
        congrArg (fun time => (⟨w, e.key, e.fileType, e.fileSize, time⟩ : Row)) hnow
      rw [hafter, Table.insertBatch_cons, insertBatch_timeless, insertBatch_timeless,
        Table.putIfAbsent_timeless, Table.putIfAbsent_timeless, hrow]
    · cases hc : (s.rowsFor handle).contains (w, e.key) with
      | true =>
        have hkept : (s.rowsFor handle).putIfAbsent (e.row now w) = s.rowsFor handle :=
          Table.putIfAbsent_of_contains hc
        rw [hkept] at hanswers
        rw [Entry.firsts_cons_of_taken hc, ← hanswers]
        rfl
      | false =>
        rw [Table.taken_putIfAbsent now hc] at hanswers
        rw [Entry.firsts_cons_of_free hc, List.length_cons, List.replicate_succ, ← hanswers]
        rfl

/-- A batch of valid entries does what the loop over its entries does. It leaves the same rows, the
times of the new ones apart, behind those that were there, and answers the number of upserts of the
loop, all of which succeed: that of the distinct keys that had no row, by which the rows become
more. The same batch a second time answers zero and changes no row. -/
theorem Session.batch_inserts_as_loop (s : Session) (handle : Handle) (w : WorkspaceId)
    (batch : Batch) (es : List Entry) (hbatch : batch.entries? = .ok es)
    (hes : ∀ e ∈ es, e.Valid) :
    let load : Action := .call (.insertBulk w batch) handle none
    let before := s.rowsFor handle
    let loaded := s.step load
    let after := loaded.1.rowsFor handle
    let looped := s.insertOneByOne handle w es
    let again := loaded.1.step load
    let count := (Entry.freeKeys (fun key => before.contains (w, key)) es).card
    (after.timeless = (looped.1.rowsFor handle).timeless ∧
      before.rows <+: after.rows ∧ before.rows <+: (looped.1.rowsFor handle).rows) ∧
      (loaded.2 = .call (.ok (.count count)) (batchLogs w count es) ∧
        looped.2 = List.replicate count (.call (.ok .nothing) []) ∧
        after.rows.length = before.rows.length + count) ∧
      again.2 = .call (.ok (.count 0)) (batchLogs w 0 es) ∧ again.1.rowsFor handle = after := by
  intro load before loaded after looped again count
  obtain ⟨hanswer, hafter⟩ := s.step_insertBulk handle w batch hbatch hes
  obtain ⟨hanswer', hafter'⟩ := loaded.1.step_insertBulk handle w batch hbatch hes
  obtain ⟨hrows, hprefix, hanswers⟩ := s.insertOneByOne_rows handle w hes
  change after = before.insertBatch (stamp (s.steps + 1)) w es at hafter
  have hnone : (Entry.freeKeys (fun key => after.contains (w, key)) es).card = 0 := by
    rw [hafter, ← Entry.length_firsts]
    exact congrArg List.length (Entry.firsts_eq_nil fun _ he => Table.contains_insertBatch he)
  refine ⟨⟨?_, ?_, hprefix⟩, ⟨hanswer, ?_, ?_⟩, ?_, ?_⟩
  · rw [hrows, hafter, insertBatch_timeless, insertBatch_timeless, stamp_timeless]
    rfl
  · rw [hafter]
    exact Table.prefix_insertBatch _ _ _ _
  · rw [hanswers, Entry.length_firsts]
  · rw [hafter]
    exact Table.length_insertBatch _ _ _ _
  · exact hanswer'.trans
      (congrArg (fun n : Nat => Answer.call (.ok (.count n)) (batchLogs w n es)) hnone)
  · refine hafter'.trans ?_
    change after.insertBatch _ w es = after
    rw [hafter, Table.insertBatch_insertBatch]

theorem Session.batch_with_shared_keys_as_loop :
    let w : WorkspaceId := ⟨7, by decide⟩
    let s := (Session.start.step (.call (.upsert w "o_a" "text/plain" (.int 5)) .session none)).1
    let es : List Entry :=
      [⟨"o", "a", "text/css", 4⟩, ⟨"o", "b_c", "text/html", 1⟩, ⟨"o_b", "c", "image/png", 2⟩,
        ⟨"o", "b_c", "text/css", 3⟩]
    let load : Action := .call (.insertBulk w (.entries es)) .connection none
    let looped := s.insertOneByOne .connection w es
    (∀ e ∈ es, e.Valid) ∧
      (s.step load).2 = .call (.ok (.count 1)) [bulkLog w 1 4] ∧
      looped.2 = [.call (.ok .nothing) []] ∧
      (s.step load).1.visible.timeless = looped.1.visible.timeless ∧
      (s.step load).1.visible.rows =
        [⟨w, "o_a", "text/plain", 5, stamp 1⟩, ⟨w, "o_b_c", "text/html", 1, stamp 2⟩] := by
  intro w s es load looped
  have hes : ∀ e ∈ es, e.Valid := by
    simp [es, Entry.Valid, Validation.maxSize]
  obtain ⟨⟨hrows, _⟩, ⟨hanswer, hloop, _⟩, _⟩ :=
    s.batch_inserts_as_loop .connection w (.entries es) es rfl hes
  have hcount : (Entry.freeKeys (fun key => (s.rowsFor .connection).contains (w, key)) es).card =
      1 := by
    decide +kernel
  rw [hcount] at hanswer hloop
  exact ⟨hes, hanswer, hloop, hrows, by decide +kernel⟩

end StorageLedger.Ledger
