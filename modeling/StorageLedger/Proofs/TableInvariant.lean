import StorageLedger.Proofs.Session

namespace StorageLedger.Store
open StorageLedger.Calendar StorageLedger.Validation

variable {times : Timestamp → Prop} {now : Timestamp} {t t' : Table}

/-- A row that the store may hold, written at one of some times. -/
def Row.Valid (times : Timestamp → Prop) (r : Row) : Prop :=
  0 ≤ r.fileSize ∧ r.fileSize ≤ maxSize ∧ times r.modifiedAt

/-- A table of such rows, no two of the same key. -/
structure Table.Valid (times : Timestamp → Prop) (t : Table) : Prop where
  keys : t.KeysDistinct
  rows : ∀ r ∈ t.rows, r.Valid times

theorem Table.Valid.mono {times' : Timestamp → Prop} (h : t.Valid times)
    (ht : ∀ time, times time → times' time) : t.Valid times' := by
  refine ⟨h.keys, ?_⟩
  intro r hr
  obtain ⟨hpos, hmax, htime⟩ := h.rows r hr
  exact ⟨hpos, hmax, ht _ htime⟩

theorem Table.Valid.empty : Table.empty.Valid times := ⟨.empty, by simp [Table.empty]⟩

theorem Table.mem_put {row : Row} (h : r ∈ (t.put row).rows) : r = row ∨ r ∈ t.rows := by
  cases hc : t.contains row.key with
  | true =>
    rw [Table.put_of_contains hc] at h
    obtain ⟨r', hr', he⟩ := List.mem_map.1 h
    split at he
    · exact .inl he.symm
    · exact .inr (he ▸ hr')
  | false =>
    rw [Table.put_of_absent hc] at h
    rcases List.mem_append.1 h with hr | hr
    · exact .inr hr
    · exact .inl (List.mem_singleton.1 hr)

theorem Table.mem_putIfAbsent {row : Row} (h : r ∈ (t.putIfAbsent row).rows) :
    t.contains row.key = false ∧ r = row ∨ r ∈ t.rows := by
  cases hc : t.contains row.key with
  | true =>
    rw [Table.putIfAbsent_of_contains hc] at h
    exact .inr h
  | false =>
    rw [Table.putIfAbsent_of_absent hc] at h
    rcases List.mem_append.1 h with hr | hr
    · exact .inr hr
    · exact .inl ⟨rfl, List.mem_singleton.1 hr⟩

theorem Table.mem_erase {k : Key} (h : r ∈ (t.erase k).rows) : r ∈ t.rows :=
  (List.mem_filter.1 h).1

theorem sizeFailure?_eq_none : sizeFailure? n = none ↔ 0 ≤ n ∧ n ≤ maxSize := by
  unfold sizeFailure?
  split
  · simp only [reduceCtorEq, false_iff]
    omega
  · split
    · simp only [reduceCtorEq, false_iff]
      omega
    · simp only [true_iff]
      omega

theorem Table.Valid.insertOne {entry : String × String × Int} (h : t.Valid times) (hnow : times now)
    (he : insertOne now w t entry = .ok t') : t'.Valid times := by
  obtain ⟨rfl, hsize⟩ := insertOne_ok he
  refine ⟨h.keys.put_if_absent _, ?_⟩
  intro r hr
  rcases Table.mem_putIfAbsent hr with ⟨hc, rfl⟩ | hr
  · obtain ⟨hpos, hmax⟩ := sizeFailure?_eq_none.1 (hsize hc)
    exact ⟨hpos, hmax, hnow⟩
  · exact h.rows r hr

theorem Table.Valid.insertAll {entries : List (String × String × Int)} (h : t.Valid times)
    (hnow : times now) (he : insertAll now w t entries = .ok t') : t'.Valid times := by
  induction entries generalizing t with
  | nil =>
    cases he
    exact h
  | cons entry entries ih =>
    obtain ⟨t₁, h₁, h₂⟩ := insertAll_cons he
    exact ih (h.insertOne hnow h₁) h₂

theorem Table.Valid.execute (h : t.Valid times) (hnow : times now)
    (he : execute now t s = .ok (reply, t')) : t'.Valid times := by
  cases s with
  | upsert w f ty n =>
    obtain ⟨hsize, _, rfl⟩ := execute_ok_upsert he
    obtain ⟨hpos, hmax⟩ := sizeFailure?_eq_none.1 hsize
    refine ⟨h.keys.put _, ?_⟩
    intro r hr
    rcases Table.mem_put hr with rfl | hr
    · exact ⟨hpos, hmax, hnow⟩
    · exact h.rows r hr
  | insertAbsent w fs ts ns => exact h.insertAll hnow (execute_ok_insertAbsent he).1
  | delete w f =>
    cases he
    exact ⟨h.keys.erase _, fun r hr => h.rows r (Table.mem_erase hr)⟩
  | dropTable =>
    cases he
    exact .empty
  | _ =>
    obtain rfl := execute_query rfl he
    exact h

theorem Table.Valid.run {store : Store} (h : t.Valid times) (hnow : times store.now)
    (he : store.run t s = .ok (reply, t')) : t'.Valid times := by
  unfold Store.run at he
  split at he
  · cases he
    exact h
  · exact h.execute hnow he

end StorageLedger.Store

namespace StorageLedger.Ledger
open StorageLedger.Calendar StorageLedger.Store

variable {times : Timestamp → Prop} {store : Store} {t : Table} {handle : Handle}
variable {fault : Option Fault}

theorem Call.run_valid (c : Call) (handle : Handle) (fault : Option Fault) (h : t.Valid times)
    (hnow : times store.now) : (c.run store handle fault t).table.Valid times := by
  apply Call.run_preserves _ h
  intro _ _ _ _ s _ t reply t' ht hr
  exact ht.run hnow hr

/-- All tables of a session hold rows that the store may hold. -/
structure Session.Valid (times : Timestamp → Prop) (s : Session) : Prop where
  committed : s.committed.Valid times
  view : s.opened.view.Valid times
  savepoint : ∀ t, s.opened.savepoint = some t → t.Valid times

theorem Session.Valid.visible {s : Session} (h : s.Valid times) : s.visible.Valid times := by
  rw [Session.visible_eq_opened]
  exact h.view

theorem Session.Valid.rows_for {s : Session} (h : s.Valid times) (handle : Handle) :
    (s.rowsFor handle).Valid times := by
  unfold Session.rowsFor
  split
  · exact h.committed
  · exact h.visible

theorem Session.Valid.mono {times' : Timestamp → Prop} {s : Session} (h : s.Valid times)
    (ht : ∀ time, times time → times' time) : s.Valid times' :=
  ⟨h.committed.mono ht, h.view.mono ht, fun t hs => (h.savepoint t hs).mono ht⟩

theorem Session.Valid.of_no_transaction {s : Session} (h : s.committed.Valid times)
    (hs : s.transaction = none) : s.Valid times := by
  have hopened : s.opened = ⟨s.committed, none⟩ := by
    rw [Session.opened, hs]
    rfl
  refine ⟨h, hopened ▸ h, ?_⟩
  intro t ht
  rw [hopened] at ht
  cases ht

theorem Session.Valid.start : Session.start.Valid times := .of_no_transaction .empty rfl

theorem Session.opened_of_transaction {s : Session} (h : s.transaction = some tx) :
    s.opened = tx := by
  rw [Session.opened, h]
  rfl

theorem Session.Valid.of_transaction {s : Session} (hcommitted : s.committed.Valid times)
    (hview : tx.view.Valid times) (hsavepoint : ∀ t, tx.savepoint = some t → t.Valid times)
    (hs : s.transaction = some tx) : s.Valid times := by
  have hopened := Session.opened_of_transaction hs
  exact ⟨hcommitted, hopened ▸ hview, hopened ▸ hsavepoint⟩

theorem Session.Valid.step_engine {s : Session} (h : s.Valid times)
    (hnow : times (stamp (s.steps + 1))) (c : Call) (fault : Option Fault) :
    (s.step (.call c .engine fault)).1.Valid times := by
  have htable : (c.run s.nextStore .engine fault s.committed).table.Valid times :=
    c.run_valid .engine fault h.committed hnow
  rw [Session.step_engine]
  cases hs : s.transaction with
  | none => exact .of_no_transaction htable rfl
  | some tx =>
    have hopened := Session.opened_of_transaction hs
    exact .of_transaction htable (hopened ▸ h.view) (hopened ▸ h.savepoint) rfl

theorem Session.Valid.step_caller {s : Session} (h : s.Valid times)
    (hnow : times (stamp (s.steps + 1))) (c : Call) (fault : Option Fault)
    (hh : handle ≠ .engine) : (s.step (.call c handle fault)).1.Valid times := by
  obtain ⟨_, hcommitted, hopened⟩ := s.step_caller c fault hh
  refine ⟨hcommitted ▸ h.committed, ?_, ?_⟩
  · rw [hopened]
    exact c.run_valid handle fault h.visible hnow
  · rw [hopened]
    exact h.savepoint

theorem Session.Valid.step {s : Session} (h : s.Valid times) (hnow : times (stamp (s.steps + 1)))
    (a : Action) : (s.step a).1.Valid times := by
  cases a with
  | call c handle fault =>
    by_cases hh : handle = .engine
    · subst hh
      exact h.step_engine hnow c fault
    · exact h.step_caller hnow c fault hh
  | refuse e => exact ⟨h.committed, h.view, h.savepoint⟩
  | commit => exact .of_no_transaction h.visible rfl
  | rollback => exact .of_no_transaction h.committed rfl
  | savepoint =>
    refine ⟨h.committed, h.view, ?_⟩
    intro t ht
    cases ht
    exact h.view
  | rollbackToSavepoint =>
    cases hs : s.transaction with
    | none => exact .of_no_transaction h.committed (congrArg (Option.map _) hs)
    | some tx =>
      have hopened := Session.opened_of_transaction hs
      have hafter : (s.step .rollbackToSavepoint).1.transaction =
          some { tx with view := tx.savepoint.getD tx.view } := congrArg (Option.map _) hs
      refine .of_transaction h.committed ?_ ?_ hafter
      · cases htx : tx.savepoint with
        | none => simpa [htx] using hopened ▸ h.view
        | some t => simpa [htx] using h.savepoint t (hopened ▸ htx)
      · exact hopened ▸ h.savepoint
  | dump => exact ⟨h.committed, h.view, h.savepoint⟩

/-- Every table of a run holds rows that the store may hold. -/
theorem Session.Valid.run {s : Session} (h : s.Valid times) (hnow : ∀ step, times (stamp step))
    (as : List Action) : (s.run as).1.Valid times := by
  induction as generalizing s with
  | nil => exact h
  | cons a as ih => exact ih (h.step (hnow _) a)

end StorageLedger.Ledger
