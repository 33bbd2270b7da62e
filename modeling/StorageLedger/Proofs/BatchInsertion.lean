import Mathlib
import StorageLedger.Proofs.Query
import StorageLedger.Proofs.Validation

namespace StorageLedger
open StorageLedger.Calendar StorageLedger.Store

namespace Entry

def row (now : Timestamp) (w : WorkspaceId) (e : Entry) : Row :=
  ⟨w, e.key, e.fileType, e.fileSize, now⟩

def columns (e : Entry) : String × String × Int := (e.key, e.fileType, e.fileSize)

/-- The entries that are inserted where some keys are taken: of every other key the first. -/
def firsts (taken : String → Bool) : List Entry → List Entry
  | [] => []
  | e :: es =>
    if taken e.key then firsts taken es
    else e :: firsts (fun key => key == e.key || taken key) es

variable {taken : String → Bool} {e : Entry} {es : List Entry}

theorem firsts_cons_of_taken (h : taken e.key = true) :
    firsts taken (e :: es) = firsts taken es := if_pos h

theorem firsts_cons_of_free (h : taken e.key = false) :
    firsts taken (e :: es) = e :: firsts (fun key => key == e.key || taken key) es :=
  if_neg (Bool.not_eq_true _ ▸ h)

theorem mem_keys_firsts (taken : String → Bool) (es : List Entry) (key : String) :
    key ∈ (firsts taken es).map Entry.key ↔ key ∈ es.map Entry.key ∧ taken key = false := by
  induction es generalizing taken with
  | nil => simp [firsts]
  | cons e es ih =>
    rw [List.map_cons, List.mem_cons]
    cases ht : taken e.key with
    | true =>
      rw [firsts_cons_of_taken ht, ih]
      constructor
      · rintro ⟨hkey, hfree⟩
        exact ⟨.inr hkey, hfree⟩
      · rintro ⟨rfl | hkey, hfree⟩
        · rw [ht] at hfree
          cases hfree
        · exact ⟨hkey, hfree⟩
    | false =>
      rw [firsts_cons_of_free ht, List.map_cons, List.mem_cons, ih]
      by_cases hk : key = e.key
      · simp [hk, ht]
      · simp [hk]

theorem nodup_keys_firsts (taken : String → Bool) (es : List Entry) :
    ((firsts taken es).map Entry.key).Nodup := by
  induction es generalizing taken with
  | nil => exact List.nodup_nil
  | cons e es ih =>
    cases ht : taken e.key with
    | true =>
      rw [firsts_cons_of_taken ht]
      exact ih taken
    | false =>
      rw [firsts_cons_of_free ht, List.map_cons, List.nodup_cons]
      refine ⟨?_, ih _⟩
      simp [mem_keys_firsts]

theorem find?_of_mem_firsts (h : e ∈ firsts taken es) :
    es.find? (fun e' => e'.key == e.key) = some e := by
  induction es generalizing taken with
  | nil => cases h
  | cons e₁ es ih =>
    cases ht : taken e₁.key with
    | true =>
      rw [firsts_cons_of_taken ht] at h
      have hfree := ((mem_keys_firsts taken es e.key).1 (List.mem_map_of_mem h)).2
      have hne : e₁.key ≠ e.key := fun hk => by
        rw [hk, hfree] at ht
        cases ht
      rw [List.find?_cons_of_neg (by simpa using hne)]
      exact ih h
    | false =>
      rw [firsts_cons_of_free ht] at h
      rcases List.mem_cons.1 h with rfl | h
      · exact List.find?_cons_of_pos (beq_self_eq_true _)
      · have hfree := ((mem_keys_firsts _ es e.key).1 (List.mem_map_of_mem h)).2
        have hne : e₁.key ≠ e.key := fun hk => by simp [hk] at hfree
        rw [List.find?_cons_of_neg (by simpa using hne)]
        exact ih h

/-- The distinct keys of a batch that are not taken. -/
def freeKeys (taken : String → Bool) (es : List Entry) : Finset String :=
  (es.map Entry.key).toFinset.filter fun key => taken key = false

theorem toFinset_keys_firsts (taken : String → Bool) (es : List Entry) :
    ((firsts taken es).map Entry.key).toFinset = freeKeys taken es := by
  ext key
  rw [List.mem_toFinset, mem_keys_firsts, freeKeys, Finset.mem_filter, List.mem_toFinset]

theorem length_firsts (taken : String → Bool) (es : List Entry) :
    (firsts taken es).length = (freeKeys taken es).card := by
  rw [← toFinset_keys_firsts, List.toFinset_card_of_nodup (nodup_keys_firsts taken es),
    List.length_map]

theorem firsts_eq_nil (h : ∀ e ∈ es, taken e.key = true) : firsts taken es = [] := by
  induction es with
  | nil => rfl
  | cons e es ih =>
    obtain ⟨he, hes⟩ := List.forall_mem_cons.1 h
    rw [firsts_cons_of_taken he, ih hes]

end Entry

namespace Store

variable {now : Timestamp} {t t' : Table} {w : WorkspaceId} {es : List Entry}

theorem zip_columns (es : List Entry) :
    (es.map Entry.key).zip ((es.map Entry.fileType).zip (es.map Entry.fileSize)) =
      es.map Entry.columns := by
  rw [List.zip_map', List.zip_map']
  rfl

theorem Table.contains_append (rows : List Row) (row : Row) (k : Key) :
    (Table.mk (rows ++ [row])).contains k = ((Table.mk rows).contains k || row.key == k) := by
  simp only [Table.contains, List.any_append, List.any_cons, List.any_nil, Bool.or_false]

def Table.insertBatch (now : Timestamp) (w : WorkspaceId) (t : Table) (es : List Entry) : Table :=
  ⟨t.rows ++ (Entry.firsts (fun key => t.contains (w, key)) es).map (Entry.row now w)⟩

theorem Table.insertBatch_nil : t.insertBatch now w [] = t :=
  congrArg Table.mk (List.append_nil t.rows)

theorem Table.taken_putIfAbsent (now : Timestamp) {e : Entry} (hc : t.contains (w, e.key) = false) :
    (fun key => (t.putIfAbsent (e.row now w)).contains (w, key)) =
      fun key => key == e.key || t.contains (w, key) := by
  have hkey : (e.row now w).key = (w, e.key) := rfl
  funext key
  rw [Table.putIfAbsent_of_absent (hkey ▸ hc), Table.contains_append, hkey, Bool.or_comm]
  congr 1
  rw [Bool.eq_iff_iff, beq_iff_eq, beq_iff_eq, Prod.mk.injEq]
  exact ⟨fun h => h.2.symm, fun h => ⟨rfl, h.symm⟩⟩

theorem Table.insertBatch_cons (now : Timestamp) (w : WorkspaceId) (t : Table) (e : Entry)
    (es : List Entry) :
    t.insertBatch now w (e :: es) = (t.putIfAbsent (e.row now w)).insertBatch now w es := by
  have hkey : (e.row now w).key = (w, e.key) := rfl
  cases hc : t.contains (w, e.key) with
  | true =>
    rw [Table.putIfAbsent_of_contains (hkey ▸ hc), insertBatch, Entry.firsts_cons_of_taken hc]
    rfl
  | false =>
    rw [insertBatch, insertBatch, taken_putIfAbsent now hc, Entry.firsts_cons_of_free hc,
      Table.putIfAbsent_of_absent (hkey ▸ hc), List.map_cons, List.append_assoc,
      List.singleton_append]

theorem Table.prefix_insertBatch (now : Timestamp) (w : WorkspaceId) (t : Table)
    (es : List Entry) : t.rows <+: (t.insertBatch now w es).rows := List.prefix_append _ _

theorem insertAll_ok (h : insertAll now w t (es.map Entry.columns) = .ok t') :
    t' = t.insertBatch now w es := by
  induction es generalizing t with
  | nil =>
    cases h
    exact Table.insertBatch_nil.symm
  | cons e es ih =>
    obtain ⟨t₁, h₁, h₂⟩ := insertAll_cons h
    rw [ih h₂, (insertOne_ok h₁).1, Table.insertBatch_cons]
    rfl

theorem insertOne_of_valid {e : Entry} (h : e.Valid) :
    insertOne now w t e.columns = .ok (t.putIfAbsent (e.row now w)) := by
  simp only [insertOne, Entry.columns, sizeFailure?_eq_none.2 h]
  cases hc : t.contains (w, e.key) with
  | true =>
    have hkept : t.putIfAbsent (e.row now w) = t := Table.putIfAbsent_of_contains hc
    rw [hkept]
    rfl
  | false => rfl

theorem insertAll_of_valid (h : ∀ e ∈ es, e.Valid) :
    insertAll now w t (es.map Entry.columns) = .ok (t.insertBatch now w es) := by
  induction es generalizing t with
  | nil => exact congrArg Except.ok Table.insertBatch_nil.symm
  | cons e es ih =>
    obtain ⟨he, hes⟩ := List.forall_mem_cons.1 h
    rw [Table.insertBatch_cons, ← ih hes]
    simp only [insertAll, List.map_cons, List.foldlM_cons, insertOne_of_valid he]
    rfl

theorem Table.length_insertBatch (now : Timestamp) (w : WorkspaceId) (t : Table)
    (es : List Entry) : (t.insertBatch now w es).rows.length =
      t.rows.length + (Entry.freeKeys (fun key => t.contains (w, key)) es).card := by
  rw [← Entry.length_firsts, insertBatch, List.length_append, List.length_map]

theorem Table.contains_insertBatch {e : Entry} (he : e ∈ es) :
    (t.insertBatch now w es).contains (w, e.key) = true := by
  rw [Table.contains, List.any_eq_true]
  cases hc : t.contains (w, e.key) with
  | true =>
    obtain ⟨r, hr, hkey⟩ := List.any_eq_true.1 hc
    exact ⟨r, List.mem_append_left _ hr, hkey⟩
  | false =>
    obtain ⟨e', he', hkey⟩ := List.mem_map.1
      ((Entry.mem_keys_firsts (fun key => t.contains (w, key)) es e.key).2
        ⟨List.mem_map_of_mem he, hc⟩)
    refine ⟨e'.row now w, List.mem_append_right _ (List.mem_map_of_mem he'), ?_⟩
    rw [beq_iff_eq, ← hkey]
    rfl

theorem Table.insertBatch_insertBatch (now now' : Timestamp) (w : WorkspaceId) (t : Table)
    (es : List Entry) :
    (t.insertBatch now w es).insertBatch now' w es = t.insertBatch now w es := by
  have hnone : Entry.firsts (fun key => (t.insertBatch now w es).contains (w, key)) es = [] :=
    Entry.firsts_eq_nil fun _ he => Table.contains_insertBatch he
  rw [Table.insertBatch, hnone]
  exact congrArg Table.mk (List.append_nil _)

end Store
end StorageLedger

namespace StorageLedger.Ledger
open StorageLedger.Calendar StorageLedger.Store

variable {now : Timestamp} {handle : Handle} {t : Table} {w : WorkspaceId}
variable {batch : Batch} {es : List Entry}

def batchLogs (w : WorkspaceId) (inserted : Nat) (es : List Entry) : List LogRecord :=
  if es.isEmpty then [] else [bulkLog w inserted es.length]

/-- A batch of valid entries answers the number of keys that it adds. -/
theorem Call.run_insertBulk (now : Timestamp) (handle : Handle) (t : Table) (w : WorkspaceId)
    (hbatch : batch.entries? = .ok es) (hes : ∀ e ∈ es, e.Valid) :
    let run := (Call.insertBulk w batch).run { now := now } handle none t
    let added := (Entry.freeKeys (fun key => t.contains (w, key)) es).card
    run.result = .ok (.count added) ∧ run.logs = batchLogs w added es ∧
      run.table = t.insertBatch now w es := by
  intro run added
  cases es with
  | nil =>
    have hplan : (Call.insertBulk w batch).plan handle = .answer (.ok (.count 0)) := by
      simp only [Call.plan, hbatch]
      rfl
    simp only [run, Call.run_answer hplan]
    exact ⟨rfl, rfl, Table.insertBatch_nil.symm⟩
  | cons e es =>
    have hplan : (Call.insertBulk w batch).plan handle = planBulk w (e :: es) := by
      simp only [Call.plan, hbatch]
    have hrun : execute now t (.insertAbsent w ((e :: es).map Entry.key)
        ((e :: es).map Entry.fileType) ((e :: es).map Entry.fileSize)) =
          .ok (.affected added, t.insertBatch now w (e :: es)) := by
      simp only [execute, zip_columns, insertAll_of_valid hes, Except.map,
        Table.length_insertBatch, Nat.add_sub_cancel_left, added]
    obtain ⟨hresult, hlogs⟩ := Call.run_faultless _ handle hplan hrun rfl
    refine ⟨hresult, hlogs, ?_⟩
    obtain ⟨answer, _, hanswer, _, _⟩ := Call.run_ok hplan hresult
    exact (Prod.mk.inj (Except.ok.inj (hanswer.symm.trans hrun))).2

theorem Session.step_insertBulk (s : Session) (handle : Handle) (w : WorkspaceId)
    (batch : Batch) (hbatch : batch.entries? = .ok es) (hes : ∀ e ∈ es, e.Valid) :
    let before := s.rowsFor handle
    let loaded := s.step (.call (.insertBulk w batch) handle none)
    let count := (Entry.freeKeys (fun key => before.contains (w, key)) es).card
    loaded.2 = .call (.ok (.count count)) (batchLogs w count es) ∧
      loaded.1.rowsFor handle = before.insertBatch (stamp (s.steps + 1)) w es := by
  intro before loaded count
  obtain ⟨hresult, hlogs, htable⟩ :=
    Call.run_insertBulk (stamp (s.steps + 1)) handle before w hbatch hes
  refine ⟨?_, (s.step_rows_for _ handle none).trans htable⟩
  exact (s.step_answer _ handle none).trans (congrArg₂ Answer.call hresult hlogs)

end StorageLedger.Ledger
