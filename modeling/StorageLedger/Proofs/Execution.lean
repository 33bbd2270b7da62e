import StorageLedger.Proofs.Table
import StorageLedger.Store.Execution

namespace StorageLedger.Store
open StorageLedger.Calendar

variable {now : Timestamp} {t t' : Table} {reply : Reply}

def Statement.isQuery : Statement → Bool
  | .contains _ _ => true
  | .lookUp _ _ => true
  | .listRows _ => true
  | .listIds _ => true
  | .total _ => true
  | .createTable => true
  | _ => false

theorem execute_query (hs : s.isQuery) (h : execute now t s = .ok (reply, t')) : t' = t := by
  cases s with
  | contains => cases h; rfl
  | lookUp => cases h; rfl
  | listRows => cases h; rfl
  | listIds => cases h; rfl
  | total => cases h; rfl
  | createTable => cases h; rfl
  | upsert => cases hs
  | insertAbsent => cases hs
  | delete => cases hs
  | dropTable => cases hs

theorem run_query {store : Store} (hs : s.isQuery) (h : store.run t s = .ok (reply, t')) :
    t' = t := by
  unfold run at h
  split at h
  · cases h
    rfl
  · exact execute_query hs h

def entryRow (now : Timestamp) (w : WorkspaceId) (entry : String × String × Int) : Row :=
  ⟨w, entry.1, entry.2.1, entry.2.2, now⟩

theorem insertOne_ok {entry : String × String × Int}
    (h : insertOne now w t entry = .ok t') :
    t' = t.putIfAbsent (entryRow now w entry) ∧
      (t.contains (w, entry.1) = false → sizeFailure? entry.2.2 = none) := by
  simp only [insertOne] at h
  split at h
  · next hc =>
    cases h
    exact ⟨(if_pos hc).symm, fun hf => by rw [hc] at hf; cases hf⟩
  · split at h
    · cases h
    · next hs =>
      cases h
      exact ⟨rfl, fun _ => hs⟩

theorem insertAll_cons {entry : String × String × Int} {entries : List (String × String × Int)}
    (h : insertAll now w t (entry :: entries) = .ok t') :
    ∃ t₁, insertOne now w t entry = .ok t₁ ∧ insertAll now w t₁ entries = .ok t' := by
  simp only [insertAll, List.foldlM_cons] at h
  cases h₁ : insertOne now w t entry with
  | error failure => rw [h₁] at h; cases h
  | ok t₁ => rw [h₁] at h; exact ⟨t₁, rfl, h⟩

/-- Of a key that is absent, the first entry of the key is inserted. -/
theorem find?_insertAll {entries : List (String × String × Int)}
    (h : insertAll now w t entries = .ok t') (k : Key) :
    t'.find? k = (t.find? k).or ((Table.mk (entries.map (entryRow now w))).find? k) := by
  induction entries generalizing t with
  | nil =>
    cases h
    exact Option.or_none.symm
  | cons entry entries ih =>
    obtain ⟨t₁, h₁, h₂⟩ := insertAll_cons h
    rw [ih h₂, (insertOne_ok h₁).1, Table.find?_putIfAbsent, Option.or_assoc]
    congr 1
    simp only [Table.find?, List.map_cons, List.find?_cons]
    by_cases hk : (entryRow now w entry).key = k
    · simp [hk]
    · simp [beq_eq_false_iff_ne.2 hk, hk]

def Statement.rowAfter (now : Timestamp) (k : Key) (before : Option Row) : Statement → Option Row
  | .upsert w fileId fileType fileSize =>
    if (w, fileId) = k then some ⟨w, fileId, fileType, fileSize, now⟩ else before
  | .insertAbsent w fileIds fileTypes fileSizes =>
    before.or ((Table.mk ((fileIds.zip (fileTypes.zip fileSizes)).map (entryRow now w))).find? k)
  | .delete w fileId => if (w, fileId) = k then none else before
  | .dropTable => none
  | _ => before

theorem execute_ok_upsert (h : execute now t (.upsert w f ty n) = .ok (reply, t')) :
    sizeFailure? n = none ∧ reply = .affected 1 ∧ t' = t.put ⟨w, f, ty, n, now⟩ := by
  simp only [execute] at h
  split at h
  · cases h
  · next hs =>
    cases h
    exact ⟨hs, rfl, rfl⟩

theorem execute_ok_insertAbsent (h : execute now t (.insertAbsent w fs ts ns) = .ok (reply, t')) :
    insertAll now w t (fs.zip (ts.zip ns)) = .ok t' ∧
      reply = .affected (t'.rows.length - t.rows.length : Nat) := by
  simp only [execute] at h
  cases hi : insertAll now w t (fs.zip (ts.zip ns)) with
  | error failure => rw [hi] at h; cases h
  | ok t₁ =>
    rw [hi] at h
    cases h
    exact ⟨rfl, rfl⟩

theorem execute_find? (h : execute now t s = .ok (reply, t')) (k : Key) :
    t'.find? k = s.rowAfter now k (t.find? k) := by
  cases s with
  | contains => cases h; rfl
  | lookUp => cases h; rfl
  | listRows => cases h; rfl
  | listIds => cases h; rfl
  | total => cases h; rfl
  | createTable => cases h; rfl
  | upsert w f ty n =>
    rw [(execute_ok_upsert h).2.2, Table.find?_put]
    rfl
  | insertAbsent w fs ts ns => exact find?_insertAll (execute_ok_insertAbsent h).1 k
  | delete w f =>
    cases h
    exact Table.find?_erase t (w, f) k
  | dropTable =>
    cases h
    rfl

end StorageLedger.Store
