import StorageLedger.Proofs.ReadBack
import StorageLedger.Proofs.Session

namespace StorageLedger
open StorageLedger.Calendar StorageLedger.Store StorageLedger.Ledger

def Calendar.Timestamp.timeless (time : Timestamp) : Timestamp :=
  if time.date.year = 0 then time else clockZero

/-- A row without its time of writing. -/
def Store.Row.timeless (r : Row) : Row := { r with modifiedAt := r.modifiedAt.timeless }

def Store.Table.timeless (t : Table) : Table := ⟨t.rows.map Row.timeless⟩

def Record.timeless (r : Record) : Record :=
  { r with modifiedAt := r.modifiedAt.map Timestamp.timeless }

def Value.timeless : Value → Value
  | .timestamp time => .timestamp time.timeless
  | v => v

def Store.Reply.timeless : Reply → Reply
  | .affected n => .affected n
  | .rows columns cells => .rows columns (cells.map (·.map Value.timeless))

def Ledger.Outcome.timeless : Outcome → Outcome
  | .record r => .record r.timeless
  | .records rs => .records (rs.map Record.timeless)
  | o => o

def Ledger.Answer.timeless : Answer → Answer
  | .call result logs => .call (result.map Outcome.timeless) logs
  | .done => .done
  | .rows rs => .rows (rs.map Row.timeless)

def Ledger.Run.timeless (forget : α → α) (run : Run ε α) : Run ε α :=
  { run with result := run.result.map forget, table := run.table.timeless }

theorem Ledger.stamp_timeless (step : Nat) : (stamp step).timeless = clockZero :=
  if_neg (stamp_year step)

namespace Store

variable {now : Timestamp} {t t' : Table} {reply : Reply}

@[simp] theorem Row.timeless_key (r : Row) : r.timeless.key = r.key := rfl

theorem Row.timeless_of_year_zero {r : Row} (h : r.modifiedAt.date.year = 0) : r.timeless = r := by
  have ht : r.modifiedAt.timeless = r.modifiedAt := if_pos h
  rw [Row.timeless, ht]

theorem Row.timeless_year {r : Row} (h : r.modifiedAt.date.year ≠ 0) :
    r.timeless.modifiedAt.date.year ≠ 0 := by
  have ht : r.modifiedAt.timeless = clockZero := if_neg h
  simp only [Row.timeless, ht]
  decide

theorem Table.contains_timeless (t : Table) (k : Key) : t.timeless.contains k = t.contains k := by
  simp only [Table.contains, Table.timeless, List.any_map]
  rfl

theorem Table.withKey_timeless (t : Table) (k : Key) :
    t.timeless.withKey k = (t.withKey k).map Row.timeless := by
  simp only [Table.withKey, Table.timeless, List.filter_map]
  rfl

theorem Table.inWorkspace_timeless (t : Table) (w : WorkspaceId) :
    t.timeless.inWorkspace w = (t.inWorkspace w).map Row.timeless := by
  simp only [Table.inWorkspace, Table.timeless, List.filter_map]
  rfl

theorem Table.put_timeless (t : Table) (row : Row) :
    (t.put row).timeless = t.timeless.put row.timeless := by
  have hkey : t.timeless.contains row.timeless.key = t.contains row.key := by
    rw [Row.timeless_key, Table.contains_timeless]
  cases hc : t.contains row.key with
  | true =>
    rw [hc] at hkey
    rw [Table.put_of_contains hc, Table.put_of_contains hkey]
    simp only [Table.timeless, List.map_map]
    congr 1
    apply List.map_congr_left
    intro r _
    simp only [Function.comp_apply]
    rw [Row.timeless_key, Row.timeless_key]
    by_cases hk : r.key = row.key
    · rw [if_pos hk, if_pos hk]
    · rw [if_neg hk, if_neg hk]
  | false =>
    rw [hc] at hkey
    rw [Table.put_of_absent hc, Table.put_of_absent hkey]
    simp only [Table.timeless, List.map_append, List.map_cons, List.map_nil]

theorem Table.putIfAbsent_timeless (t : Table) (row : Row) :
    (t.putIfAbsent row).timeless = t.timeless.putIfAbsent row.timeless := by
  have hkey : t.timeless.contains row.timeless.key = t.contains row.key := by
    rw [Row.timeless_key, Table.contains_timeless]
  cases hc : t.contains row.key with
  | true =>
    rw [hc] at hkey
    rw [Table.putIfAbsent_of_contains hc, Table.putIfAbsent_of_contains hkey]
  | false =>
    rw [hc] at hkey
    rw [Table.putIfAbsent_of_absent hc, Table.putIfAbsent_of_absent hkey]
    simp only [Table.timeless, List.map_append, List.map_cons, List.map_nil]

theorem Table.erase_timeless (t : Table) (k : Key) : (t.erase k).timeless = t.timeless.erase k := by
  simp only [Table.erase, Table.timeless, List.filter_map]
  rfl

theorem Table.length_timeless (t : Table) : t.timeless.rows.length = t.rows.length :=
  List.length_map _

theorem insertOne_timeless (w : WorkspaceId) (t : Table) (entry : String × String × Int) :
    insertOne now.timeless w t.timeless entry = (insertOne now w t entry).map Table.timeless := by
  simp only [insertOne, Table.contains_timeless]
  split
  · rfl
  · split
    · rfl
    · simp only [Except.map, Table.putIfAbsent_timeless]
      rfl

theorem insertAll_timeless (w : WorkspaceId) (t : Table) (entries : List (String × String × Int)) :
    insertAll now.timeless w t.timeless entries =
      (insertAll now w t entries).map Table.timeless := by
  induction entries generalizing t with
  | nil => rfl
  | cons entry entries ih =>
    simp only [insertAll, List.foldlM_cons] at ih ⊢
    rw [insertOne_timeless]
    cases insertOne now w t entry with
    | error failure => rfl
    | ok t₁ => exact ih t₁

theorem totalSize_timeless (t : Table) (w : WorkspaceId) :
    totalSize t.timeless w = totalSize t w := by
  simp only [totalSize, Table.inWorkspace_timeless]
  cases t.inWorkspace w with
  | nil => rfl
  | cons r rows =>
    simp only [List.map_cons, List.map_map]
    rfl

theorem rowsReply_timeless (rows : List Row) :
    rowsReply (rows.map Row.timeless) = (rowsReply rows).timeless := by
  simp only [rowsReply, Reply.timeless, List.map_map]
  rfl

/-- Execution with the times forgotten before or after it. -/
theorem execute_timeless (now : Timestamp) (t : Table) (s : Statement) :
    execute now.timeless t.timeless s =
      (execute now t s).map (Prod.map Reply.timeless Table.timeless) := by
  cases s with
  | contains w f =>
    simp only [execute, Table.contains_timeless]
    rfl
  | lookUp w f =>
    simp only [execute, Table.withKey_timeless, rowsReply_timeless]
    rfl
  | listRows w =>
    simp only [execute, Table.inWorkspace_timeless, rowsReply_timeless]
    rfl
  | listIds w =>
    simp only [execute, Table.inWorkspace_timeless, Except.map, Prod.map, Reply.timeless,
      List.map_map]
    rfl
  | total w =>
    simp only [execute, totalSize_timeless, Except.map, Prod.map, Reply.scalar, Reply.timeless]
    unfold totalSize
    split <;> rfl
  | upsert w f ty n =>
    simp only [execute]
    split
    · rfl
    · simp only [Except.map, Prod.map, Table.put_timeless]
      rfl
  | insertAbsent w fs ts ns =>
    simp only [execute, insertAll_timeless]
    cases insertAll now w t (fs.zip (ts.zip ns)) with
    | error failure => rfl
    | ok t' =>
      simp only [Except.map, Prod.map, Table.length_timeless]
      rfl
  | delete w f =>
    simp only [execute, Except.map, Prod.map, ← Table.erase_timeless, Table.length_timeless]
    rfl
  | createTable => rfl
  | dropTable => rfl

theorem ofValue_row_timeless (r : Row) :
    Record.ofValue r.timeless.value = (Record.ofValue r.value).map Record.timeless := by
  by_cases hyear : r.modifiedAt.date.year = 0
  · rw [Row.timeless_of_year_zero hyear, ofValue_row]
    obtain ⟨issues, hissues⟩ := Row.timeField_error hyear
    rw [hissues]
    cases r.sizeField <;> rfl
  · have hsize : r.timeless.sizeField = r.sizeField := rfl
    rw [ofValue_row, ofValue_row, Row.timeField_ok hyear,
      Row.timeField_ok (Row.timeless_year hyear),
      hsize]
    cases r.sizeField <;> rfl

end Store
end StorageLedger
