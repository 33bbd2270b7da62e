import StorageLedger.Ledger.Session

namespace StorageLedger.Calendar

theorem le_splitYears (year days : Nat) : year ≤ (splitYears year days).1 := by
  fun_induction splitYears year days with
  | case1 => exact Nat.le_refl _
  | case2 year days _ ih => omega

theorem splitYears_pos (h : 366 ≤ days) : 1 ≤ (splitYears 0 days).1 := by
  have hlength : yearLength 0 = 366 := rfl
  unfold splitYears
  rw [if_neg (by omega)]
  exact le_splitYears 1 _

/-- Only the days of the first year have no year. -/
theorem Date.year_pos_of_day_count (h : Date.ofDayCount? days = some d) (hdays : 366 ≤ days) :
    1 ≤ d.year := by
  have hyear := splitYears_pos hdays
  unfold Date.ofDayCount? at h
  split at h
  · dsimp only [Date.ofParts?] at h
    split at h
    · cases h
      exact hyear
    · cases h
  · cases h

theorem Timestamp.year_pos_of_unix (h : Timestamp.ofUnix seconds micro = .ok time)
    (hseconds : 0 ≤ seconds) : 1 ≤ time.date.year := by
  unfold Timestamp.ofUnix epochSeconds at h
  dsimp only at h
  split at h
  · cases h
  · split at h
    · next date clock hdate hclock =>
      cases h
      exact Date.year_pos_of_day_count hdate (by omega)
    · cases h

end StorageLedger.Calendar

namespace StorageLedger.Ledger
open StorageLedger.Calendar

theorem stamp_year (step : Nat) : (stamp step).date.year ≠ 0 := by
  unfold stamp
  cases h : Timestamp.ofUnix (clockStart + step) 0 with
  | error fault => exact show clockZero.date.year ≠ 0 by decide
  | ok time =>
    have hpos := Timestamp.year_pos_of_unix h (by unfold clockStart; omega)
    exact Nat.ne_of_gt hpos

end StorageLedger.Ledger

namespace StorageLedger.Store
open StorageLedger.Calendar StorageLedger.Validation

def Row.value (r : Row) : Value := .object (Record.columns.zip r.toRecord.cells)

theorem objects_rowsReply (rows : List Row) : (rowsReply rows).objects = rows.map Row.value := by
  simp only [rowsReply, Reply.objects, List.map_map]
  rfl

/-- What the size of a row and its time of writing are read as. The other columns cannot fail. -/
def Row.sizeField (r : Row) : Except (List Issue) Int :=
  (size (.int r.fileSize)).mapError fun complaint =>
    [⟨[.field "file_size"], complaint, .int r.fileSize⟩]

@[inherit_doc Row.sizeField]
def Row.timeField (r : Row) : Except (List Issue) (Option Timestamp) :=
  (optionalTimestamp (.timestamp r.modifiedAt)).mapError fun complaint =>
    [⟨[.field "modified_at"], complaint, .timestamp r.modifiedAt⟩]

def Row.recordWith (r : Row) (fields : Int × Option Timestamp) : Record :=
  ⟨r.workspaceId, r.fileId, r.fileType, fields.1, fields.2⟩

theorem ofValue_row (r : Row) :
    Record.ofValue r.value =
      ((both r.sizeField r.timeField).map r.recordWith).mapError (⟨.record, ·⟩) := by
  have hfields : Record.ofMembers (Record.columns.zip r.toRecord.cells) =
      (both r.sizeField r.timeField).map r.recordWith := by
    show (both (.ok r.workspaceId) (both (.ok r.fileId) (both (.ok r.fileType)
      (both r.sizeField r.timeField)))).map _ = _
    cases both r.sizeField r.timeField <;> rfl
  rw [← hfields]
  rfl

theorem Row.timeField_ok {r : Row} (h : r.modifiedAt.date.year ≠ 0) :
    r.timeField = .ok (some r.modifiedAt) := by
  have ht : timestamp (.timestamp r.modifiedAt) = .ok r.modifiedAt := if_neg h
  simp only [Row.timeField, optionalTimestamp, ht]
  rfl

theorem Row.timeField_error {r : Row} (h : r.modifiedAt.date.year = 0) :
    ∃ issues, r.timeField = .error issues := by
  have ht : timestamp (.timestamp r.modifiedAt) = .error (.timestampNumber .yearZero) := if_pos h
  simp only [Row.timeField, optionalTimestamp, ht]
  exact ⟨_, rfl⟩

theorem Row.sizeField_ok {r : Row} (h : 0 ≤ r.fileSize) (hmax : r.fileSize ≤ maxSize) :
    r.sizeField = .ok r.fileSize := by
  have hs : size (.int r.fileSize) = .ok r.fileSize := by
    simp only [size, integer, bind, Except.bind, if_neg (Int.not_lt.2 h),
      if_neg (Int.not_lt.2 hmax)]
  simp only [Row.sizeField, hs]
  rfl

/-- A row that the store may hold is read back as its record. -/
theorem ofValue_row_ok {r : Row} (h : 0 ≤ r.fileSize) (hmax : r.fileSize ≤ maxSize)
    (hyear : r.modifiedAt.date.year ≠ 0) : Record.ofValue r.value = .ok r.toRecord := by
  rw [ofValue_row, Row.sizeField_ok h hmax, Row.timeField_ok hyear]
  rfl

end StorageLedger.Store
