import Mathlib.Algebra.Group.Nat.Defs
import StorageLedger.Ledger.Call

namespace StorageLedger
open StorageLedger.Validation

theorem Validation.natAbs_lt_of_bounds {n : Int} (h : 0 ≤ n ∧ n ≤ maxSize) :
    n.natAbs < Nat.pow 2 63 ∧ n.natAbs < 10 ^ 19 := by
  have hmax : n.natAbs < 9223372036854775808 := by
    unfold maxSize at h
    omega
  exact ⟨hmax, Nat.lt_of_lt_of_le hmax (by decide)⟩

/-- Of the integer that a value is read as only the bounds are in question. -/
theorem Validation.size_eq_ok_iff_integer :
    size v = .ok n ↔ integer v = .ok n ∧ 0 ≤ n ∧ n ≤ maxSize := by
  unfold size
  cases integer v with
  | error complaint => exact iff_of_false nofun nofun
  | ok m =>
    simp only [bind, Except.bind, Except.ok.injEq]
    constructor
    · intro h
      split at h
      · cases h
      · next hpos =>
        split at h
        · cases h
        · next hmax =>
          cases h
          exact ⟨rfl, Int.not_lt.1 hpos, Int.not_lt.1 hmax⟩
    · rintro ⟨rfl, hpos, hmax⟩
      rw [if_neg (Int.not_lt.2 hpos), if_neg (Int.not_lt.2 hmax)]

theorem Validation.size_of_bounds {n : Int} (h : 0 ≤ n) (hmax : n ≤ maxSize) :
    size (.int n) = .ok n := size_eq_ok_iff_integer.2 ⟨rfl, h, hmax⟩

theorem Validation.fileSize_of_bounds {n : Int} (h : 0 ≤ n) (hmax : n ≤ maxSize) :
    fileSize (.int n) = .ok n := by
  rw [fileSize, size_of_bounds h hmax]
  rfl

theorem Validation.size_bounds (h : size v = .ok n) : 0 ≤ n ∧ n ≤ maxSize :=
  (size_eq_ok_iff_integer.1 h).2

theorem Validation.fileSize_bounds (h : fileSize v = .ok n) : 0 ≤ n ∧ n ≤ maxSize := by
  unfold fileSize at h
  cases hv : size v with
  | error complaint =>
    rw [hv] at h
    cases h
  | ok m =>
    rw [hv] at h
    cases h
    exact size_bounds hv

theorem Validation.required_ok {read : Value → Except Complaint α}
    (h : required read name ms = .ok a) : ∃ v, read v = .ok a := by
  unfold required at h
  split at h
  · next v _ =>
    cases hv : read v with
    | error complaint =>
      rw [hv] at h
      cases h
    | ok a' =>
      rw [hv] at h
      cases h
      exact ⟨v, hv⟩
  · cases h

theorem Validation.both_ok {first : Except (List Issue) α} {second : Except (List Issue) β}
    (h : both first second = .ok (a, b)) : first = .ok a ∧ second = .ok b := by
  unfold both at h
  split at h
  · cases h
    exact ⟨rfl, rfl⟩
  · cases h
  · cases h
  · cases h

theorem Validation.both_ne_error_nil {first : Except (List Issue) α}
    {second : Except (List Issue) β} (hfirst : first ≠ .error []) (hsecond : second ≠ .error []) :
    both first second ≠ .error [] := by
  cases first <;> cases second <;> simp_all [both]

/-- An entry whose size the store can keep. -/
def Entry.Valid (e : Entry) : Prop := 0 ≤ e.fileSize ∧ e.fileSize ≤ maxSize

theorem Entry.ofMembers_valid (h : Entry.ofMembers ms = .ok e) : e.Valid := by
  unfold Entry.ofMembers at h
  generalize hfields : both (required text "object_id" ms) _ = fields at h
  cases fields with
  | error issues => cases h
  | ok fields =>
    obtain ⟨objectId, fileId, fileType, fileSize⟩ := fields
    cases h
    obtain ⟨_, hrest⟩ := both_ok hfields
    obtain ⟨_, hrest⟩ := both_ok hrest
    obtain ⟨_, hsize⟩ := both_ok hrest
    obtain ⟨v, hv⟩ := required_ok hsize
    exact size_bounds hv

theorem Entry.ofValue_valid (h : Entry.ofValue v = .ok e) : e.Valid := by
  unfold Entry.ofValue Entry.ofValueFrom at h
  cases hms : members .entry .caller v with
  | error issues =>
    rw [hms] at h
    cases h
  | ok ms =>
    simp only [hms, bind, Except.bind] at h
    cases he : Entry.ofMembers ms with
    | error issues =>
      rw [he] at h
      cases h
    | ok e' =>
      rw [he] at h
      cases h
      exact Entry.ofMembers_valid he

end StorageLedger
