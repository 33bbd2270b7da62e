import Mathlib.Data.Rat.Floor
import StorageLedger.Proofs.SizeValidation

namespace StorageLedger.Number
open StorageLedger.Text

def towardZero (q : ℚ) : Int := if 0 ≤ q then ⌊q⌋ else ⌈q⌉

theorem towardZero_mono {q q' : ℚ} (h : 0 ≤ q) (hle : q ≤ q') : towardZero q ≤ towardZero q' := by
  rw [towardZero, towardZero, if_pos h, if_pos (h.trans hle)]
  exact Int.floor_mono hle

theorem towardZero_nonneg {q : ℚ} (h : 0 ≤ q) : 0 ≤ towardZero q := by
  rw [towardZero, if_pos h]
  exact Int.floor_nonneg.2 h

theorem towardZero_le {q : ℚ} (h : 0 ≤ q) : (towardZero q : ℚ) ≤ q := by
  rw [towardZero, if_pos h]
  exact Int.floor_le q

theorem towardZero_signed (negative : Bool) (num den : Nat) :
    towardZero (if negative then -(num / den : ℚ) else num / den) =
      signed negative (num / den) := by
  have hfloor : ⌊(num / den : ℚ)⌋ = (num / den : Nat) := by
    rw [Rat.floor_natCast_div_natCast, Int.natCast_ediv]
  have hnonneg : (0 : ℚ) ≤ num / den := by positivity
  cases negative with
  | false => simpa [towardZero, signed, hnonneg] using hfloor
  | true =>
    simp only [towardZero, signed, if_true, Left.nonneg_neg_iff, Int.ceil_neg, hfloor]
    split
    · next h =>
      have hzero : (num / den : ℚ) = 0 := le_antisymm h hnonneg
      rw [hzero, Int.floor_zero] at hfloor
      rw [hzero, neg_zero, Int.floor_zero, ← hfloor, Int.neg_zero]
    · rfl

section Truncation

variable {base coefficient : Nat} {negative : Bool} {exponent : Int}

theorem towardZero_scaledValue : towardZero (scaledValue base negative coefficient exponent) =
    signed negative (coefficient * base ^ exponent.toNat / base ^ (-exponent).toNat) := by
  rw [scaledValue, mul_zpow_eq_div]
  exact towardZero_signed negative _ _

theorem Binary64.truncate?_eq : (Binary64.finite negative coefficient exponent).truncate? =
    some (towardZero (scaledValue 2 negative coefficient exponent)) := by
  have hratio : (Binary64.finite negative coefficient exponent).toRatio? =
      some (signed negative (coefficient * 2 ^ exponent.toNat), 2 ^ (-exponent).toNat) := rfl
  rw [truncate?, hratio, towardZero_scaledValue, Option.map_some]
  congr 1
  cases negative with
  | false => exact (Int.ofNat_tdiv _ _).symm
  | true =>
    refine (Int.neg_tdiv _ _).trans ?_
    exact congrArg Neg.neg (Int.ofNat_tdiv _ _).symm

theorem Decimal.truncate?_eq : (Decimal.finite negative coefficient exponent).truncate? =
    some (towardZero (scaledValue 10 negative coefficient exponent)) := by
  rw [truncate?, truncateMagnitude, towardZero_scaledValue]
  split
  · next h =>
    have hzero : (-exponent).toNat = 0 := by omega
    rw [hzero, Nat.pow_zero, Nat.div_one]
    rfl
  · next h =>
    have hzero : exponent.toNat = 0 := by omega
    rw [hzero, Nat.pow_zero, Nat.mul_one, shiftDown_eq]

end Truncation

end StorageLedger.Number

namespace StorageLedger
open StorageLedger.Number

/-- The numbers among the values: integers, with the truth values, and the finite numbers of both
formats. -/
def Value.isNumber : Value → Bool
  | .bool _ => true
  | .int _ => true
  | .float (.finite _ _ _) => true
  | .decimal (.finite _ _ _) => true
  | _ => false

def Value.isNotFinite : Value → Bool
  | .float .nan => true
  | .float (.infinite _) => true
  | .decimal (.nan _) => true
  | .decimal (.infinite _) => true
  | _ => false

theorem Value.exists_denotes {v : Value} (h : v.isNumber) : ∃ q, v.Denotes q := by
  cases v with
  | bool b => exact ⟨_, .bool⟩
  | int n => exact ⟨_, .int⟩
  | float x =>
    cases x with
    | finite negative mantissa exponent => exact ⟨_, .float⟩
    | _ => cases h
  | decimal d =>
    cases d with
    | finite negative coefficient exponent => exact ⟨_, .decimal⟩
    | _ => cases h
  | _ => cases h

namespace Usage

theorem whole_of_number {v : Value} {q : ℚ} (hv : v.isNumber) (h : v.Denotes q) :
    whole v = .ok (towardZero q) := by
  cases h with
  | @bool b => cases b <;> simp [whole, towardZero]
  | int => simp [whole, towardZero]
  | @float negative mantissa exponent =>
    change Except.ok ((Binary64.finite negative mantissa exponent).truncate?.getD 0) = _
    rw [Binary64.truncate?_eq, Option.getD_some]
  | @decimal negative coefficient exponent =>
    change Except.ok ((Decimal.finite negative coefficient exponent).truncate?.getD 0) = _
    rw [Decimal.truncate?_eq, Option.getD_some]
  | text => cases hv
  | bytes => cases hv

theorem exists_fault_of_notFinite {v : Value} (h : v.isNotFinite) :
    ∃ fault, clamp v = .error fault := by
  cases v with
  | float x =>
    cases x with
    | finite negative mantissa exponent => cases h
    | _ => exact ⟨_, rfl⟩
  | decimal d =>
    cases d with
    | finite negative coefficient exponent => cases h
    | _ => exact ⟨_, rfl⟩
  | _ => cases h

theorem clampInt_le (n : Int) : clampInt n ≤ 2 ^ 64 - 1 := by
  unfold clampInt limit
  split <;> omega

theorem clamp_le {v : Value} {n : Nat} (h : clamp v = .ok n) : n ≤ 2 ^ 64 - 1 := by
  rw [clamp] at h
  cases hv : whole v with
  | error fault =>
    rw [hv] at h
    cases h
  | ok m =>
    rw [hv] at h
    cases h
    exact clampInt_le m

theorem clamp_of_number {v : Value} {q : ℚ} (hv : v.isNumber) (h : v.Denotes q) :
    clamp v = .ok (if 0 ≤ towardZero q ∧ towardZero q ≤ 2 ^ 64 - 1 then (towardZero q).toNat
      else 0) := by
  rw [clamp, whole_of_number hv h]
  rfl

theorem clamp_mono {v v' : Value} {q q' : ℚ} (hv : v.isNumber) (hv' : v'.isNumber)
    (h : v.Denotes q) (h' : v'.Denotes q') (hnonneg : 0 ≤ q) (hle : q ≤ q')
    (hlt : q' < 2 ^ 64) : ∃ n n', clamp v = .ok n ∧ clamp v' = .ok n' ∧ n ≤ n' := by
  have hmono := towardZero_mono hnonneg hle
  have hzero := towardZero_nonneg hnonneg
  have hbound : towardZero q' < 2 ^ 64 := by
    have hcast := (towardZero_le (hnonneg.trans hle)).trans_lt hlt
    exact_mod_cast hcast
  have hin : 0 ≤ towardZero q ∧ towardZero q ≤ 2 ^ 64 - 1 := by omega
  have hin' : 0 ≤ towardZero q' ∧ towardZero q' ≤ 2 ^ 64 - 1 := by omega
  refine ⟨_, _, clamp_of_number hv h, clamp_of_number hv' h', ?_⟩
  rw [if_pos hin, if_pos hin']
  omega

end Usage

namespace Ledger
open StorageLedger.Calendar StorageLedger.Store

/-- What a call for the usage makes of a total: it is converted when the transaction is over. -/
theorem Call.run_usage_scripted (w : WorkspaceId) (now : Timestamp) (handle : Handle) (t : Table)
    (total : Value) :
    let run := (Call.usage w).run { now := now, script := some (.scalar total) } handle none t
    run.result = usageOf (.scalar total) ∧ run.logs = [] ∧
      run.events = if handle = .engine then [.begin_, .execute, .commit] else [.execute] := by
  cases handle <;> exact ⟨rfl, rfl, rfl⟩

/-- Usage is exact for every total that a store may reply. The call answers what the total is
clamped to: nothing for no total, for a number its integer on the side of zero if that is within 64
bits and nothing otherwise. A total that is undefined or infinite is an error, which the call passes
on as it is and without a record, after the transaction is over. No answer is out of bounds, and
totals within bounds keep their order. -/
theorem Call.usage_clamps_totals (w : WorkspaceId) (now : Timestamp) (handle : Handle)
    (t : Table) :
    let ask (total : Value) :=
      (Call.usage w).run { now := now, script := some (.scalar total) } handle none t
    (∀ total, ((ask total).logs = [] ∧
        (ask total).events =
          if handle = .engine then [.begin_, .execute, .commit] else [.execute]) ∧
      (∀ n, Usage.clamp total = .ok n → (ask total).result = .ok (.count n) ∧ n ≤ 2 ^ 64 - 1) ∧
      ∀ fault, Usage.clamp total = .error fault → (ask total).result = .error (.usage fault)) ∧
    Usage.clamp .null = .ok 0 ∧
    (∀ total, total.isNumber → ∃ q, total.Denotes q ∧ Usage.clamp total =
      .ok (if 0 ≤ towardZero q ∧ towardZero q ≤ 2 ^ 64 - 1 then (towardZero q).toNat else 0)) ∧
    (∀ total, total.isNotFinite → ∃ fault, Usage.clamp total = .error fault) ∧
    ∀ total total' q q', total.isNumber → total'.isNumber → total.Denotes q → total'.Denotes q' →
      0 ≤ q → q ≤ q' → q' < 2 ^ 64 →
      ∃ n n', Usage.clamp total = .ok n ∧ Usage.clamp total' = .ok n' ∧ n ≤ n' := by
  intro ask
  refine ⟨fun total => ?_, rfl, ?_, fun _ => Usage.exists_fault_of_notFinite, ?_⟩
  · obtain ⟨hresult, hlogs, hevents⟩ := Call.run_usage_scripted w now handle t total
    have husage : usageOf (.scalar total) =
        ((Usage.clamp total).map fun n : Nat => Outcome.count n).mapError .usage := rfl
    refine ⟨⟨hlogs, hevents⟩, fun n hn => ⟨?_, Usage.clamp_le hn⟩, fun fault hfault => ?_⟩
    · rw [hresult, husage, hn]
      rfl
    · rw [hresult, husage, hfault]
      rfl
  · intro total htotal
    obtain ⟨q, hq⟩ := Value.exists_denotes htotal
    exact ⟨q, hq, Usage.clamp_of_number htotal hq⟩
  · intro total total' q q' htotal htotal' hq hq' hnonneg hle hlt
    exact Usage.clamp_mono htotal htotal' hq hq' hnonneg hle hlt

theorem Call.usage_of_fractions :
    let ask (total : Value) := (Call.usage ⟨7, by decide⟩).run
      { now := clockZero, script := some (.scalar total) } .session none .empty
    (ask (.decimal (.finite true 9 (-1)))).result = .ok (.count 0) ∧
      (ask (.decimal (.finite false 184467440737095516159 (-1)))).result =
        .ok (.count (2 ^ 64 - 1)) ∧
      (ask (.float (.finite false (2 ^ 52) 12))).result = .ok (.count 0) ∧
      ∃ fault, (ask (.float .nan)).result = .error (.usage fault) := by
  intro ask
  obtain ⟨hask, -, -, hundefined, -⟩ :=
    Call.usage_clamps_totals ⟨7, by decide⟩ clockZero .session .empty
  obtain ⟨fault, hfault⟩ := hundefined (.float .nan) rfl
  exact ⟨((hask _).2.1 0 rfl).1, ((hask _).2.1 (2 ^ 64 - 1) rfl).1, ((hask _).2.1 0 rfl).1,
    fault, (hask _).2.2 fault hfault⟩

end Ledger
end StorageLedger
