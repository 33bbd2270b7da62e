import Mathlib.Data.Int.Log
import Mathlib.Data.Rat.Floor
import Mathlib.Tactic.NormNum
import StorageLedger.Proofs.SizeValidation

namespace StorageLedger.Number

/-- The whole number nearest to a quotient; of two nearest the even one. -/
structure IsNearest (q : ℚ) (k : Nat) : Prop where
  close : |q - k| ≤ 1 / 2
  tie : |q - k| = 1 / 2 → Even k

section Nearest

variable {q q' : ℚ} {k k' : Nat}

theorem IsNearest.mono (h : IsNearest q k) (h' : IsNearest q' k') (hq : q ≤ q') : k ≤ k' := by
  by_contra hlt
  have hstep : (k' : ℚ) + 1 ≤ k := by exact_mod_cast Nat.not_le.1 hlt
  obtain ⟨hlow, -⟩ := abs_le.1 h.close
  obtain ⟨-, hhigh⟩ := abs_le.1 h'.close
  -- Both quotients are halfway between the two, and both of these would have to be even.
  have hhalf : q - k = -(1 / 2) := by linarith
  have hhalf' : q' - k' = 1 / 2 := by linarith
  have hnext : k = k' + 1 := by
    have : (k : ℚ) = k' + 1 := by linarith
    exact_mod_cast this
  have heven : Even k := h.tie (by rw [hhalf, abs_neg, abs_of_pos (by norm_num)])
  have heven' : Even k' := h'.tie (by rw [hhalf', abs_of_pos (by norm_num)])
  rw [hnext] at heven
  exact Nat.not_even_iff_odd.2 heven'.add_one heven

theorem IsNearest.unique (h : IsNearest q k) (h' : IsNearest q k') : k = k' :=
  Nat.le_antisymm (h.mono h' le_rfl) (h'.mono h le_rfl)

theorem IsNearest.natCast (n : Nat) : IsNearest n n := by
  constructor
  · rw [sub_self, abs_zero]
    norm_num
  · rw [sub_self, abs_zero]
    norm_num

theorem IsNearest.le_iff_of_even (h : IsNearest q k) {j : Nat} (hj : Even j) :
    j ≤ k ↔ (j : ℚ) - 1 / 2 ≤ q := by
  obtain ⟨hlow, hhigh⟩ := abs_le.1 h.close
  constructor
  · intro hle
    have : (j : ℚ) ≤ k := by exact_mod_cast hle
    linarith
  · intro hle
    by_contra hlt
    have hstep : (k : ℚ) + 1 ≤ j := by exact_mod_cast Nat.not_le.1 hlt
    have hnext : j = k + 1 := by
      have : (j : ℚ) = k + 1 := by linarith
      exact_mod_cast this
    have hhalf : q - k = 1 / 2 := by linarith
    have heven : Even k := h.tie (by rw [hhalf, abs_of_pos (by norm_num)])
    rw [hnext] at hj
    exact Nat.not_even_iff_odd.2 heven.add_one hj

/-- A quotient is rounded to the nearest whole number. -/
theorem roundHalfEven_isNearest {den : Nat} (h : 0 < den) (num : Nat) :
    IsNearest (num / den) (roundHalfEven num den) := by
  have hden : (0 : ℚ) < den := by exact_mod_cast h
  have hle := two_mul_roundHalfEven_le h num
  have hge := le_two_mul_roundHalfEven h num
  have hdiff : (num / den : ℚ) - roundHalfEven num den =
      (num - den * roundHalfEven num den) / den := by
    field_simp
  rw [← Nat.cast_le (α := ℚ)] at hle hge
  push_cast at hle hge
  constructor
  · rw [hdiff, abs_div, abs_of_pos hden, div_le_iff₀ hden, abs_le]
    constructor <;> linarith
  · intro htie
    rw [hdiff, abs_div, abs_of_pos hden, div_eq_iff hden.ne', abs_eq (by positivity)] at htie
    have hhalf : 2 * num = 2 * (den * roundHalfEven num den) + den ∨
        2 * (den * roundHalfEven num den) = 2 * num + den := by
      rcases htie with htie | htie
      · left
        have : (2 * num : ℚ) = 2 * (den * roundHalfEven num den) + den := by linarith
        exact_mod_cast this
      · right
        have : (2 * (den * roundHalfEven num den) : ℚ) = 2 * num + den := by linarith
        exact_mod_cast this
    have hdiv := Nat.div_add_mod num den
    have hlt := Nat.mod_lt num h
    rw [Nat.even_iff]
    simp only [roundHalfEven] at hhalf ⊢
    split at hhalf
    · omega
    · split at hhalf
      · rw [Nat.mul_add] at hhalf
        omega
      · next hlow hhigh =>
        rw [if_neg hlow, if_neg hhigh]
        split <;> omega

end Nearest

namespace Binary64

section Grid

variable {q q' v v' : ℚ} {num den : Nat}

theorem log_eq_of_bounds {l : Int} (hlow : (2 : ℚ) ^ l ≤ q) (hhigh : q < 2 ^ (l + 1)) :
    Int.log 2 q = l := by
  have hpos : 0 < q := lt_of_lt_of_le (by positivity) hlow
  have hle : l ≤ Int.log 2 q := (Int.zpow_le_iff_le_log (by decide) hpos).1 (by simpa using hlow)
  have hlt : Int.log 2 q < l + 1 :=
    (Int.lt_zpow_iff_log_lt (by decide) hpos).1 (by simpa using hhigh)
  omega

theorem zpow_log_le (h : 0 < q) : (2 : ℚ) ^ Int.log 2 q ≤ q := by
  simpa using Int.zpow_log_le_self (b := 2) (by decide) h

theorem lt_zpow_log (q : ℚ) : q < (2 : ℚ) ^ (Int.log 2 q + 1) := by
  simpa using Int.lt_zpow_succ_log_self (b := 2) (by decide) q

theorem unscale_pos (h : 0 < den) (exponent : Int) : 0 < (unscale num den exponent).2 :=
  Nat.mul_pos h (Nat.pow_pos (by decide))

theorem unscale_ratio (num den : Nat) (exponent : Int) :
    ((unscale num den exponent).1 / (unscale num den exponent).2 : ℚ) =
      num / den / 2 ^ exponent := by
  have hpow : ((2 : ℚ) ^ exponent) =
      (2 ^ exponent.toNat : Nat) / (2 ^ (-exponent).toNat : Nat) := by
    simpa using mul_zpow_eq_div 2 1 exponent
  rw [hpow]
  simp only [unscale, Nat.pow_eq]
  push_cast
  field_simp

theorem log2_eq (hnum : 0 < num) (hden : 0 < den) : log2 num den = Int.log 2 (num / den : ℚ) := by
  have hnum' : ((2 : ℚ) ^ num.log2 ≤ num) ∧ (num : ℚ) < 2 ^ (num.log2 + 1) := by
    exact_mod_cast And.intro (Nat.log2_self_le hnum.ne') (Nat.lt_log2_self (n := num))
  have hden' : ((2 : ℚ) ^ den.log2 ≤ den) ∧ (den : ℚ) < 2 ^ (den.log2 + 1) := by
    exact_mod_cast And.intro (Nat.log2_self_le hden.ne') (Nat.lt_log2_self (n := den))
  have hpos : (0 : ℚ) < den := by exact_mod_cast hden
  let guess : Int := (num.log2 : Int) - den.log2
  have hhigh : (num / den : ℚ) < 2 ^ (guess + 1) := by
    have hpow : (2 : ℚ) ^ (guess + 1) = 2 ^ (num.log2 + 1) / 2 ^ den.log2 := by
      rw [← zpow_natCast, ← zpow_natCast, ← zpow_sub₀ (by norm_num)]
      congr 1
      push_cast
      ring
    rw [hpow]
    exact div_lt_div₀ hnum'.2 hden'.1 (by positivity) (by positivity)
  have hlow : (2 : ℚ) ^ (guess - 1) ≤ num / den := by
    have hpow : (2 : ℚ) ^ (guess - 1) = 2 ^ num.log2 / 2 ^ (den.log2 + 1) := by
      rw [← zpow_natCast, ← zpow_natCast, ← zpow_sub₀ (by norm_num)]
      congr 1
      push_cast
      ring
    rw [hpow]
    exact div_le_div₀ (by positivity) hnum'.1 hpos hden'.2.le
  have hguess : (unscale num den guess).2 ≤ (unscale num den guess).1 ↔
      (2 : ℚ) ^ guess ≤ num / den := by
    have hscaled : (0 : ℚ) < (unscale num den guess).2 := by exact_mod_cast unscale_pos hden guess
    rw [← Nat.cast_le (α := ℚ), ← one_le_div hscaled, unscale_ratio, one_le_div (by positivity)]
  symm
  change _ = if (unscale num den guess).2 ≤ (unscale num den guess).1 then guess else guess - 1
  split
  · next h => exact log_eq_of_bounds (hguess.1 h) hhigh
  · next h =>
    apply log_eq_of_bounds hlow
    rw [sub_add_cancel]
    exact not_le.1 (mt hguess.2 h)

/-- The exponent of the grid on which a positive quotient is rounded. -/
def grid (q : ℚ) : Int := max (Int.log 2 q - 52) minExponent

theorem quantum_eq (hnum : 0 < num) (hden : 0 < den) : quantum num den = grid (num / den) := by
  rw [quantum, grid, log2_eq hnum hden]

theorem grid_mono (h : 0 < q) (hle : q ≤ q') : grid q ≤ grid q' :=
  max_le_max (Int.sub_le_sub_right (Int.log_mono_right h hle) 52) le_rfl

theorem div_grid_lt (q : ℚ) : q / 2 ^ grid q < (2 ^ 53 : Nat) := by
  rw [div_lt_iff₀ (by positivity)]
  calc q < (2 : ℚ) ^ (Int.log 2 q + 1) := lt_zpow_log q
    _ ≤ 2 ^ (53 + grid q) := by
      apply zpow_le_zpow_right₀ (by norm_num)
      have := le_max_left (Int.log 2 q - 52) minExponent
      rw [grid]
      omega
    _ = (2 ^ 53 : Nat) * 2 ^ grid q := by
      rw [zpow_add₀ (by norm_num)]
      norm_num

/-- On its grid a quotient has 53 bits, if the grid is not the finest. -/
theorem le_div_grid (h : 0 < q) (hgrid : grid q = Int.log 2 q - 52) :
    ((2 ^ 52 : Nat) : ℚ) ≤ q / 2 ^ grid q := by
  rw [le_div_iff₀ (by positivity)]
  calc ((2 ^ 52 : Nat) : ℚ) * 2 ^ grid q = 2 ^ Int.log 2 q := by
        rw [hgrid, zpow_sub₀ (by norm_num)]
        push_cast
        field_simp
    _ ≤ q := zpow_log_le h

/-- The number to which a positive quotient is rounded, if exponents have no upper bound. -/
structure IsRounded (q v : ℚ) : Prop where
  nearest : ∃ k, IsNearest (q / 2 ^ grid q) k ∧ v = k * 2 ^ grid q

theorem IsRounded.mono (h : IsRounded q v) (h' : IsRounded q' v') (hq : 0 < q) (hle : q ≤ q') :
    v ≤ v' := by
  obtain ⟨k, hk, rfl⟩ := h.nearest
  obtain ⟨k', hk', rfl⟩ := h'.nearest
  rcases (grid_mono hq hle).eq_or_lt with hgrid | hgrid
  · rw [← hgrid] at hk' ⊢
    have hkk : (k : ℚ) ≤ k' := by
      exact_mod_cast hk.mono hk' (div_le_div_of_nonneg_right hle (by positivity))
    exact mul_le_mul_of_nonneg_right hkk (by positivity)
  · -- The grid gets coarser at a power of two, which is on both grids.
    have hcoarse : grid q' = Int.log 2 q' - 52 := by
      have := le_max_right (Int.log 2 q - 52) minExponent
      unfold grid at hgrid ⊢
      omega
    have hk53 : (k : ℚ) ≤ (2 ^ 53 : Nat) := by
      exact_mod_cast hk.mono (.natCast _) (div_grid_lt q).le
    have hk52 : ((2 ^ 52 : Nat) : ℚ) ≤ k' := by
      exact_mod_cast IsNearest.mono (.natCast _) hk' (le_div_grid (hq.trans_le hle) hcoarse)
    calc (k : ℚ) * 2 ^ grid q ≤ (2 ^ 53 : Nat) * 2 ^ grid q :=
          mul_le_mul_of_nonneg_right hk53 (by positivity)
      _ = (2 ^ 52 : Nat) * 2 ^ (grid q + 1) := by
        rw [zpow_add_one₀ (by norm_num)]
        push_cast
        ring
      _ ≤ (2 ^ 52 : Nat) * 2 ^ grid q' := by
        apply mul_le_mul_of_nonneg_left _ (by positivity)
        exact zpow_le_zpow_right₀ (by norm_num) hgrid
      _ ≤ k' * 2 ^ grid q' := mul_le_mul_of_nonneg_right hk52 (by positivity)

/-- What lies on its grid is kept. -/
theorem IsRounded.eq_of_on_grid (h : IsRounded q v) {k : Nat} (hk : q / 2 ^ grid q = k) :
    v = q := by
  obtain ⟨k', hk', rfl⟩ := h.nearest
  rw [hk] at hk'
  rw [hk'.unique (.natCast k), ← hk, div_mul_cancel₀ _ (by positivity)]

theorem IsRounded.eq_natCast {n : Nat} (h : IsRounded n v) (hpos : 0 < n) (hn : n < 2 ^ 53) :
    v = n := by
  have hq : (0 : ℚ) < n := by exact_mod_cast hpos
  have hbits : Int.log 2 (n : ℚ) < 53 := by
    apply (Int.lt_zpow_iff_log_lt (by decide) hq).1
    exact_mod_cast hn
  have hgrid : grid n ≤ 0 := by
    rw [grid, minExponent]
    omega
  obtain ⟨j, hj⟩ := Int.eq_ofNat_of_zero_le (Int.neg_nonneg_of_nonpos hgrid)
  apply h.eq_of_on_grid (k := n * 2 ^ j)
  rw [show grid n = -(j : Int) by omega, zpow_neg, zpow_natCast, div_inv_eq_mul]
  push_cast
  rfl

theorem IsRounded.two_zpow {j : Int} (h : minExponent ≤ j) : IsRounded (2 ^ j) (2 ^ j) := by
  have hlog : Int.log 2 ((2 : ℚ) ^ j) = j := by
    apply log_eq_of_bounds le_rfl
    exact zpow_lt_zpow_right₀ (by norm_num) (lt_add_one j)
  have hgrid : grid (2 ^ j) ≤ j := by
    rw [grid, hlog]
    omega
  obtain ⟨i, hi⟩ := Int.eq_ofNat_of_zero_le (Int.sub_nonneg_of_le hgrid)
  have hquotient : (2 : ℚ) ^ j / 2 ^ grid (2 ^ j) = (2 ^ i : Nat) := by
    rw [← zpow_sub₀ (by norm_num), hi]
    simp
  refine ⟨2 ^ i, hquotient ▸ .natCast _, ?_⟩
  rw [← hquotient, div_mul_cancel₀ _ (by positivity)]

/-- The numbers that are rounded to the end of the format begin half a step below it. -/
theorem IsRounded.lt_limit_iff (h : IsRounded q v) (hq : 0 < q) :
    v < 2 ^ (1024 : Int) ↔ q < 2 ^ (1024 : Int) - 2 ^ (970 : Int) := by
  have hstep : (0 : ℚ) < 2 ^ (971 : Int) := by positivity
  have hhalf : (2 : ℚ) ^ (970 : Int) = 2 ^ (971 : Int) / 2 := zpow_sub_one₀ (by norm_num) 971
  have hbelow : (2 : ℚ) ^ (1023 : Int) = 2 ^ 52 * 2 ^ (971 : Int) := by
    rw [← zpow_natCast, ← zpow_add₀ (by norm_num)]
    rfl
  have hlimit : (2 : ℚ) ^ (1024 : Int) = 2 ^ 53 * 2 ^ (971 : Int) := by
    rw [← zpow_natCast, ← zpow_add₀ (by norm_num)]
    rfl
  rcases lt_or_ge q (2 ^ (1023 : Int)) with hlow | hlow
  · have hv : v ≤ 2 ^ (1023 : Int) := h.mono (.two_zpow (by decide)) hq hlow.le
    rw [hbelow] at hlow hv
    rw [hlimit, hhalf]
    -- The value of the power would only slow the arithmetic down.
    generalize (2 : ℚ) ^ (971 : Int) = step at hstep hlow hv ⊢
    exact iff_of_true (by linarith only [hv, hstep]) (by linarith only [hlow, hstep])
  rcases lt_or_ge q (2 ^ (1024 : Int)) with hhigh | hhigh
  · obtain ⟨k, hk, rfl⟩ := h.nearest
    have hgrid : grid q = 971 := by
      rw [grid, log_eq_of_bounds hlow hhigh]
      decide
    have hup := hk.le_iff_of_even (j := 2 ^ 53) (by decide)
    rw [hgrid, le_div_iff₀ hstep, sub_mul, ← Nat.cast_le (α := ℚ), Nat.cast_pow,
      Nat.cast_ofNat] at hup
    rw [hgrid, hlimit, hhalf, mul_lt_mul_iff_left₀ hstep, ← not_le, ← not_le, not_iff_not, hup]
    ring_nf
  · have hv : (2 : ℚ) ^ (1024 : Int) ≤ v :=
      IsRounded.mono (.two_zpow (by decide)) h (by positivity) hhigh
    have hpos : (0 : ℚ) < 2 ^ (970 : Int) := by positivity
    exact iff_of_false hv.not_gt fun hlt => (hlt.trans (sub_lt_self _ hpos)).not_ge hhigh

end Grid

/-- A mantissa of 53 bits. -/
structure IsNormal (mantissa : Nat) : Prop where
  lower : 2 ^ 52 ≤ mantissa
  upper : mantissa < 2 ^ 53

section Normal

variable {mantissa mantissa' num den : Nat} {exponent exponent' : Int}

theorem IsNormal.pos (h : IsNormal mantissa) : 0 < mantissa :=
  Nat.lt_of_lt_of_le (by decide) h.lower

theorem IsNormal.log_eq (h : IsNormal mantissa) (exponent : Int) :
    Int.log 2 (mantissa * 2 ^ exponent : ℚ) = exponent + 52 := by
  have hlower : (2 : ℚ) ^ 52 ≤ mantissa := by exact_mod_cast h.lower
  have hupper : (mantissa : ℚ) < 2 ^ 53 := by exact_mod_cast h.upper
  apply log_eq_of_bounds
  · rw [zpow_add₀ (by norm_num), mul_comm]
    exact mul_le_mul_of_nonneg_right hlower (by positivity)
  · rw [add_assoc, zpow_add₀ (by norm_num), mul_comm (2 ^ exponent)]
    exact mul_lt_mul_of_pos_right hupper (by positivity)

theorem IsNormal.unique (h : IsNormal mantissa) (h' : IsNormal mantissa')
    (heq : (mantissa * 2 ^ exponent : ℚ) = mantissa' * 2 ^ exponent') :
    mantissa = mantissa' ∧ exponent = exponent' := by
  have hlog := h.log_eq exponent
  rw [heq, h'.log_eq exponent'] at hlog
  obtain rfl : exponent = exponent' := by omega
  exact ⟨by exact_mod_cast mul_right_cancel₀ (by positivity) heq, rfl⟩

theorem IsNormal.lt_limit_iff (h : IsNormal mantissa) (exponent : Int) :
    (mantissa * 2 ^ exponent : ℚ) < 2 ^ (1024 : Int) ↔ exponent ≤ maxExponent := by
  have hpos : (0 : ℚ) < mantissa * 2 ^ exponent := by
    have := h.pos
    positivity
  have hlog := Int.lt_zpow_iff_log_lt (b := 2) (x := 1024) (by decide) hpos
  rw [h.log_eq, Nat.cast_ofNat] at hlog
  rw [hlog, maxExponent]
  omega

/-- A positive quotient above the finest grid is rounded to a number of 53 bits, or to infinity if
the format has none so great. -/
theorem round_normal (negative : Bool) (hnum : 0 < num) (hden : 0 < den)
    (hgrid : grid (num / den) = Int.log 2 (num / den : ℚ) - 52) :
    ∃ mantissa exponent, IsNormal mantissa ∧ grid (num / den) ≤ exponent ∧
      IsRounded (num / den) (mantissa * 2 ^ exponent) ∧
      round negative num den =
        if maxExponent < exponent then .infinite negative
        else .finite negative mantissa exponent := by
  have hq : (0 : ℚ) < num / den := by positivity
  let k := roundHalfEven (unscale num den (grid (num / den))).1
    (unscale num den (grid (num / den))).2
  have hnearest : IsNearest (num / den / 2 ^ grid (num / den)) k := by
    rw [← unscale_ratio]
    exact roundHalfEven_isNearest (unscale_pos hden _) _
  have hlower : 2 ^ 52 ≤ k := IsNearest.mono (.natCast _) hnearest (le_div_grid hq hgrid)
  have hupper : k ≤ 2 ^ 53 := hnearest.mono (.natCast _) (div_grid_lt _).le
  let normal := if k = 2 ^ 53 then (2 ^ 52, grid (num / den) + 1) else (k, grid (num / den))
  have hround : round negative num den =
      if maxExponent < normal.2 then .infinite negative
      else .finite negative normal.1 normal.2 := by
    rw [round, if_neg hnum.ne', quantum_eq hnum hden]
    rfl
  rw [hround]
  by_cases hk : k = 2 ^ 53
  · have hnormal : normal = (2 ^ 52, grid (num / den) + 1) := if_pos hk
    refine ⟨2 ^ 52, grid (num / den) + 1, ⟨le_rfl, by decide⟩, by omega, ⟨k, hnearest, ?_⟩, ?_⟩
    · rw [hk, zpow_add_one₀ (by norm_num)]
      push_cast
      ring
    · rw [hnormal]
  · have hnormal : normal = (k, grid (num / den)) := if_neg hk
    refine ⟨k, grid (num / den), ⟨hlower, lt_of_le_of_ne hupper hk⟩, le_rfl, ⟨k, hnearest, rfl⟩, ?_⟩
    rw [hnormal]

theorem round_eq_self (negative : Bool) (hnum : 0 < num) (hden : 0 < den)
    (h : IsNormal mantissa) (hvalue : (num / den : ℚ) = mantissa * 2 ^ exponent)
    (hlow : minExponent ≤ exponent) (hhigh : exponent ≤ maxExponent) :
    round negative num den = .finite negative mantissa exponent := by
  have hlog : Int.log 2 (num / den : ℚ) = exponent + 52 := by rw [hvalue, h.log_eq]
  have hgrid : grid (num / den) = exponent := by
    rw [grid, hlog]
    omega
  obtain ⟨mantissa', exponent', h', -, hrounded, hround⟩ :=
    round_normal negative hnum hden (by omega)
  have hkept : (num / den : ℚ) / 2 ^ grid (num / den) = mantissa := by
    rw [hgrid, hvalue, mul_div_cancel_right₀ _ (by positivity)]
  have hsame := (hrounded.eq_of_on_grid hkept).trans hvalue
  obtain ⟨rfl, rfl⟩ := h'.unique h hsame
  rw [hround, if_neg (not_lt.2 hhigh)]

theorem magnitude_ratio (mantissa : Nat) (exponent : Int) :
    ((magnitude mantissa exponent).1 / (magnitude mantissa exponent).2 : ℚ) =
      mantissa * 2 ^ exponent :=
  (mul_zpow_eq_div 2 mantissa exponent).symm

/-- Division by a power of two is exact above the finest grid. -/
theorem divNat_two_pow (negative : Bool) (h : IsNormal mantissa) (j : Nat)
    (hlow : minExponent + j ≤ exponent) (hhigh : exponent ≤ maxExponent) :
    (Binary64.finite negative mantissa exponent).divNat (2 ^ j) =
      .finite negative mantissa (exponent - j) := by
  have hnum : 0 < (magnitude mantissa exponent).1 := Nat.mul_pos h.pos (Nat.pow_pos (by decide))
  have hden : 0 < (magnitude mantissa exponent).2 := Nat.pow_pos (by decide)
  apply round_eq_self negative hnum (Nat.mul_pos hden (by positivity)) h _ (by omega) (by omega)
  rw [zpow_sub₀ (by norm_num), ← mul_div_assoc, ← magnitude_ratio]
  push_cast
  rw [div_div]
  norm_num

theorem ltNat_iff {k : Nat} : (Binary64.finite false mantissa exponent).ltNat k = true ↔
    (mantissa * 2 ^ exponent : ℚ) < k := by
  have hden : (0 : ℚ) < (magnitude mantissa exponent).2 := by
    exact_mod_cast (Nat.pow_pos (by decide) : 0 < 2 ^ (-exponent).toNat)
  have hratio : (Binary64.finite false mantissa exponent).ltNat k =
      decide (((magnitude mantissa exponent).1 : Int) < k * (magnitude mantissa exponent).2) := rfl
  rw [hratio, decide_eq_true_iff, ← magnitude_ratio, div_lt_iff₀ hden]
  exact_mod_cast Iff.rfl

end Normal

end Binary64

end StorageLedger.Number
