import StorageLedger.Proofs.FloatRounding
import StorageLedger.SizeText

namespace StorageLedger.SizeText
open StorageLedger.Number StorageLedger.Text

/-- A text shows a number in a unit: it is a decimal numeral of the number, a blank and the name of
the unit, which stands for a power of 1024. -/
def Shows (text : String) (number : ℚ) (power : Nat) : Prop :=
  ∃ (numeral : DecimalText) (unit : String), numeral.value = number ∧
    ["B", "KiB", "MiB", "GiB", "TiB"][power]? = some unit ∧
    splitAtChar ' ' text.toList = [numeral.chars, unit.toList]

/-- The text of a size shows a number in a unit. -/
def Displays (n : Int) (number : ℚ) (power : Nat) : Prop :=
  ∃ text, ofInt? n = some text ∧ Shows text number power

section Reading

theorem Shows.unique {text : String} {number number' : ℚ} {power power' : Nat}
    (h : Shows text number power) (h' : Shows text number' power') :
    number = number' ∧ power = power' := by
  obtain ⟨numeral, unit, rfl, hunit, hsplit⟩ := h
  obtain ⟨numeral', unit', rfl, hunit', hsplit'⟩ := h'
  rw [hsplit'] at hsplit
  simp only [List.cons.injEq, and_true, String.toList_inj] at hsplit
  obtain ⟨hnumeral, rfl⟩ := hsplit
  refine ⟨numeral.value_unique hnumeral.symm, ?_⟩
  have hnodup : ["B", "KiB", "MiB", "GiB", "TiB"].Nodup := by decide
  obtain ⟨hpower, hname⟩ := List.getElem?_eq_some_iff.1 hunit
  obtain ⟨hpower', hname'⟩ := List.getElem?_eq_some_iff.1 hunit'
  exact (List.Nodup.getElem_inj_iff hnodup).1 (hname.trans hname'.symm)

theorem Displays.unique {n : Int} {number number' : ℚ} {power power' : Nat}
    (h : Displays n number power) (h' : Displays n number' power') :
    number = number' ∧ power = power' := by
  obtain ⟨text, htext, hshows⟩ := h
  obtain ⟨text', htext', hshows'⟩ := h'
  obtain rfl := Option.some.inj (htext.symm.trans htext')
  exact hshows.unique hshows'

theorem Displays.isSome {n : Int} {number : ℚ} {power : Nat} (h : Displays n number power) :
    (ofInt? n).isSome := by
  obtain ⟨text, htext, -⟩ := h
  rw [htext]
  rfl

theorem Shows.of_chars (numeral : DecimalText) {unit : String} {power : Nat}
    (hblank : ' ' ∉ numeral.chars) (hunit : ["B", "KiB", "MiB", "GiB", "TiB"][power]? = some unit) :
    Shows (String.ofList numeral.chars ++ " " ++ unit) numeral.value power := by
  refine ⟨numeral, unit, rfl, hunit, ?_⟩
  have hnone : ' ' ∉ unit.toList := by
    have hall : ∀ unit ∈ ["B", "KiB", "MiB", "GiB", "TiB"], ' ' ∉ unit.toList := by simp
    exact hall unit (List.mem_of_getElem? hunit)
  have hchars : (String.ofList numeral.chars ++ " " ++ unit).toList =
      numeral.chars ++ ' ' :: unit.toList := by simp
  rw [hchars, splitAtChar_append_sep hblank, splitAtChar_of_not_mem hnone]

theorem blank_not_mem_chars {numeral : DecimalText} (hlead : numeral.lead = [])
    (htail : numeral.tail = []) : ' ' ∉ numeral.chars := by
  rw [DecimalText.chars, hlead, htail, List.nil_append, List.append_nil]
  exact fun h => absurd (numeral.not_white_of_mem_core ' ' h) (by decide)

end Reading

theorem displays_small {n : Int} (h : n < 1024) : Displays n n 0 := by
  have hshows := Shows.of_chars (.ofInt n) (blank_not_mem_chars rfl rfl)
    (show ["B", "KiB", "MiB", "GiB", "TiB"][0]? = some "B" from rfl)
  rw [DecimalText.value_ofInt] at hshows
  refine ⟨_, ?_, hshows⟩
  have hdigits : integerDigits n = (DecimalText.ofInt n).chars := by
    by_cases hneg : n < 0 <;>
      simp [integerDigits, DecimalText.chars, DecimalText.core, DecimalText.point,
        fractionChars, DecimalText.ofInt, Sign.chars, hneg]
  rw [ofInt?, if_pos h, hdigits, String.append_assoc]
  rfl

section Scale

/-- The power of a size that is not below 1024: the greatest of the first four that is not above
it. -/
structure IsPower (x : ℚ) (power : Nat) : Prop where
  pos : 1 ≤ power
  le_four : power ≤ 4
  lower : 1024 ^ power ≤ x
  upper : power < 4 → x < 1024 ^ (power + 1)

/-- A size of 53 bits is divided without loss, until it is below 1024 or no unit is left. -/
theorem scale_normal {mantissa : Nat} (h : Binary64.IsNormal mantissa) (exponent : Int)
    (unit : String) (more : List String)
    (hlow : Binary64.minExponent + 10 * more.length ≤ exponent)
    (hhigh : exponent ≤ Binary64.maxExponent) :
    ∃ power ≤ more.length, (more ≠ [] → 1 ≤ power) ∧
      (1 < power → 1024 ^ power ≤ (mantissa * 2 ^ exponent : ℚ)) ∧
      (power < more.length → (mantissa * 2 ^ exponent : ℚ) < 1024 ^ (power + 1)) ∧
      ∃ name, (unit :: more)[power]? = some name ∧
        scale (.finite false mantissa exponent) unit more =
          (.finite false mantissa (exponent - 10 * power), name) := by
  -- The induction is on the units that are left, each taking ten from the exponent.
  induction more generalizing exponent unit with
  | nil =>
    refine ⟨0, le_rfl, nofun, nofun, nofun, unit, rfl, ?_⟩
    rw [scale, Int.natCast_zero, Int.mul_zero, Int.sub_zero]
  | cons next more ih =>
    rw [List.length_cons] at hlow
    have hdivided : (Binary64.finite false mantissa exponent).divNat 1024 =
        .finite false mantissa (exponent - 10) :=
      Binary64.divNat_two_pow false h 10 (by omega) hhigh
    have hquotient : (mantissa * 2 ^ (exponent - 10) : ℚ) = mantissa * 2 ^ exponent / 1024 := by
      rw [zpow_sub₀ (by norm_num), ← mul_div_assoc]
      norm_num
    have hbelow : (Binary64.finite false mantissa (exponent - 10)).ltNat 1024 = true ↔
        (mantissa * 2 ^ exponent : ℚ) < 1024 ^ 2 := by
      rw [Binary64.ltNat_iff, hquotient, div_lt_iff₀ (by norm_num)]
      norm_num
    rw [scale, hdivided]
    by_cases hlast : (Binary64.finite false mantissa (exponent - 10)).ltNat 1024 = true
    · rw [if_pos hlast]
      exact ⟨1, by simp, fun _ => le_rfl, fun hone => absurd hone (lt_irrefl 1),
        fun _ => hbelow.1 hlast, next, rfl, rfl⟩
    · rw [if_neg hlast]
      obtain ⟨power, hle, hpos, hlower, hupper, name, hname, hscale⟩ :=
        ih (exponent - 10) next (by omega) (by omega)
      rw [hquotient] at hlower hupper
      refine ⟨power + 1, Nat.succ_le_succ hle, fun _ => by omega, fun hone => ?_, fun hmore => ?_,
        name, hname, ?_⟩
      · rcases (show power = 1 ∨ 1 < power by omega) with rfl | hgreater
        · exact not_lt.1 (mt hbelow.2 hlast)
        · have := hlower hgreater
          rw [le_div_iff₀ (by norm_num)] at this
          rwa [pow_succ]
      · have := hupper (by simpa using hmore)
        rw [div_lt_iff₀ (by norm_num)] at this
        rwa [pow_succ]
      · rw [hscale]
        congr 2
        push_cast
        ring

theorem tenths_isNearest (mantissa : Nat) (exponent : Int) :
    IsNearest (10 * (mantissa * 2 ^ exponent)) (tenths (.finite false mantissa exponent)) := by
  have hden : 0 < (Binary64.magnitude mantissa exponent).2 := Nat.pow_pos (by decide)
  have htenths : tenths (.finite false mantissa exponent) = roundHalfEven
      ((Binary64.magnitude mantissa exponent).1 * 10) (Binary64.magnitude mantissa exponent).2 :=
    rfl
  have hnearest := roundHalfEven_isNearest hden ((Binary64.magnitude mantissa exponent).1 * 10)
  rw [← htenths] at hnearest
  rwa [← Binary64.magnitude_ratio, ← mul_div_assoc, mul_comm (10 : ℚ), ← Nat.cast_ofNat,
    ← Nat.cast_mul]

end Scale

section Large

/-- The power of 1024 and the number of tenths of it that are displayed of a number. -/
structure IsDisplay (x : ℚ) (power t : Nat) : Prop where
  isPower : IsPower x power
  nearest : IsNearest (10 * (x / 1024 ^ power)) t

variable {x x' : ℚ} {power power' t t' : Nat}

theorem IsDisplay.ten_le (h : IsDisplay x power t) : 10 ≤ t := by
  apply IsNearest.mono (.natCast 10) h.nearest
  have : 1 ≤ x / 1024 ^ power := (one_le_div (by positivity)).2 h.isPower.lower
  push_cast
  linarith

theorem IsDisplay.le_of_lt (h : IsDisplay x power t) (hx : x < 1024 ^ (power + 1)) :
    t ≤ 10240 := by
  apply h.nearest.mono (.natCast 10240)
  have : x / 1024 ^ power < 1024 := by
    rwa [div_lt_iff₀ (by positivity), mul_comm, ← pow_succ]
  push_cast
  linarith

theorem IsPower.mono (h : IsPower x power) (h' : IsPower x' power') (hx : x ≤ x') :
    power ≤ power' := by
  by_contra hlt
  rw [not_le] at hlt
  have hupper := h'.upper (lt_of_lt_of_le hlt h.le_four)
  have hpow : (1024 : ℚ) ^ (power' + 1) ≤ 1024 ^ power :=
    pow_le_pow_right₀ (by norm_num) hlt
  exact absurd hx (not_le.2 (hupper.trans_le (hpow.trans h.lower)))

theorem IsPower.isGreatest {n : Nat} (h : IsPower n power) :
    IsGreatest {k | 1 ≤ k ∧ k ≤ 4 ∧ (1024 : Int) ^ k ≤ n} power := by
  refine ⟨⟨h.pos, h.le_four, by exact_mod_cast h.lower⟩, fun k hk => ?_⟩
  obtain ⟨-, hfour, hle⟩ := hk
  by_contra hlt
  rw [not_le] at hlt
  have hupper : (n : ℚ) < 1024 ^ k :=
    (h.upper (hlt.trans_le hfour)).trans_le (pow_le_pow_right₀ (by norm_num) hlt)
  exact absurd hle (not_le.2 (by exact_mod_cast hupper))

/-- What is displayed keeps the order. At the end of a unit it is at most the start of the next. -/
theorem IsDisplay.mono (h : IsDisplay x power t) (h' : IsDisplay x' power' t') (hx : x ≤ x') :
    (t / 10 * 1024 ^ power : ℚ) ≤ t' / 10 * 1024 ^ power' := by
  rcases (h.isPower.mono h'.isPower hx).eq_or_lt with rfl | hlt
  · have htenths : (t : ℚ) ≤ t' := by
      exact_mod_cast h.nearest.mono h'.nearest (by gcongr)
    gcongr
  · have hupper : (t : ℚ) ≤ 10240 := by
      exact_mod_cast h.le_of_lt (h.isPower.upper (hlt.trans_le h'.isPower.le_four))
    have hlower : (10 : ℚ) ≤ t' := by exact_mod_cast h'.ten_le
    calc (t / 10 * 1024 ^ power : ℚ) ≤ 10240 / 10 * 1024 ^ power := by gcongr
      _ = 1024 ^ (power + 1) := by ring
      _ ≤ 1024 ^ power' := pow_le_pow_right₀ (by norm_num) hlt
      _ = 10 / 10 * 1024 ^ power' := by ring
      _ ≤ t' / 10 * 1024 ^ power' := by gcongr

theorem IsDisplay.abs_sub_le (h : IsDisplay x power t) :
    |t / 10 * 1024 ^ power - x| ≤ 1024 ^ power / 20 := by
  have hdiff : (t / 10 * 1024 ^ power - x : ℚ) =
      -(10 * (x / 1024 ^ power) - t) * (1024 ^ power / 10) := by
    field_simp
    ring
  have hunit : (0 : ℚ) ≤ 1024 ^ power / 10 := by positivity
  calc |(t / 10 * 1024 ^ power - x : ℚ)|
      = |10 * (x / 1024 ^ power) - t| * (1024 ^ power / 10) := by
        rw [hdiff, abs_mul, abs_neg, abs_of_nonneg hunit]
    _ ≤ 1 / 2 * (1024 ^ power / 10) := mul_le_mul_of_nonneg_right h.nearest.close hunit
    _ = 1024 ^ power / 20 := by ring

theorem displays_normal {mantissa : Nat} {exponent : Int} (h : Binary64.IsNormal mantissa)
    (hlow : Binary64.minExponent + 40 ≤ exponent) (hhigh : exponent ≤ Binary64.maxExponent)
    (hlower : 1024 ≤ (mantissa * 2 ^ exponent : ℚ)) {n : Int} (hn : 1024 ≤ n)
    (hfloat : Binary64.ofInt n = .finite false mantissa exponent) :
    ∃ power t, IsDisplay (mantissa * 2 ^ exponent) power t ∧ Displays n (t / 10) power := by
  obtain ⟨power, hfour, hone, hpower, hnext, name, hname, hscale⟩ :=
    scale_normal h exponent "B" units hlow hhigh
  have hpos : 1 ≤ power := hone (List.cons_ne_nil _ _)
  have hisPower : IsPower (mantissa * 2 ^ exponent) power := by
    refine ⟨hpos, hfour, ?_, hnext⟩
    rcases hpos.eq_or_lt with rfl | hgreater
    · rwa [pow_one]
    · exact hpower hgreater
  have hquotient : (mantissa * 2 ^ (exponent - 10 * power) : ℚ) =
      mantissa * 2 ^ exponent / 1024 ^ power := by
    rw [zpow_sub₀ (by norm_num), zpow_mul, zpow_natCast, ← mul_div_assoc]
    norm_num
  have hnearest := tenths_isNearest mantissa (exponent - 10 * power)
  rw [hquotient] at hnearest
  have hshows := Shows.of_chars
    (.ofTenths (tenths (.finite false mantissa (exponent - 10 * power))))
    (blank_not_mem_chars rfl rfl) hname
  rw [DecimalText.chars_ofTenths, DecimalText.value_ofTenths] at hshows
  refine ⟨power, _, ⟨hisPower, hnearest⟩, _, ?_, hshows⟩
  rw [ofInt?, if_neg (not_lt.2 hn), hfloat]
  dsimp only
  rw [hscale]
  rfl

/-- A size from 1024 is first rounded to 53 bits. Unless that leaves the format, it has a text, in
which the power and the tenths of the rounded size are displayed. -/
theorem exists_display {n : Nat} (h : 1024 ≤ n) :
    ∃ x : ℚ, Binary64.IsRounded n x ∧ ((ofInt? n).isSome ↔ x < 2 ^ (1024 : Int)) ∧
      ((ofInt? n).isSome → ∃ power t, IsDisplay x power t ∧ Displays n (t / 10) power) := by
  have hpos : (0 : ℚ) < n := by exact_mod_cast Nat.lt_of_lt_of_le (by decide) h
  have hlog : 10 ≤ Int.log 2 (n : ℚ) := by
    apply (Int.zpow_le_iff_le_log (by decide) hpos).1
    exact_mod_cast h
  have hgrid : Binary64.grid n = Int.log 2 (n : ℚ) - 52 := by
    rw [Binary64.grid, Binary64.minExponent]
    omega
  have hwhole : Binary64.grid (n / (1 : Nat)) = Int.log 2 (n / (1 : Nat) : ℚ) - 52 := by
    rwa [Nat.cast_one, div_one]
  obtain ⟨mantissa, exponent, hnormal, hle, hrounded, hround⟩ :=
    Binary64.round_normal false (by omega) Nat.one_pos hwhole
  rw [Nat.cast_one, div_one] at hle hrounded
  have hfloat : Binary64.ofInt n = Binary64.round false n 1 := by
    rw [Binary64.ofInt, Binary64.ofRatio, decide_eq_false (by omega), Int.natAbs_natCast]
  rw [hround] at hfloat
  have hlower : (1024 : ℚ) ≤ mantissa * 2 ^ exponent := by
    have htwo : (2 : ℚ) ^ (10 : Int) = 1024 := by norm_num
    rw [← htwo]
    refine Binary64.IsRounded.mono (.two_zpow (by decide)) hrounded (by positivity) ?_
    rw [htwo]
    exact_mod_cast h
  rcases lt_or_ge Binary64.maxExponent exponent with hhigh | hhigh
  · rw [if_pos hhigh] at hfloat
    have hnone : ¬ (ofInt? n).isSome := by
      rw [ofInt?, if_neg (by omega), hfloat]
      exact Bool.false_ne_true
    have hlimit := mt (hnormal.lt_limit_iff exponent).1 (not_le.2 hhigh)
    exact ⟨_, hrounded, iff_of_false hnone hlimit, fun hsome => absurd hsome hnone⟩
  · rw [if_neg (not_lt.2 hhigh)] at hfloat
    have hlow : Binary64.minExponent + 40 ≤ exponent := by
      rw [Binary64.minExponent]
      omega
    obtain ⟨power, t, hisDisplay, hdisplays⟩ :=
      displays_normal hnormal hlow hhigh hlower (by exact_mod_cast h) hfloat
    have hlimit := (hnormal.lt_limit_iff exponent).2 hhigh
    exact ⟨_, hrounded, iff_of_true hdisplays.isSome hlimit,
      fun _ => ⟨power, t, hisDisplay, hdisplays⟩⟩

theorem isSome_ofInt? {n : Int} :
    (ofInt? n).isSome ↔ (n : ℚ) < 2 ^ (1024 : Int) - 2 ^ (970 : Int) := by
  rcases lt_or_ge n 1024 with hsmall | hlarge
  · have hlimit : ((2 : ℚ) ^ (10 : Int)) < 2 ^ (1024 : Int) - 2 ^ (970 : Int) := by
      apply (Binary64.IsRounded.lt_limit_iff (.two_zpow (by decide)) (by positivity)).1
      exact zpow_lt_zpow_right₀ (by norm_num) (by decide)
    have hn : (n : ℚ) < 2 ^ (10 : Int) := by exact_mod_cast hsmall
    exact iff_of_true (displays_small hsmall).isSome (hn.trans hlimit)
  · obtain ⟨n, rfl⟩ := Int.eq_ofNat_of_zero_le (le_trans (by decide) hlarge)
    have hn : 1024 ≤ n := by exact_mod_cast hlarge
    obtain ⟨x, hrounded, hlimit, -⟩ := exists_display hn
    rw [hlimit, Int.cast_natCast, hrounded.lt_limit_iff (by positivity)]

theorem Displays.isDisplay {n : Nat} {number : ℚ} (h : Displays n number power) (hn : 1024 ≤ n) :
    ∃ x t, Binary64.IsRounded n x ∧ IsDisplay x power t ∧ number = t / 10 := by
  obtain ⟨x, hrounded, -, hdisplay⟩ := exists_display hn
  obtain ⟨power', t, hisDisplay, hdisplays⟩ := hdisplay h.isSome
  obtain ⟨rfl, rfl⟩ := h.unique hdisplays
  exact ⟨x, t, hrounded, hisDisplay, rfl⟩

theorem exists_display_exact {n : Nat} (h : 1024 ≤ n) (hn : n < 2 ^ 53) :
    ∃ power t, IsDisplay n power t ∧ Displays n (t / 10) power := by
  obtain ⟨x, hrounded, hlimit, hdisplay⟩ := exists_display h
  obtain rfl := hrounded.eq_natCast (Nat.lt_of_lt_of_le (by decide) h) hn
  apply hdisplay
  rw [hlimit]
  calc (n : ℚ) < 2 ^ (53 : Int) := by exact_mod_cast hn
    _ ≤ 2 ^ (1024 : Int) := zpow_le_zpow_right₀ (by norm_num) (by decide)

end Large

section Order

variable {n m : Int} {number number' : ℚ} {power power' : Nat}

theorem exists_displays (h : (ofInt? n).isSome) : ∃ number power, Displays n number power := by
  rcases lt_or_ge n 1024 with hsmall | hlarge
  · exact ⟨n, 0, displays_small hsmall⟩
  · obtain ⟨n, rfl⟩ := Int.eq_ofNat_of_zero_le (le_trans (by decide) hlarge)
    obtain ⟨x, -, -, hdisplay⟩ := exists_display (by exact_mod_cast hlarge)
    obtain ⟨power, t, -, hdisplays⟩ := hdisplay h
    exact ⟨_, power, hdisplays⟩

theorem Displays.mono (h : Displays n number power) (h' : Displays m number' power') (hn : 0 ≤ n)
    (hle : n ≤ m) : number * 1024 ^ power ≤ number' * 1024 ^ power' := by
  obtain ⟨n, rfl⟩ := Int.eq_ofNat_of_zero_le hn
  obtain ⟨m, rfl⟩ := Int.eq_ofNat_of_zero_le (hn.trans hle)
  rw [Nat.cast_le] at hle
  rcases lt_or_ge m 1024 with hm | hm
  · obtain ⟨rfl, rfl⟩ := h.unique (displays_small (by omega))
    obtain ⟨rfl, rfl⟩ := h'.unique (displays_small (by omega))
    simpa using hle
  obtain ⟨x', t', hrounded', hisDisplay', rfl⟩ := h'.isDisplay hm
  rcases lt_or_ge n 1024 with hsmall | hlarge
  · obtain ⟨rfl, rfl⟩ := h.unique (displays_small (by omega))
    have hnumber : (1 : ℚ) ≤ t' / 10 := by
      rw [one_le_div (by norm_num)]
      exact_mod_cast hisDisplay'.ten_le
    have hpow : (1024 : ℚ) ^ 1 ≤ 1024 ^ power' :=
      pow_le_pow_right₀ (by norm_num) hisDisplay'.isPower.pos
    rw [pow_zero, mul_one, Int.cast_natCast]
    calc (n : ℚ) ≤ 1 * 1024 ^ 1 := by exact_mod_cast hsmall.le
      _ ≤ t' / 10 * 1024 ^ power' := mul_le_mul hnumber hpow (by positivity) (by positivity)
  · obtain ⟨x, t, hrounded, hisDisplay, rfl⟩ := h.isDisplay hlarge
    apply hisDisplay.mono hisDisplay'
    exact hrounded.mono hrounded' (by positivity) (by exact_mod_cast hle)

/-- Sizes are displayed accurately and in order. A size has a text unless it rounds to a number
outside the format. The text shows one number in one unit, and what they stand for is not greater
for a size that is not greater. Below 1024 the size itself is shown. Below 2 ^ 53 the unit is the
greatest that is not above the size, and what is shown is off by half a tenth of it at most. -/
theorem sizes_accurate_and_ordered :
    (∀ n : Int, (ofInt? n).isSome ↔ (n : ℚ) < 2 ^ (1024 : Int) - 2 ^ (970 : Int)) ∧
    (∀ n : Int, (ofInt? n).isSome → ∃! shown : ℚ × Nat, Displays n shown.1 shown.2) ∧
    (∀ (n m : Int) (number number' : ℚ) (power power' : Nat), 0 ≤ n → n ≤ m →
      Displays n number power → Displays m number' power' →
      number * 1024 ^ power ≤ number' * 1024 ^ power') ∧
    (∀ n : Int, n < 1024 → Displays n n 0) ∧
    ∀ n : Int, 1024 ≤ n → n < 2 ^ 53 → ∃ number power, Displays n number power ∧
      IsGreatest {k | 1 ≤ k ∧ k ≤ 4 ∧ 1024 ^ k ≤ n} power ∧
      |number * 1024 ^ power - n| ≤ 1024 ^ power / 20 := by
  refine ⟨fun n => isSome_ofInt?, fun n hsome => ?_,
    fun n m _ _ _ _ hn hle h h' => h.mono h' hn hle, fun n => displays_small,
    fun n hlarge hexact => ?_⟩
  · obtain ⟨number, power, h⟩ := exists_displays hsome
    exact ⟨(number, power), h, fun shown h' => Prod.ext_iff.2 (h'.unique h)⟩
  · obtain ⟨n, rfl⟩ := Int.eq_ofNat_of_zero_le (le_trans (by decide) hlarge)
    obtain ⟨power, t, hisDisplay, hdisplays⟩ :=
      exists_display_exact (by exact_mod_cast hlarge) (by exact_mod_cast hexact)
    exact ⟨_, power, hdisplays, hisDisplay.isPower.isGreatest, hisDisplay.abs_sub_le⟩

theorem kibibyte_shown_in_order :
    Displays 1023 1023 0 ∧ Displays 1047 1 1 ∧ (1023 * 1024 ^ 0 : ℚ) ≤ 1 * 1024 ^ 1 := by
  obtain ⟨-, -, hordered, hsmall, -⟩ := sizes_accurate_and_ordered
  have hbyte : Displays 1023 1023 0 := by exact_mod_cast hsmall 1023 (by decide)
  have hnumeral : (DecimalText.ofTenths 10).value = 1 := by
    rw [DecimalText.value_ofTenths]
    norm_num
  have hkibibyte : Displays 1047 1 1 :=
    ⟨"1.0 KiB", rfl, .ofTenths 10, "KiB", hnumeral, rfl, rfl⟩
  exact ⟨hbyte, hkibibyte,
    hordered 1023 1047 1023 1 0 1 (by decide) (by decide) hbyte hkibibyte⟩

end Order

section Range

theorem IsDisplay.end_le_iff {x : ℚ} {power t : Nat} (h : IsDisplay x power t) :
    10240 ≤ t ↔ (1024 ^ (power + 1) - 1024 ^ power / 20 : ℚ) ≤ x := by
  rw [h.nearest.le_iff_of_even (by decide), ← mul_div_assoc, le_div_iff₀ (by positivity), pow_succ]
  push_cast
  constructor <;> intro _ <;> linarith

/-- A size that is just below the end of a unit is just below the end of its own. -/
theorem IsPower.near_end_iff {n power : Nat} (h : IsPower n power)
    (hunit : (n : ℚ) < 1024 ^ (power + 1)) (hlast : (n : ℚ) < 1024 ^ 5 - 1024 ^ 4 / 20) :
    (1024 ^ (power + 1) - 1024 ^ power / 20 : ℚ) ≤ n ↔
      ∃ k, 1 ≤ k ∧ k ≤ 3 ∧ (1024 ^ (k + 1) - 1024 ^ k / 20 : ℚ) ≤ n ∧
        (n : Int) < 1024 ^ (k + 1) := by
  constructor
  · intro hend
    refine ⟨power, h.pos, ?_, hend, by exact_mod_cast hunit⟩
    by_contra hlt
    obtain rfl : power = 4 := Nat.le_antisymm h.le_four (not_le.1 hlt)
    exact absurd hlast (not_lt.2 hend)
  · rintro ⟨k, hpos, hthree, hend, hbelow⟩
    have hk : IsPower n k := by
      refine ⟨hpos, by omega, le_trans ?_ hend, fun _ => by exact_mod_cast hbelow⟩
      have : (0 : ℚ) < 1024 ^ k := by positivity
      rw [pow_succ]
      linarith
    rwa [(h.mono hk le_rfl).antisymm (hk.mono h le_rfl)]

/-- From 1024 to just below the end of the last unit, the shown number is from 1 to 1024. It is 1024
just for the sizes whose quotient is below the end of their unit by half a tenth at most. -/
theorem shown_number_range {n : Int} (h : 1024 ≤ n) (hlast : (n : ℚ) < 1024 ^ 5 - 1024 ^ 4 / 20) :
    ∃ number power, Displays n number power ∧ 1 ≤ number ∧ number ≤ 1024 ∧
      (number = 1024 ↔ ∃ k, 1 ≤ k ∧ k ≤ 3 ∧ (1024 ^ (k + 1) - 1024 ^ k / 20 : ℚ) ≤ n ∧
        n < 1024 ^ (k + 1)) := by
  obtain ⟨n, rfl⟩ := Int.eq_ofNat_of_zero_le (le_trans (by decide) h)
  rw [Int.cast_natCast] at hlast ⊢
  have hbits : n < 2 ^ 53 := by
    have : (n : ℚ) < (2 ^ 53 : Nat) := hlast.trans (by norm_num)
    exact_mod_cast this
  obtain ⟨power, t, hisDisplay, hdisplays⟩ := exists_display_exact (by exact_mod_cast h) hbits
  have hunit : (n : ℚ) < 1024 ^ (power + 1) := by
    rcases hisDisplay.isPower.le_four.eq_or_lt with rfl | hlt
    · exact hlast.trans (by norm_num)
    · exact hisDisplay.isPower.upper hlt
  have hle := hisDisplay.le_of_lt hunit
  have hnumber : (t / 10 : ℚ) = 1024 ↔ 10240 ≤ t := by
    rw [div_eq_iff (by norm_num)]
    constructor
    · intro heq
      exact_mod_cast (show (10240 : ℚ) ≤ t by linarith)
    · intro hge
      rw [Nat.le_antisymm hle hge]
      norm_num
  refine ⟨_, power, hdisplays, ?_, ?_, ?_⟩
  · rw [one_le_div (by norm_num)]
    exact_mod_cast hisDisplay.ten_le
  · rw [div_le_iff₀ (by norm_num)]
    exact_mod_cast hle
  · rw [hnumber, hisDisplay.end_le_iff]
    exact hisDisplay.isPower.near_end_iff hunit hlast

theorem below_mebibyte_end_in_range :
    (1024 : Int) ≤ 1048524 ∧ ((1048524 : Int) : ℚ) < 1024 ^ 5 - 1024 ^ 4 / 20 ∧
      ∃ number power, Displays 1048524 number power ∧ 1 ≤ number ∧ number < 1024 := by
  have hlast : ((1048524 : Int) : ℚ) < 1024 ^ 5 - 1024 ^ 4 / 20 := by norm_num
  obtain ⟨number, power, hdisplays, hone, hle, hend⟩ := shown_number_range (by decide) hlast
  refine ⟨by decide, hlast, number, power, hdisplays, hone, lt_of_le_of_ne hle ?_⟩
  rw [Ne, hend]
  rintro ⟨k, hpos, hthree, hlower, -⟩
  obtain rfl | rfl | rfl : k = 1 ∨ k = 2 ∨ k = 3 := by omega
  all_goals norm_num at hlower

/-- One octet below a mebibyte, 1024.0 KiB are shown. -/
theorem mebibyte_end_out_of_range :
    (1024 : Int) ≤ 1048575 ∧ ((1048575 : Int) : ℚ) < 1024 ^ 5 - 1024 ^ 4 / 20 ∧
      ofInt? 1048575 = some "1024.0 KiB" ∧
      ¬ ∃ number power, Displays 1048575 number power ∧ 1 ≤ number ∧ number < 1024 := by
  have hnumeral : (DecimalText.ofTenths 10240).value = 1024 := by
    rw [DecimalText.value_ofTenths]
    norm_num
  have hend : Displays 1048575 1024 1 :=
    ⟨"1024.0 KiB", rfl, .ofTenths 10240, "KiB", hnumeral, rfl, rfl⟩
  refine ⟨by decide, by norm_num, rfl, ?_⟩
  rintro ⟨number, power, hdisplays, -, hlt⟩
  obtain ⟨rfl, -⟩ := hdisplays.unique hend
  exact lt_irrefl _ hlt

end Range

end StorageLedger.SizeText
