import Mathlib.Algebra.Order.Group.Nat
import Mathlib.Data.Nat.Digits.Defs
import StorageLedger.Text.Digit

namespace StorageLedger.Text

theorem isDigit_iff {c : Char} : isDigit c = true ↔ 0x30 ≤ c.toNat ∧ c.toNat ≤ 0x39 := by
  unfold isDigit asciiDigit?
  split
  · next h => simp [h]
  · next h => simp [h]

theorem asciiDigit?_of_isDigit {c : Char} (h : isDigit c = true) :
    asciiDigit? c = some (c.toNat - 0x30) := if_pos (isDigit_iff.1 h)

theorem asciiDigit?_of_not_isDigit {c : Char} (h : isDigit c = false) : asciiDigit? c = none :=
  Option.not_isSome_iff_eq_none.1 (Bool.not_eq_true _ ▸ h)

def digitValue (c : Char) : Nat := (asciiDigit? c).getD 0

theorem digitValue_lt (c : Char) : digitValue c < 10 := by
  unfold digitValue asciiDigit?
  split
  · simp only [Option.getD_some]
    omega
  · simp

theorem digitValue_eq_zero {c : Char} (h : isDigit c = true) : digitValue c = 0 ↔ c = '0' := by
  obtain ⟨hlow, _⟩ := isDigit_iff.1 h
  rw [digitValue, asciiDigit?_of_isDigit h, Option.getD_some]
  constructor
  · intro hc
    rw [← Char.ofNat_toNat c, show c.toNat = 0x30 by omega]
  · rintro rfl
    rfl

theorem foldl_digits (value : Nat) (ds : List Char) :
    ds.foldl (fun value c => value * 10 + (asciiDigit? c).getD 0) value =
      value * 10 ^ ds.length + digitsValue ds := by
  induction ds generalizing value with
  | nil => simp [digitsValue]
  | cons d ds ih =>
    rw [digitsValue, List.foldl_cons, List.foldl_cons, ih, ih, List.length_cons, Nat.pow_succ]
    ring

theorem digitsValue_cons (d : Char) (ds : List Char) :
    digitsValue (d :: ds) = digitValue d * 10 ^ ds.length + digitsValue ds := by
  rw [digitsValue, List.foldl_cons, foldl_digits, Nat.zero_mul, Nat.zero_add]
  rfl

theorem digitsValue_lt (ds : List Char) : digitsValue ds < 10 ^ ds.length := by
  induction ds with
  | nil => exact Nat.one_pos
  | cons d ds ih =>
    rw [digitsValue_cons, List.length_cons, Nat.pow_succ]
    have hd := digitValue_lt d
    nlinarith

theorem digitsValue_eq_zero {ds : List Char} (h : ∀ d ∈ ds, isDigit d = true) :
    digitsValue ds = 0 ↔ ∀ d ∈ ds, d = '0' := by
  induction ds with
  | nil => exact ⟨fun _ _ hd => absurd hd List.not_mem_nil, fun _ => rfl⟩
  | cons d ds ih =>
    obtain ⟨hd, hds⟩ := List.forall_mem_cons.1 h
    rw [digitsValue_cons, List.forall_mem_cons, Nat.add_eq_zero_iff, Nat.mul_eq_zero, ih hds,
      digitValue_eq_zero hd, or_iff_left (Nat.pow_pos (by decide)).ne']

theorem pow_le_digitsValue {d : Char} (hd : isDigit d = true) (hne : d ≠ '0') (ds : List Char) :
    10 ^ ds.length ≤ digitsValue (d :: ds) := by
  have hpos : 1 ≤ digitValue d := Nat.one_le_iff_ne_zero.2 (mt (digitValue_eq_zero hd).1 hne)
  rw [digitsValue_cons]
  calc 10 ^ ds.length = 1 * 10 ^ ds.length := (Nat.one_mul _).symm
    _ ≤ digitValue d * 10 ^ ds.length := Nat.mul_le_mul_right _ hpos
    _ ≤ _ := Nat.le_add_right _ _

theorem digitsValue_dropWhile_zero (ds : List Char) :
    digitsValue (ds.dropWhile (· = '0')) = digitsValue ds := by
  induction ds with
  | nil => rfl
  | cons d ds ih =>
    by_cases hd : d = '0'
    · subst hd
      rw [List.dropWhile_cons_of_pos (by decide), ih, digitsValue_cons]
      simp [digitValue, asciiDigit?]
    · rw [List.dropWhile_cons_of_neg (by simpa using hd)]

/-- A number with few digits is small, so a small number has few digits once zeros are left out. -/
theorem length_dropWhile_zero_le {ds : List Char} (h : ∀ d ∈ ds, isDigit d = true) {k : Nat}
    (hk : digitsValue ds < 10 ^ k) : (ds.dropWhile (· = '0')).length ≤ k := by
  cases hrest : ds.dropWhile (· = '0') with
  | nil => exact Nat.zero_le _
  | cons d rest =>
    have hmem : d ∈ ds := (List.dropWhile_sublist _).subset (hrest ▸ List.mem_cons_self)
    have hne : d ≠ '0' := by
      have hhead := List.head?_dropWhile_not (fun c : Char => decide (c = '0')) ds
      rw [hrest] at hhead
      simpa using hhead
    have hle := pow_le_digitsValue (h d hmem) hne rest
    rw [← hrest, digitsValue_dropWhile_zero] at hle
    exact (Nat.pow_lt_pow_iff_right (by decide)).1 (Nat.lt_of_le_of_lt hle hk)

theorem decimalDigits_isDigit {n : Nat} {c : Char} (h : c ∈ decimalDigits n) :
    isDigit c = true := by
  have hdigit := Nat.isDigit_of_mem_toDigits (by decide) (by decide) h
  simp only [Char.isDigit, Bool.and_eq_true, decide_eq_true_eq, UInt32.le_iff_toNat_le] at hdigit
  exact isDigit_iff.2 hdigit

theorem digitsValue_eq_ofDigitChars {ds : List Char} (h : ∀ d ∈ ds, isDigit d = true) :
    digitsValue ds = Nat.ofDigitChars 10 ds 0 := by
  induction ds with
  | nil => rfl
  | cons d ds ih =>
    obtain ⟨hd, hds⟩ := List.forall_mem_cons.1 h
    have hdigit : digitValue d = d.toNat - '0'.toNat := by
      rw [digitValue, asciiDigit?_of_isDigit hd]
      rfl
    have hrest := @Nat.ofDigitChars_eq_ofDigitChars_zero ds (digitValue d)
    rw [digitsValue_cons, ih hds, Nat.ofDigitChars_cons, Nat.mul_zero, Nat.zero_add, ← hdigit,
      hrest, Nat.mul_comm]

theorem digitsValue_decimalDigits (n : Nat) : digitsValue (decimalDigits n) = n := by
  rw [digitsValue_eq_ofDigitChars fun _ => decimalDigits_isDigit]
  exact Nat.ofDigitChars_ten_toDigits

theorem length_paddedDigits {width n : Nat} (hpos : 0 < width) (h : n < 10 ^ width) :
    (paddedDigits width n).length = width := by
  have hle : (decimalDigits n).length ≤ width := Nat.toDigits_length 10 n width hpos h
  rw [paddedDigits, List.length_append, List.length_replicate]
  omega

theorem isDigit_of_mem_paddedDigits {width n : Nat} {c : Char} (h : c ∈ paddedDigits width n) :
    isDigit c = true := by
  rcases List.mem_append.1 h with h | h
  · rw [List.eq_of_mem_replicate h]
    rfl
  · exact decimalDigits_isDigit h

theorem digitsValue_append_of_zeros {zeros : List Char} (h : ∀ c ∈ zeros, c = '0')
    (ds : List Char) : digitsValue (zeros ++ ds) = digitsValue ds := by
  rw [← digitsValue_dropWhile_zero,
    List.dropWhile_append_of_pos fun c hc => decide_eq_true (h c hc),
    digitsValue_dropWhile_zero]

theorem digits?_paddedDigits (width n : Nat) : digits? (paddedDigits width n) = some n := by
  have hall : (paddedDigits width n).all isDigit = true :=
    List.all_eq_true.2 fun _ => isDigit_of_mem_paddedDigits
  rw [digits?, if_pos hall, paddedDigits,
    digitsValue_append_of_zeros fun _ => List.eq_of_mem_replicate, digitsValue_decimalDigits]

theorem exists_pair_paddedDigits {n : Nat} (h : n < 100) :
    ∃ a b, paddedDigits 2 n = [a, b] ∧ digits? [a, b] = some n := by
  have hlength := length_paddedDigits (show 0 < 2 by decide) h
  match hds : paddedDigits 2 n, hlength with
  | [a, b], _ => exact ⟨a, b, rfl, hds ▸ digits?_paddedDigits 2 n⟩

theorem exists_four_paddedDigits {n : Nat} (h : n < 10000) :
    ∃ a b c d, paddedDigits 4 n = [a, b, c, d] ∧ digits? [a, b, c, d] = some n := by
  have hlength := length_paddedDigits (show 0 < 4 by decide) h
  match hds : paddedDigits 4 n, hlength with
  | [a, b, c, d], _ => exact ⟨a, b, c, d, rfl, hds ▸ digits?_paddedDigits 4 n⟩

end StorageLedger.Text
