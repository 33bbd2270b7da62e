import Mathlib.Algebra.Order.Ring.Rat
import Mathlib.Tactic.FieldSimp
import Mathlib.Tactic.Linarith
import Mathlib.Tactic.Positivity
import StorageLedger.Proofs.Digits
import StorageLedger.Proofs.Trimming
import StorageLedger.Validation.Integer

namespace StorageLedger.Text
open StorageLedger.Validation

/-- Digits as they are written: single underscores may stand between them. -/
inductive Grouped : (written digits : List Char) → Prop where
  | last (hd : isDigit d = true) : Grouped [d] [d]
  | digit (hd : isDigit d = true) (rest : Grouped cs ds) : Grouped (d :: cs) (d :: ds)
  | underscore (hd : isDigit d = true) (rest : Grouped cs ds) : Grouped (d :: '_' :: cs) (d :: ds)

inductive Sign where
  | unsigned
  | plus
  | minus
deriving DecidableEq, Repr

def Sign.chars : Sign → List Char
  | .unsigned => []
  | .plus => ['+']
  | .minus => ['-']

def Sign.negative (s : Sign) : Bool := s = .minus

def fractionChars : Option (List Char) → List Char
  | none => []
  | some ds => '.' :: ds

/-- A decimal numeral in a text. -/
structure DecimalText where
  lead : List Char
  sign : Sign
  whole : List Char
  /-- The digits in front of the fraction, without the underscores between them. -/
  digits : List Char
  /-- The digits behind the point, if there is one. -/
  fraction : Option (List Char)
  tail : List Char
  lead_blank : ∀ c ∈ lead, isWhite c = true
  whole_grouped : Grouped whole digits
  fraction_digits : ∀ ds ∈ fraction, ds ≠ [] ∧ ∀ d ∈ ds, isDigit d = true
  tail_blank : ∀ c ∈ tail, isWhite c = true

namespace DecimalText

def point (t : DecimalText) : List Char := fractionChars t.fraction

def core (t : DecimalText) : List Char := t.sign.chars ++ (t.whole ++ t.point)

def chars (t : DecimalText) : List Char := t.lead ++ (t.core ++ t.tail)

/-- The value of the fraction: that of its digits divided by the power of ten of their count. -/
def fractionValue (t : DecimalText) : ℚ :=
  digitsValue (t.fraction.getD []) / 10 ^ (t.fraction.getD []).length

def value (t : DecimalText) : ℚ :=
  if t.sign.negative then -(digitsValue t.digits + t.fractionValue)
  else digitsValue t.digits + t.fractionValue

end DecimalText

section Grouped

variable {cs ds : List Char}

theorem Grouped.isDigit_of_mem (h : Grouped cs ds) : ∀ d ∈ ds, isDigit d = true := by
  induction h with
  | last hd => exact List.forall_mem_singleton.2 hd
  | digit hd _ ih => exact List.forall_mem_cons.2 ⟨hd, ih⟩
  | underscore hd _ ih => exact List.forall_mem_cons.2 ⟨hd, ih⟩

theorem Grouped.digit_or_underscore (h : Grouped cs ds) :
    ∀ c ∈ cs, isDigit c = true ∨ c = '_' := by
  induction h with
  | last hd => exact List.forall_mem_singleton.2 (.inl hd)
  | digit hd _ ih => exact List.forall_mem_cons.2 ⟨.inl hd, ih⟩
  | underscore hd _ ih =>
    exact List.forall_mem_cons.2 ⟨.inl hd, List.forall_mem_cons.2 ⟨.inr rfl, ih⟩⟩

theorem Grouped.ne_point (h : Grouped cs ds) : ∀ c ∈ cs, c ≠ '.' := by
  rintro _ hc rfl
  rcases h.digit_or_underscore _ hc with hd | hd
  · cases hd
  · cases hd

theorem Grouped.exists_cons (h : Grouped cs ds) :
    ∃ d cs' ds', cs = d :: cs' ∧ ds = d :: ds' ∧ isDigit d = true := by
  cases h with
  | last hd => exact ⟨_, _, _, rfl, rfl, hd⟩
  | digit hd _ => exact ⟨_, _, _, rfl, rfl, hd⟩
  | underscore hd _ => exact ⟨_, _, _, rfl, rfl, hd⟩

theorem Grouped.of_digits (h : ∀ d ∈ ds, isDigit d = true) (hne : ds ≠ []) : Grouped ds ds := by
  induction ds with
  | nil => exact absurd rfl hne
  | cons d ds ih =>
    obtain ⟨hd, hds⟩ := List.forall_mem_cons.1 h
    cases ds with
    | nil => exact .last hd
    | cons d' ds => exact .digit hd (ih hds (List.cons_ne_nil _ _))

theorem ne_underscore_of_isDigit {d : Char} (h : isDigit d = true) : d ≠ '_' := by
  rintro rfl
  revert h
  decide

theorem Grouped.filter_eq (h : Grouped cs ds) : cs.filter (· ≠ '_') = ds := by
  induction h with
  | last hd => simp [ne_underscore_of_isDigit hd]
  | digit hd _ ih =>
    rw [List.filter_cons_of_pos (by simpa using ne_underscore_of_isDigit hd), ih]
  | underscore hd _ ih =>
    rw [List.filter_cons_of_pos (by simpa using ne_underscore_of_isDigit hd),
      List.filter_cons_of_neg (by decide), ih]

/-- What may be read next: digits, and if digits were read before also the end or an underscore in
front of digits. -/
def Continues (open_ : Bool) (cs ds : List Char) : Prop :=
  Grouped cs ds ∨ open_ = true ∧ (cs = [] ∧ ds = [] ∨ ∃ r, cs = '_' :: r ∧ Grouped r ds)

theorem grouped_cons_iff {d : Char} {ds' : List Char} :
    Grouped (d :: cs) ds' ↔ isDigit d = true ∧ ∃ ds, ds' = d :: ds ∧ Continues true cs ds := by
  constructor
  · intro h
    cases h with
    | last hd => exact ⟨hd, [], rfl, .inr ⟨rfl, .inl ⟨rfl, rfl⟩⟩⟩
    | digit hd rest => exact ⟨hd, _, rfl, .inl rest⟩
    | underscore hd rest => exact ⟨hd, _, rfl, .inr ⟨rfl, .inr ⟨_, rfl, rest⟩⟩⟩
  · rintro ⟨hd, ds, rfl, hrest | ⟨-, ⟨rfl, rfl⟩ | ⟨r, rfl, hrest⟩⟩⟩
    · exact .digit hd hrest
    · exact .last hd
    · exact .underscore hd hrest

theorem not_grouped_underscore : ¬ Grouped ('_' :: cs) ds := fun h =>
  ne_underscore_of_isDigit (grouped_cons_iff.1 h).1 rfl

theorem continues_cons_iff {open_ : Bool} {c : Char} {ds' : List Char} (hc : c ≠ '_') :
    Continues open_ (c :: cs) ds' ↔ Grouped (c :: cs) ds' := by
  refine or_iff_left ?_
  rintro ⟨-, ⟨h, -⟩ | ⟨r, h, -⟩⟩
  · exact List.cons_ne_nil _ _ h
  · exact hc (List.cons.inj h).1

theorem continues_underscore_iff {open_ : Bool} :
    Continues open_ ('_' :: cs) ds ↔ open_ = true ∧ Continues false cs ds := by
  constructor
  · rintro (h | ⟨hopen, ⟨h, -⟩ | ⟨r, h, hrest⟩⟩)
    · exact absurd h not_grouped_underscore
    · exact absurd h (List.cons_ne_nil _ _)
    · cases h
      exact ⟨hopen, .inl hrest⟩
  · rintro ⟨hopen, h | ⟨h, -⟩⟩
    · exact .inr ⟨hopen, .inr ⟨cs, rfl, h⟩⟩
    · cases h

/-- Digits are read to the value that they have behind those read before. -/
theorem readDigits_eq_some {value v : Nat} {open_ : Bool} :
    readDigits asciiDigit? 10 value open_ cs = some v ↔
      ∃ ds, Continues open_ cs ds ∧ v = value * 10 ^ ds.length + digitsValue ds := by
  induction cs generalizing value open_ with
  | nil =>
    cases open_ with
    | false =>
      refine iff_of_false (by simp [readDigits]) ?_
      rintro ⟨ds, h | ⟨h, -⟩, -⟩ <;> cases h
    | true =>
      constructor
      · rintro ⟨⟩
        exact ⟨[], .inr ⟨rfl, .inl ⟨rfl, rfl⟩⟩, by simp [digitsValue]⟩
      · rintro ⟨ds, h | ⟨-, ⟨-, rfl⟩ | ⟨r, h, -⟩⟩, rfl⟩
        · cases h
        · simp [readDigits, digitsValue]
        · cases h
  | cons c r ih =>
    by_cases hc : c = '_'
    · subst hc
      simp only [continues_underscore_iff, and_assoc, exists_and_left, ← ih]
      cases open_ <;> simp [readDigits]
    rw [readDigits, if_neg hc]
    simp only [continues_cons_iff hc, grouped_cons_iff]
    cases hd : isDigit c with
    | false =>
      rw [asciiDigit?_of_not_isDigit hd]
      simp
    | true =>
      have hvalue : c.toNat - 0x30 = digitValue c := by
        rw [digitValue, asciiDigit?_of_isDigit hd, Option.getD_some]
      simp only [asciiDigit?_of_isDigit hd, hvalue, if_pos (digitValue_lt c), ih, true_and]
      constructor
      · rintro ⟨ds, hrest, rfl⟩
        refine ⟨c :: ds, ⟨ds, rfl, hrest⟩, ?_⟩
        rw [digitsValue_cons, List.length_cons, Nat.pow_succ]
        ring
      · rintro ⟨_, ⟨ds, rfl, hrest⟩, rfl⟩
        refine ⟨ds, hrest, ?_⟩
        rw [digitsValue_cons, List.length_cons, Nat.pow_succ]
        ring

theorem readDigits_eq_some_iff_grouped {v : Nat} :
    readDigits asciiDigit? 10 0 false cs = some v ↔ ∃ ds, Grouped cs ds ∧ v = digitsValue ds := by
  simp [readDigits_eq_some, Continues]

end Grouped

section Signs

theorem Sign.not_white_of_mem_chars (s : Sign) : ∀ c ∈ s.chars, isWhite c = false := by
  cases s with
  | unsigned => exact List.forall_mem_nil _
  | plus => exact List.forall_mem_singleton.2 rfl
  | minus => exact List.forall_mem_singleton.2 rfl

theorem takeSign_chars_append (s : Sign) {c : Char} (hplus : c ≠ '+') (hminus : c ≠ '-')
    (r : List Char) : takeSign (s.chars ++ c :: r) = (s.negative, c :: r) := by
  cases s with
  | unsigned =>
    change takeSign (c :: r) = (false, c :: r)
    unfold takeSign
    split
    · next h => exact absurd (List.cons.inj h).1 hminus
    · next h => exact absurd (List.cons.inj h).1 hplus
    · rfl
  | plus => rfl
  | minus => rfl

theorem takeSign_append (s : Sign) {d : Char} (hd : isDigit d = true) (r : List Char) :
    takeSign (s.chars ++ d :: r) = (s.negative, d :: r) := by
  refine takeSign_chars_append s ?_ ?_ r
  · rintro rfl
    cases hd
  · rintro rfl
    cases hd

theorem exists_sign (cs : List Char) :
    ∃ s : Sign, cs = s.chars ++ (takeSign cs).2 ∧ (takeSign cs).1 = s.negative := by
  unfold takeSign
  split
  · exact ⟨.minus, rfl, rfl⟩
  · exact ⟨.plus, rfl, rfl⟩
  · exact ⟨.unsigned, rfl, rfl⟩

end Signs

/-- The number that digits with a fraction stand for, whichever underscores are among them. -/
def magnitude (cs : List Char) : ℚ :=
  let fraction := (cs.dropWhile (· ≠ '.')).tail
  digitsValue ((cs.takeWhile (· ≠ '.')).filter (· ≠ '_')) +
    digitsValue fraction / 10 ^ fraction.length

namespace DecimalText

variable (t : DecimalText)

theorem fractionValue_nonneg : 0 ≤ t.fractionValue := by
  unfold fractionValue
  positivity

theorem fractionValue_lt_one : t.fractionValue < 1 := by
  rw [fractionValue, div_lt_one (by positivity)]
  exact_mod_cast digitsValue_lt _

theorem isDigit_of_mem_fraction : ∀ d ∈ t.fraction.getD [], isDigit d = true := by
  cases hf : t.fraction with
  | none => exact List.forall_mem_nil _
  | some ds => exact (t.fraction_digits ds hf).2

theorem fractionValue_eq_zero :
    t.fractionValue = 0 ↔ ∀ d ∈ t.fraction.getD [], d = '0' := by
  rw [← digitsValue_eq_zero t.isDigit_of_mem_fraction, fractionValue, div_eq_zero_iff,
    or_iff_left (by positivity), Nat.cast_eq_zero]

/-- A numeral denotes an integer exactly if its fraction is zero: the fraction is less than one. -/
theorem value_eq_int_iff {n : Int} :
    t.value = n ↔ (∀ d ∈ t.fraction.getD [], d = '0') ∧
      n = signed t.sign.negative (digitsValue t.digits) := by
  rw [← fractionValue_eq_zero]
  have hnonneg := t.fractionValue_nonneg
  have hlt := t.fractionValue_lt_one
  have key (m : Int) : (digitsValue t.digits + t.fractionValue : ℚ) = m ↔
      t.fractionValue = 0 ∧ m = digitsValue t.digits := by
    constructor
    · intro h
      have hfloor : m = digitsValue t.digits := by
        have hlow : ((digitsValue t.digits : Int) : ℚ) ≤ m := by
          rw [← h]
          simpa using hnonneg
        have hhigh : (m : ℚ) < ((digitsValue t.digits + 1 : Int) : ℚ) := by
          rw [← h]
          simpa using hlt
        have hlow := Int.cast_le.1 hlow
        have hhigh := Int.cast_lt.1 hhigh
        omega
      refine ⟨?_, hfloor⟩
      rw [hfloor] at h
      simpa using h
    · rintro ⟨h, rfl⟩
      simp [h]
  rw [value]
  cases t.sign.negative with
  | false => simpa [signed] using key n
  | true =>
    rw [if_pos rfl, neg_eq_iff_eq_neg, ← Int.cast_neg, key, signed, if_pos rfl, Int.neg_eq_comm,
      eq_comm (a := n)]

theorem mem_body {c : Char} (h : c ∈ t.whole ++ t.point) :
    isDigit c = true ∨ c = '_' ∨ c = '.' := by
  rcases List.mem_append.1 h with hc | hc
  · exact (t.whole_grouped.digit_or_underscore c hc).imp_right .inl
  · cases hf : t.fraction with
    | none =>
      rw [point, hf] at hc
      cases hc
    | some ds =>
      rw [point, hf] at hc
      rcases List.mem_cons.1 hc with rfl | hc
      · exact .inr (.inr rfl)
      · exact .inl ((t.fraction_digits ds hf).2 c hc)

theorem not_white_of_mem_body : ∀ c ∈ t.whole ++ t.point, isWhite c = false := by
  intro c hc
  rcases t.mem_body hc with hd | rfl | rfl
  · obtain ⟨hlow, hhigh⟩ := isDigit_iff.1 hd
    simp only [isWhite, Bool.or_eq_false_iff, Bool.and_eq_false_iff, decide_eq_false_iff_not,
      beq_eq_false_iff_ne]
    omega
  · rfl
  · rfl

theorem not_white_of_mem_core : ∀ c ∈ t.core, isWhite c = false :=
  List.forall_mem_append.2 ⟨t.sign.not_white_of_mem_chars, t.not_white_of_mem_body⟩

theorem trim_chars : trim isWhite t.chars = t.core :=
  trim_append_append t.lead_blank t.not_white_of_mem_core t.tail_blank

theorem takeSign_core : takeSign t.core = (t.sign.negative, t.whole ++ t.point) := by
  obtain ⟨d, cs, ds, hwhole, -, hd⟩ := t.whole_grouped.exists_cons
  rw [core, hwhole, List.cons_append, takeSign_append t.sign hd]

theorem magnitude_padded {pad : List Char} (hpad : ∀ c ∈ pad, c = '0' ∨ c = '_') :
    magnitude (pad ++ (t.whole ++ t.point)) = digitsValue t.digits + t.fractionValue := by
  have hpos : ∀ c ∈ pad ++ t.whole, decide (c ≠ '.') = true := by
    intro c hc
    rw [decide_eq_true_eq]
    rcases List.mem_append.1 hc with hc | hc
    · rcases hpad c hc with rfl | rfl <;> decide
    · exact t.whole_grouped.ne_point c hc
  have hzeros : ∀ c ∈ pad.filter (· ≠ '_'), c = '0' := by
    intro c hc
    obtain ⟨hc, hne⟩ := List.mem_filter.1 hc
    exact (hpad c hc).resolve_right (of_decide_eq_true hne)
  have htake : t.point.takeWhile (fun c => decide (c ≠ '.')) = [] := by
    rw [point]
    cases t.fraction <;> rfl
  have hdrop : (t.point.dropWhile (fun c => decide (c ≠ '.'))).tail = t.fraction.getD [] := by
    rw [point]
    cases t.fraction <;> rfl
  rw [magnitude, ← List.append_assoc, List.takeWhile_append_of_pos hpos,
    List.dropWhile_append_of_pos hpos, htake, hdrop, List.append_nil, List.filter_append,
    t.whole_grouped.filter_eq, digitsValue_append_of_zeros hzeros, fractionValue]

theorem value_eq :
    t.value = if t.sign.negative then -magnitude (t.whole ++ t.point)
      else magnitude (t.whole ++ t.point) := by
  have hmagnitude := t.magnitude_padded (List.forall_mem_nil _)
  rw [List.nil_append] at hmagnitude
  rw [hmagnitude, value]

theorem value_unique {t' : DecimalText} (h : t.chars = t'.chars) : t.value = t'.value := by
  have hcore : t.core = t'.core := by rw [← trim_chars, h, trim_chars]
  have hparts := congrArg takeSign hcore
  rw [takeSign_core, takeSign_core, Prod.mk.injEq] at hparts
  rw [value_eq, value_eq, hparts.1, hparts.2]

def ofInt (n : Int) : DecimalText where
  lead := []
  sign := if n < 0 then .minus else .unsigned
  whole := decimalDigits n.natAbs
  digits := decimalDigits n.natAbs
  fraction := none
  tail := []
  lead_blank := List.forall_mem_nil _
  whole_grouped := .of_digits (fun _ => decimalDigits_isDigit) Nat.toDigits_ne_nil
  fraction_digits := fun _ h => by cases h
  tail_blank := List.forall_mem_nil _

theorem chars_ofInt (n : Int) : (ofInt n).chars = (toString n).toList := by
  cases n with
  | ofNat m =>
    change _ = (Nat.repr m).toList
    have hsign : ¬ (m : Int) < 0 := Int.not_lt.2 (Int.natCast_nonneg m)
    simp [chars, core, point, fractionChars, ofInt, hsign, Sign.chars, Nat.repr, decimalDigits]
  | negSucc m =>
    change _ = ("-" ++ Nat.repr (m + 1)).toList
    simp [chars, core, point, fractionChars, ofInt, Sign.chars, Nat.repr, decimalDigits]

theorem value_ofInt (n : Int) : (ofInt n).value = n := by
  rw [value_eq_int_iff]
  refine ⟨List.forall_mem_nil _, ?_⟩
  change n = signed (Sign.negative (if n < 0 then .minus else .unsigned))
    (digitsValue (decimalDigits n.natAbs))
  rw [digitsValue_decimalDigits]
  split
  · change n = -(n.natAbs : Int)
    omega
  · change n = (n.natAbs : Int)
    omega

def ofTenths (n : Nat) : DecimalText where
  lead := []
  sign := .unsigned
  whole := decimalDigits (n / 10)
  digits := decimalDigits (n / 10)
  fraction := some (decimalDigits (n % 10))
  tail := []
  lead_blank := List.forall_mem_nil _
  whole_grouped := .of_digits (fun _ => decimalDigits_isDigit) Nat.toDigits_ne_nil
  fraction_digits := by
    rintro _ ⟨⟩
    exact ⟨Nat.toDigits_ne_nil, fun _ => decimalDigits_isDigit⟩
  tail_blank := List.forall_mem_nil _

theorem chars_ofTenths (n : Nat) :
    (ofTenths n).chars = decimalDigits (n / 10) ++ '.' :: decimalDigits (n % 10) := by
  simp [chars, core, point, fractionChars, ofTenths, Sign.chars]

theorem value_ofTenths (n : Nat) : (ofTenths n).value = n / 10 := by
  have hone : ∀ d < 10, (decimalDigits d).length = 1 := by decide
  have hdigit := hone (n % 10) (Nat.mod_lt n (by decide))
  have hsplit : (n : ℚ) = 10 * (n / 10 : Nat) + (n % 10 : Nat) := by
    exact_mod_cast (Nat.div_add_mod n 10).symm
  change ((digitsValue (decimalDigits (n / 10)) : ℚ) +
    digitsValue (decimalDigits (n % 10)) / 10 ^ (decimalDigits (n % 10)).length) = n / 10
  rw [digitsValue_decimalDigits, digitsValue_decimalDigits, hdigit, hsplit]
  ring

end DecimalText

end StorageLedger.Text
