import Mathlib.Data.Nat.Digits.Lemmas
import StorageLedger.Proofs.DecimalText

namespace StorageLedger.Text

/-- The value of a digit in base sixteen: a decimal digit of any script, or an ASCII letter. -/
def hexValue? (c : Char) : Option Nat := (decimalDigit? c).or (hexDigit? c)

/-- Digits as they are written, with their values: single underscores may stand between them. -/
inductive HexRun : (written : List Char) → (digits : List Nat) → Prop where
  | last (hd : hexValue? c = some d) : HexRun [c] [d]
  | digit (hd : hexValue? c = some d) (rest : HexRun cs ds) : HexRun (c :: cs) (d :: ds)
  | underscore (hd : hexValue? c = some d) (rest : HexRun cs ds) :
    HexRun (c :: '_' :: cs) (d :: ds)

/-- What may stand in front of the digits: nothing, or a zero with the letter `x` in either case,
which an underscore may follow. -/
inductive HexMark : List Char → Prop where
  | none : HexMark []
  | plain (hz : decimalDigit? z = some 0) (hx : x = 'x' ∨ x = 'X') : HexMark [z, x]
  | underscore (hz : decimalDigit? z = some 0) (hx : x = 'x' ∨ x = 'X') : HexMark [z, x, '_']

/-- A hexadecimal numeral in a text. -/
structure HexText where
  lead : List Char
  sign : Sign
  mark : List Char
  body : List Char
  /-- The values of the digits, without the underscores between them. -/
  digits : List Nat
  tail : List Char
  lead_white : ∀ c ∈ lead, isWhite c = true
  mark_form : HexMark mark
  body_run : HexRun body digits
  tail_white : ∀ c ∈ tail, isWhite c = true

namespace HexText

def core (t : HexText) : List Char := t.sign.chars ++ (t.mark ++ t.body)

def chars (t : HexText) : List Char := t.lead ++ (t.core ++ t.tail)

def value (t : HexText) : Int := signed t.sign.negative (Nat.ofDigits 16 t.digits.reverse)

end HexText

section Characters

variable {c k : Char} {d : Nat}

def plainDigit (c : Char) : Char :=
  match decimalDigit? c with
  | some d => Char.ofNat (0x30 + d)
  | none => c

theorem decimalDigit?_lt (h : decimalDigit? c = some d) : d < 10 := by
  obtain ⟨z, hz, rfl⟩ := Option.map_eq_some_iff.1 h
  have hrun := List.find?_some hz
  simp only [Bool.and_eq_true, decide_eq_true_eq] at hrun
  omega

theorem plainDigit_of_digit (h : decimalDigit? c = some d) :
    plainDigit c = Char.ofNat (0x30 + d) := by
  rw [plainDigit, h]

theorem plainDigit_of_none (h : decimalDigit? c = none) : plainDigit c = c := by
  rw [plainDigit, h]

theorem asciiDigit?_ofNat (h : d < 10) : asciiDigit? (Char.ofNat (0x30 + d)) = some d := by
  have hall : ∀ e ∈ List.range 10, asciiDigit? (Char.ofNat (0x30 + e)) = some e := by decide
  exact hall d (List.mem_range.mpr h)

theorem decimalDigit?_plainDigit (c : Char) : decimalDigit? (plainDigit c) = decimalDigit? c := by
  cases h : decimalDigit? c with
  | none => rw [plainDigit_of_none h, h]
  | some d =>
    rw [plainDigit_of_digit h,
      decimalDigit?_of_asciiDigit? (asciiDigit?_ofNat (decimalDigit?_lt h))]

theorem plainDigit_eq_iff (hk : decimalDigit? k = none) : plainDigit c = k ↔ c = k := by
  constructor
  · intro h
    have hnone : decimalDigit? c = none := by rw [← decimalDigit?_plainDigit, h, hk]
    rwa [plainDigit_of_none hnone] at h
  · rintro rfl
    exact plainDigit_of_none hk

theorem plainDigit_eq_zero : plainDigit c = '0' ↔ decimalDigit? c = some 0 := by
  constructor
  · intro h
    rw [← decimalDigit?_plainDigit, h]
    decide
  · exact plainDigit_of_digit

theorem hexDigit?_of_asciiDigit? (h : asciiDigit? c = some d) : hexDigit? c = some d := by
  unfold asciiDigit? at h
  split at h
  · next hc => rw [hexDigit?, if_pos hc, h]
  · cases h

theorem hexDigit?_plainDigit (c : Char) : hexDigit? (plainDigit c) = hexValue? c := by
  cases h : decimalDigit? c with
  | none => rw [plainDigit_of_none h, hexValue?, h, Option.none_or]
  | some d =>
    rw [plainDigit_of_digit h, hexValue?, h, Option.some_or,
      hexDigit?_of_asciiDigit? (asciiDigit?_ofNat (decimalDigit?_lt h))]

theorem hexValue?_lt (h : hexValue? c = some d) : d < 16 := by
  rcases Option.or_eq_some_iff.1 h with h | ⟨-, h⟩
  · exact (decimalDigit?_lt h).trans (by decide)
  · unfold hexDigit? at h
    split_ifs at h <;> cases h <;> omega

theorem hexValue?_of_hexDigit? (h : hexDigit? c = some d) : hexValue? c = some d := by
  have hkept : plainDigit c = c := by
    cases hc : decimalDigit? c with
    | none => exact plainDigit_of_none hc
    | some e =>
      -- The zeros of the other scripts are not among the ASCII characters.
      obtain ⟨z, hz, rfl⟩ := Option.map_eq_some_iff.1 hc
      have hrun := List.find?_some hz
      have hfar : ∀ z ∈ digitZeros, z = 0x30 ∨ 0x80 ≤ z := by decide
      have hzero := hfar z (List.mem_of_find?_eq_some hz)
      have hascii : c.toNat < 0x80 := by
        unfold hexDigit? at h
        split_ifs at h <;> omega
      simp only [Bool.and_eq_true, decide_eq_true_eq] at hrun
      rw [plainDigit_of_digit hc, show 0x30 + (c.toNat - z) = c.toNat by omega, Char.ofNat_toNat]
  rw [← hexDigit?_plainDigit, hkept, h]

theorem hexValue?_of_white (h : isWhite c = true) : hexValue? c = none := by
  have hnone : ∀ n ∈ [0x09, 0x0A, 0x0B, 0x0C, 0x0D, 0x20, 0x85, 0xA0, 0x1680, 0x2000, 0x2001,
      0x2002, 0x2003, 0x2004, 0x2005, 0x2006, 0x2007, 0x2008, 0x2009, 0x200A, 0x2028, 0x2029,
      0x202F, 0x205F, 0x3000], hexValue? (Char.ofNat n) = none := by decide
  rw [← Char.ofNat_toNat c]
  apply hnone
  simp only [isWhite, Bool.or_eq_true, Bool.and_eq_true, decide_eq_true_eq, beq_iff_eq] at h
  simp only [List.mem_cons, List.not_mem_nil, or_false]
  omega

end Characters

section Reading

variable {digit? digit'? : Char → Option Nat} {base value v : Nat} {open_ : Bool}
  {cs left : List Char} {ds : List Nat} {c : Char} {d : Nat}

/-- Digits are read as their images under a map that keeps the values and the underscores. -/
theorem readDigits_map {f : Char → Char} (h : ∀ c ∈ cs, digit? (f c) = digit'? c)
    (hmark : ∀ c ∈ cs, f c = '_' ↔ c = '_') :
    readDigits digit? base value open_ (cs.map f) = readDigits digit'? base value open_ cs := by
  induction cs generalizing value open_ with
  | nil => cases open_ <;> rfl
  | cons c cs ih =>
    obtain ⟨hc, h⟩ := List.forall_mem_cons.1 h
    obtain ⟨hcmark, hmark⟩ := List.forall_mem_cons.1 hmark
    simp only [List.map_cons, readDigits, hc, hcmark, ih h hmark]

theorem readDigits_plainDigits (cs : List Char) :
    readDigits hexDigit? 16 value open_ (plainDigits cs) =
      readDigits hexValue? 16 value open_ cs :=
  readDigits_map (fun c _ => hexDigit?_plainDigit c) fun _ _ => plainDigit_eq_iff (by decide)

theorem readDigits_cons (hd : hexValue? c = some d) (cs : List Char) :
    readDigits hexValue? 16 value open_ (c :: cs) =
      readDigits hexValue? 16 (value * 16 + d) true cs := by
  have hc : c ≠ '_' := by
    rintro rfl
    cases hd
  cases open_ <;> rw [readDigits, if_neg hc, hd] <;> exact if_pos (hexValue?_lt hd)

theorem HexRun.exists_cons (h : HexRun cs ds) :
    ∃ c cs' d, cs = c :: cs' ∧ hexValue? c = some d := by
  cases h with
  | last hd => exact ⟨_, _, _, rfl, hd⟩
  | digit hd _ => exact ⟨_, _, _, rfl, hd⟩
  | underscore hd _ => exact ⟨_, _, _, rfl, hd⟩

theorem HexRun.digit_or_underscore (h : HexRun cs ds) :
    ∀ c ∈ cs, hexValue? c ≠ none ∨ c = '_' := by
  induction h with
  | last hd => exact List.forall_mem_singleton.2 (.inl (by simp [hd]))
  | digit hd _ ih => exact List.forall_mem_cons.2 ⟨.inl (by simp [hd]), ih⟩
  | underscore hd _ ih =>
    exact List.forall_mem_cons.2 ⟨.inl (by simp [hd]), List.forall_mem_cons.2 ⟨.inr rfl, ih⟩⟩

theorem HexRun.lt (h : HexRun cs ds) : ∀ d ∈ ds, d < 16 := by
  induction h with
  | last hd => exact List.forall_mem_singleton.2 (hexValue?_lt hd)
  | digit hd _ ih => exact List.forall_mem_cons.2 ⟨hexValue?_lt hd, ih⟩
  | underscore hd _ ih => exact List.forall_mem_cons.2 ⟨hexValue?_lt hd, ih⟩

theorem HexRun.length_le (h : HexRun cs ds) : ds.length ≤ cs.length := by
  induction h with
  | last hd => exact Nat.le_refl _
  | digit hd _ ih => exact Nat.succ_le_succ ih
  | underscore hd _ ih => exact (Nat.succ_le_succ ih).trans (Nat.le_succ _)

theorem ofDigits_reverse_cons (d : Nat) (ds : List Nat) :
    value * 16 ^ (d :: ds).length + Nat.ofDigits 16 (d :: ds).reverse =
      (value * 16 + d) * 16 ^ ds.length + Nat.ofDigits 16 ds.reverse := by
  rw [List.reverse_cons, Nat.ofDigits_append, Nat.ofDigits_singleton, List.length_reverse,
    List.length_cons, Nat.pow_succ]
  ring

theorem HexRun.read (h : HexRun cs ds) : readDigits hexValue? 16 value open_ cs =
    some (value * 16 ^ ds.length + Nat.ofDigits 16 ds.reverse) := by
  induction h generalizing value open_ with
  | last hd => rw [readDigits_cons hd, ofDigits_reverse_cons]; simp [readDigits]
  | digit hd _ ih => rw [readDigits_cons hd, ih, ofDigits_reverse_cons]
  | underscore hd _ ih =>
    rw [readDigits_cons hd, readDigits, if_pos rfl, if_pos rfl, ih, ofDigits_reverse_cons]

/-- Whatever is read is a run of digits, or, behind a digit, the end or an underscore in front of
a run. -/
theorem exists_hexRun_or (h : readDigits hexValue? 16 value open_ cs = some v) :
    (∃ ds, HexRun cs ds) ∨
      open_ = true ∧ (cs = [] ∨ ∃ rest ds, cs = '_' :: rest ∧ HexRun rest ds) := by
  induction cs generalizing value open_ with
  | nil =>
    cases open_ with
    | false => cases h
    | true => exact .inr ⟨rfl, .inl rfl⟩
  | cons c cs ih =>
    by_cases hc : c = '_'
    · subst hc
      cases open_ with
      | false => simp [readDigits] at h
      | true =>
        rw [readDigits, if_pos rfl, if_pos rfl] at h
        rcases ih h with ⟨ds, hds⟩ | ⟨hopen, -⟩
        · exact .inr ⟨rfl, .inr ⟨cs, ds, rfl, hds⟩⟩
        · cases hopen
    · cases hd : hexValue? c with
      | none => simp [readDigits, hc, hd] at h
      | some d =>
        rw [readDigits_cons hd] at h
        left
        rcases ih h with ⟨ds, hds⟩ | ⟨-, rfl | ⟨rest, ds, rfl, hds⟩⟩
        · exact ⟨d :: ds, .digit hd hds⟩
        · exact ⟨[d], .last hd⟩
        · exact ⟨d :: ds, .underscore hd hds⟩

theorem exists_hexRun (h : readDigits hexValue? 16 value false cs = some v) :
    ∃ ds, HexRun cs ds :=
  (exists_hexRun_or h).resolve_right fun hopen => Bool.false_ne_true hopen.1

end Reading

section Mark

variable {cs body : List Char} {ds : List Nat}

theorem dropHexMark_eq_self (h : ∀ c ∈ cs.tail.head?, c ≠ 'x' ∧ c ≠ 'X') : dropHexMark cs = cs := by
  unfold dropHexMark
  split
  · exact absurd rfl (h 'x' rfl).1
  · exact absurd rfl (h 'X' rfl).2
  · exact absurd rfl (h 'x' rfl).1
  · exact absurd rfl (h 'X' rfl).2
  · rfl

theorem dropHexMark_plain {x c : Char} (hx : x = 'x' ∨ x = 'X') (hc : c ≠ '_') (r : List Char) :
    dropHexMark ('0' :: x :: c :: r) = c :: r := by
  unfold dropHexMark
  rcases hx with rfl | rfl
  · split <;> simp_all
  · split <;> simp_all

theorem plainDigits_cons (c : Char) (cs : List Char) :
    plainDigits (c :: cs) = plainDigit c :: plainDigits cs := rfl

theorem HexMark.drop {mark : List Char} (h : HexMark mark) (hbody : HexRun body ds) :
    dropHexMark (plainDigits (mark ++ body)) = plainDigits body := by
  obtain ⟨c, cs, d, rfl, hd⟩ := hbody.exists_cons
  have hc : plainDigit c ≠ '_' := by
    rw [Ne, plainDigit_eq_iff (by decide)]
    rintro rfl
    cases hd
  have hx {x : Char} (hx : x = 'x' ∨ x = 'X') : plainDigit x = x := by
    rcases hx with rfl | rfl <;> exact (plainDigit_eq_iff (by decide)).2 rfl
  cases h with
  | none =>
    apply dropHexMark_eq_self
    cases cs with
    | nil => exact fun _ h => by cases h
    | cons c' cs =>
      rintro _ ⟨⟩
      have hc' := hbody.digit_or_underscore c' (by simp)
      exact ⟨mt (plainDigit_eq_iff (by decide)).1 (by rintro rfl; revert hc'; decide),
        mt (plainDigit_eq_iff (by decide)).1 (by rintro rfl; revert hc'; decide)⟩
  | plain hz hx' =>
    simp only [List.cons_append, List.nil_append, plainDigits_cons, plainDigit_eq_zero.2 hz, hx hx']
    exact dropHexMark_plain hx' hc _
  | underscore hz hx' =>
    simp only [List.cons_append, List.nil_append, plainDigits_cons, plainDigit_eq_zero.2 hz, hx hx']
    rcases hx' with rfl | rfl <;> rfl

theorem plainDigits_eq_cons {c : Char} {r : List Char} (h : plainDigits cs = c :: r)
    (hc : decimalDigit? c = none) : ∃ r', cs = c :: r' ∧ plainDigits r' = r := by
  obtain ⟨a, r', rfl, ha, hr⟩ := List.map_eq_cons_iff.1 h
  obtain rfl := (plainDigit_eq_iff hc).1 ha
  exact ⟨r', rfl, hr⟩

theorem exists_hexMark (cs : List Char) : ∃ mark body, HexMark mark ∧ mark ++ body = cs ∧
    dropHexMark (plainDigits cs) = plainDigits body := by
  have hstart {x : Char} {r : List Char} (h : plainDigits cs = '0' :: x :: r)
      (hx : decimalDigit? x = none) :
      ∃ z body, decimalDigit? z = some 0 ∧ z :: x :: body = cs ∧ plainDigits body = r := by
    obtain ⟨z, cs', rfl, hz, hr⟩ := List.map_eq_cons_iff.1 h
    obtain ⟨body, rfl, hbody⟩ := plainDigits_eq_cons hr hx
    exact ⟨z, body, plainDigit_eq_zero.1 hz, rfl, hbody⟩
  generalize hcs : plainDigits cs = plain
  unfold dropHexMark
  split
  · obtain ⟨z, body, hz, rfl, hbody⟩ := hstart hcs (by decide)
    obtain ⟨body, rfl, hrest⟩ := plainDigits_eq_cons hbody (by decide)
    exact ⟨_, body, .underscore hz (.inl rfl), rfl, hrest.symm⟩
  · obtain ⟨z, body, hz, rfl, hbody⟩ := hstart hcs (by decide)
    obtain ⟨body, rfl, hrest⟩ := plainDigits_eq_cons hbody (by decide)
    exact ⟨_, body, .underscore hz (.inr rfl), rfl, hrest.symm⟩
  · obtain ⟨z, body, hz, rfl, hbody⟩ := hstart hcs (by decide)
    exact ⟨_, body, .plain hz (.inl rfl), rfl, hbody.symm⟩
  · obtain ⟨z, body, hz, rfl, hbody⟩ := hstart hcs (by decide)
    exact ⟨_, body, .plain hz (.inr rfl), rfl, hbody.symm⟩
  · exact ⟨[], cs, .none, rfl, hcs.symm⟩

end Mark

namespace HexText

variable (t : HexText)

theorem plainDigits_sign (s : Sign) (cs : List Char) :
    plainDigits (s.chars ++ cs) = s.chars ++ plainDigits cs := by
  cases s <;> rfl

theorem exists_start : ∃ c r, plainDigits (t.mark ++ t.body) = c :: r ∧ c ≠ '+' ∧ c ≠ '-' := by
  have hvalue {c k : Char} {d : Nat} (hd : hexValue? c = some d) (hk : decimalDigit? k = none)
      (hk' : hexValue? k = none) : plainDigit c ≠ k := by
    rw [Ne, plainDigit_eq_iff hk]
    rintro rfl
    rw [hk'] at hd
    cases hd
  have hzero {z : Char} (hz : decimalDigit? z = some 0) : hexValue? z = some 0 := by
    rw [hexValue?, hz, Option.some_or]
  obtain ⟨c, cs, d, hbody, hd⟩ := t.body_run.exists_cons
  have hfirst : ∃ c r d, t.mark ++ t.body = c :: r ∧ hexValue? c = some d := by
    cases hmark : t.mark with
    | nil => exact ⟨c, cs, d, hbody, hd⟩
    | cons z r =>
      have hform := t.mark_form
      rw [hmark] at hform
      cases hform with
      | plain hz _ => exact ⟨z, _, 0, rfl, hzero hz⟩
      | underscore hz _ => exact ⟨z, _, 0, rfl, hzero hz⟩
  obtain ⟨c, r, d, hsplit, hd⟩ := hfirst
  rw [hsplit]
  exact ⟨plainDigit c, plainDigits r, rfl, hvalue hd (by decide) (by decide),
    hvalue hd (by decide) (by decide)⟩

theorem not_white_of_mem_core : ∀ c ∈ t.core, isWhite c = false := by
  have hdigit {c : Char} (hc : hexValue? c ≠ none) : isWhite c = false := by
    by_contra hw
    exact hc (hexValue?_of_white (by simpa using hw))
  have hzero {z : Char} (hz : decimalDigit? z = some 0) : isWhite z = false :=
    hdigit (by rw [hexValue?, hz, Option.some_or]; simp)
  have hx {x : Char} (hx : x = 'x' ∨ x = 'X') : isWhite x = false := by
    rcases hx with rfl | rfl <;> rfl
  simp only [core, List.forall_mem_append]
  refine ⟨?_, ?_, fun c hc => ?_⟩
  · cases t.sign <;> simp [Sign.chars, isWhite]
  · have hform := t.mark_form
    generalize t.mark = mark at hform
    cases hform with
    | none => exact List.forall_mem_nil _
    | plain hz hx' => simp [hzero hz, hx hx']
    | underscore hz hx' =>
      have hmark : isWhite '_' = false := rfl
      simp [hzero hz, hx hx', hmark]
  · rcases t.body_run.digit_or_underscore c hc with hd | rfl
    · exact hdigit hd
    · rfl

theorem hexNumeral?_chars : hexNumeral? t.chars = some t.value := by
  have htrim : trim isWhite t.chars = t.core :=
    trim_append_append t.lead_white t.not_white_of_mem_core t.tail_white
  obtain ⟨c, r, hstart, hplus, hminus⟩ := t.exists_start
  have hsign : takeSign (plainDigits t.core) =
      (t.sign.negative, plainDigits (t.mark ++ t.body)) := by
    rw [core, plainDigits_sign, hstart, takeSign_chars_append t.sign hplus hminus]
  rw [hexNumeral?, htrim, hsign]
  simp only [t.mark_form.drop t.body_run, readDigits_plainDigits, t.body_run.read, Nat.zero_mul,
    Nat.zero_add, Option.map_some, value]

end HexText

theorem exists_sign_plainDigits (cs : List Char) : ∃ (sign : Sign) (rest : List Char),
    cs = sign.chars ++ rest ∧ takeSign (plainDigits cs) = (sign.negative, plainDigits rest) := by
  obtain ⟨sign, hsplit, hneg⟩ := exists_sign (plainDigits cs)
  refine ⟨sign, ?_⟩
  suffices h : ∃ rest, cs = sign.chars ++ rest ∧ plainDigits rest = (takeSign (plainDigits cs)).2 by
    obtain ⟨rest, hcs, hrest⟩ := h
    exact ⟨rest, hcs, Prod.ext hneg hrest.symm⟩
  cases sign with
  | unsigned => exact ⟨cs, rfl, hsplit⟩
  | plus => exact plainDigits_eq_cons hsplit (by decide)
  | minus => exact plainDigits_eq_cons hsplit (by decide)

/-- A text is read as a number in base sixteen exactly if it is a numeral of the number. -/
theorem hexNumeral?_eq_some {cs : List Char} {n : Int} :
    hexNumeral? cs = some n ↔ ∃ t : HexText, t.chars = cs ∧ t.value = n := by
  constructor
  · intro h
    obtain ⟨lead, tail, hsplit, hlead, htail⟩ := exists_trim_append isWhite cs
    obtain ⟨sign, rest, hcore, hsign⟩ := exists_sign_plainDigits (trim isWhite cs)
    obtain ⟨mark, body, hmark, rfl, hdrop⟩ := exists_hexMark rest
    rw [hexNumeral?, hsign] at h
    simp only [hdrop, readDigits_plainDigits] at h
    obtain ⟨v, hv, rfl⟩ := Option.map_eq_some_iff.1 h
    obtain ⟨ds, hrun⟩ := exists_hexRun hv
    rw [hrun.read, Nat.zero_mul, Nat.zero_add] at hv
    refine ⟨⟨lead, sign, mark, body, ds, tail, hlead, hmark, hrun, htail⟩, ?_, ?_⟩
    · rw [← hsplit, hcore]
      rfl
    · rw [← Option.some.inj hv]
      rfl
  · rintro ⟨t, rfl, rfl⟩
    exact t.hexNumeral?_chars

namespace HexText

variable (t : HexText)

theorem value_eq_of_chars {t' : HexText} (h : t.chars = t'.chars) : t.value = t'.value := by
  have hread := t.hexNumeral?_chars
  rw [h, t'.hexNumeral?_chars] at hread
  exact (Option.some.inj hread).symm

theorem natAbs_value_lt : t.value.natAbs < 16 ^ t.chars.length := by
  have hdigits : Nat.ofDigits 16 t.digits.reverse < 16 ^ t.digits.length := by
    rw [← List.length_reverse]
    exact Nat.ofDigits_lt_base_pow_length (by decide) fun d hd =>
      t.body_run.lt d (List.mem_reverse.1 hd)
  have hlength : t.digits.length ≤ t.chars.length := by
    refine t.body_run.length_le.trans ?_
    simp only [chars, core, List.length_append]
    omega
  have habs : t.value.natAbs = Nat.ofDigits 16 t.digits.reverse := by
    rw [value, signed]
    split
    · rw [Int.natAbs_neg, Int.natAbs_natCast]
    · rw [Int.natAbs_natCast]
  rw [habs]
  exact hdigits.trans_le (Nat.pow_le_pow_right (by decide) hlength)

theorem value_nonneg (h : '-' ∉ t.chars) : 0 ≤ t.value := by
  have hsign : t.sign.negative = false := by
    cases hs : t.sign with
    | unsigned => rfl
    | plus => rfl
    | minus => exact absurd (by simp [chars, core, hs, Sign.chars]) h
  rw [value, hsign]
  exact Int.natCast_nonneg _

end HexText

section Written

variable {c : Char} {d : Nat}

theorem hexDigit?_of_mem_hexDigits {width n : Nat} (h : c ∈ hexDigits width n) :
    ∃ d, hexDigit? c = some d ∧ c = hexChar d ∧ d < 16 := by
  induction width generalizing n with
  | zero => cases h
  | succ width ih =>
    rcases List.mem_append.1 h with h | h
    · exact ih h
    · have hlt : n % 16 < 16 := Nat.mod_lt _ (by decide)
      rw [List.mem_singleton.1 h]
      exact ⟨n % 16, hexDigit?_hexChar hlt, rfl, hlt⟩

theorem readDigits_hexDigits (width n value : Nat) (open_ : Bool) (rest : List Char) :
    readDigits hexDigit? 16 value open_ (hexDigits (width + 1) n ++ rest) =
      readDigits hexDigit? 16 (value * 16 ^ (width + 1) + n % 16 ^ (width + 1)) true rest := by
  have hstep (d v : Nat) (hd : d < 16) (open_ : Bool) (rest : List Char) :
      readDigits hexDigit? 16 v open_ (hexChar d :: rest) =
        readDigits hexDigit? 16 (v * 16 + d) true rest := by
    have hc : hexChar d ≠ '_' := by
      intro h
      have hread := hexDigit?_hexChar hd
      rw [h] at hread
      cases hread
    cases open_ <;> rw [readDigits, if_neg hc, hexDigit?_hexChar hd] <;> exact if_pos hd
  induction width generalizing n rest with
  | zero =>
    simp only [hexDigits, List.nil_append, List.singleton_append, Nat.zero_add, Nat.pow_one]
    exact hstep _ _ (Nat.mod_lt _ (by decide)) _ _
  | succ width ih =>
    rw [hexDigits, List.append_assoc, ih, List.singleton_append,
      hstep _ _ (Nat.mod_lt _ (by decide)), Nat.pow_succ 16 (width + 1),
      Nat.mul_comm (16 ^ (width + 1)) 16, Nat.mod_mul]
    congr 1
    ring

theorem hexDigit?_toLower (c : Char) : hexDigit? c.toLower = hexDigit? c := by
  by_cases h : 'A'.val ≤ c.val ∧ c.val ≤ 'Z'.val
  · have hall : ∀ n ∈ List.range' 65 26,
        hexDigit? (Char.ofNat n).toLower = hexDigit? (Char.ofNat n) := by decide
    have hc := hall c.toNat (List.mem_range'_1.2 ⟨h.1, Nat.lt_succ_of_le h.2⟩)
    rwa [Char.ofNat_toNat] at hc
  · rw [show c.toLower = c from dif_neg h]

end Written

end StorageLedger.Text
