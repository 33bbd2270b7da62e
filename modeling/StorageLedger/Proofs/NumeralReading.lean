import StorageLedger.Proofs.DecimalText

namespace StorageLedger.Text
open StorageLedger.Validation

/-- Zeros, and underscores anywhere behind the first of them. -/
def IsPadding (cs : List Char) : Prop := (∀ c ∈ cs, c = '0' ∨ c = '_') ∧ cs.head? ≠ some '_'

def IsPlain (ds : List Char) : Prop := ds = ['0'] ∨ ds.head? ≠ some '0'

/-- What may stand in front of the digits of a numeral: its sign and padding. A minus may also stand
behind the padding, perhaps with an underscore behind it. Then the digits are not padded further. -/
inductive DecimalText.Front (t : DecimalText) : List Char → Prop where
  | sign {pad : List Char} (hpad : IsPadding pad) : Front t (t.sign.chars ++ pad)
  | minus {s : Sign} {pad under : List Char} (hminus : t.sign = .minus) (hs : s ≠ .minus)
    (hpad : IsPadding pad) (hne : pad ≠ []) (hunder : under = [] ∨ under = ['_'])
    (hplain : IsPlain t.digits) : Front t (s.chars ++ (pad ++ '-' :: under))

/-- A text is a spelling of a numeral, with whatever may stand in front of its digits. -/
def DecimalText.Spelling (t : DecimalText) (cs : List Char) : Prop :=
  ∃ front, t.Front front ∧ cs = t.lead ++ (front ++ (t.whole ++ t.point) ++ t.tail)

section Padding

variable {pad pad' cs ds rest : List Char}

theorem isPadding_nil : IsPadding [] := ⟨List.forall_mem_nil _, nofun⟩

theorem isPadding_zero_cons (h : ∀ c ∈ pad, c = '0' ∨ c = '_') : IsPadding ('0' :: pad) :=
  ⟨List.forall_mem_cons.2 ⟨.inl rfl, h⟩, by simp⟩

theorem IsPadding.exists_cons (h : IsPadding pad) (hne : pad ≠ []) :
    ∃ pad', pad = '0' :: pad' ∧ ∀ c ∈ pad', c = '0' ∨ c = '_' := by
  obtain ⟨c, pad', rfl⟩ := List.exists_cons_of_ne_nil hne
  obtain ⟨hc, hall⟩ := List.forall_mem_cons.1 h.1
  obtain rfl := hc.resolve_right fun hc => h.2 (hc ▸ rfl)
  exact ⟨pad', rfl, hall⟩

theorem IsPadding.append (h : IsPadding pad) (hall : ∀ c ∈ pad', c = '0' ∨ c = '_')
    (hhead : pad'.head? ≠ some '_') : IsPadding (pad ++ pad') := by
  refine ⟨List.forall_mem_append.2 ⟨h.1, hall⟩, ?_⟩
  cases pad with
  | nil => exact hhead
  | cons c pad => exact h.2

theorem IsPadding.not_white (h : IsPadding pad) : ∀ c ∈ pad, isWhite c = false := by
  intro c hc
  rcases h.1 c hc with rfl | rfl <;> rfl

theorem forall_mem_under {under : List Char} {p : Char → Prop}
    (h : under = [] ∨ under = ['_']) (hp : p '_') : ∀ c ∈ under, p c := by
  rcases h with rfl | rfl
  · exact List.forall_mem_nil _
  · exact List.forall_mem_singleton.2 hp

/-- Digits are padding in front of digits that are not padded, and worth as much as these. -/
theorem Grouped.exists_plain (h : Grouped cs ds) :
    ∃ pad rest plain, cs = pad ++ rest ∧ IsPadding pad ∧ Grouped rest plain ∧ IsPlain plain ∧
      digitsValue plain = digitsValue ds := by
  have hzero {ds : List Char} : digitsValue ('0' :: ds) = digitsValue ds :=
    digitsValue_append_of_zeros (List.forall_mem_singleton.2 rfl) ds
  induction h with
  | @last d hd =>
    refine ⟨[], [d], [d], rfl, isPadding_nil, .last hd, ?_, rfl⟩
    by_cases h0 : d = '0'
    · exact .inl (h0 ▸ rfl)
    · exact .inr (by simpa using h0)
  | @digit d cs ds hd hrest ih =>
    by_cases h0 : d = '0'
    · subst h0
      obtain ⟨pad, rest, plain, rfl, hpad, hgroup, hplain, hvalue⟩ := ih
      exact ⟨'0' :: pad, rest, plain, rfl, isPadding_zero_cons hpad.1, hgroup, hplain,
        by rw [hzero, hvalue]⟩
    · exact ⟨[], _, _, rfl, isPadding_nil, .digit hd hrest, .inr (by simpa using h0), rfl⟩
  | @underscore d cs ds hd hrest ih =>
    by_cases h0 : d = '0'
    · subst h0
      obtain ⟨pad, rest, plain, rfl, hpad, hgroup, hplain, hvalue⟩ := ih
      have hunder := List.forall_mem_cons.2 ⟨.inr rfl, hpad.1⟩
      exact ⟨'0' :: '_' :: pad, rest, plain, rfl, isPadding_zero_cons hunder, hgroup, hplain,
        by rw [hzero, hvalue]⟩
    · exact ⟨[], _, _, rfl, isPadding_nil, .underscore hd hrest, .inr (by simpa using h0), rfl⟩

theorem Grouped.isPlain_iff (h : Grouped cs ds) : IsPlain ds ↔ IsPlain cs := by
  cases h with
  | last _ => exact Iff.rfl
  | digit _ h =>
    obtain ⟨d, r, ds, rfl, rfl, -⟩ := h.exists_cons
    simp [IsPlain]
  | underscore _ h =>
    obtain ⟨d, r, ds, rfl, rfl, -⟩ := h.exists_cons
    simp [IsPlain]

theorem isPlain_iff : IsPlain cs ↔ (cs.head? == some '0' && cs.length != 1) = false := by
  rw [IsPlain, Bool.and_eq_false_iff, or_comm, beq_eq_false_iff_ne]
  refine or_congr_right' fun hhead => ?_
  obtain ⟨r, rfl⟩ := List.head?_eq_some_iff.1 (not_not.1 hhead)
  simp

theorem dropPadding?_append (h : ∀ c ∈ pad, c = '0' ∨ c = '_') (last : Char) (cs : List Char) :
    ∃ last', dropPadding? last (pad ++ cs) = dropPadding? last' cs := by
  induction pad generalizing last with
  | nil => exact ⟨last, rfl⟩
  | cons c pad ih =>
    obtain ⟨hc, hpad⟩ := List.forall_mem_cons.1 h
    obtain ⟨last', hlast⟩ := ih hpad c
    refine ⟨last', ?_⟩
    rw [List.cons_append, dropPadding?, if_pos (by simpa using hc), hlast]

theorem dropZeros?_padded (hpad : IsPadding pad) (hrest : Grouped rest ds) (hplain : IsPlain ds)
    (fraction : Option (List Char)) :
    dropZeros? (pad ++ (rest ++ fractionChars fraction)) =
      some (rest ++ fractionChars fraction) := by
  have hkeep : dropPadding? '0' (fractionChars fraction) =
      some ('0' :: fractionChars fraction) := by
    cases fraction <;> rfl
  rcases hrest.isPlain_iff.1 hplain with rfl | hhead
  · cases pad with
    | nil => rw [List.nil_append, List.singleton_append, dropZeros?, if_pos rfl, hkeep]
    | cons c pad =>
      obtain ⟨pad, ⟨⟩, hall⟩ := hpad.exists_cons (List.cons_ne_nil c pad)
      obtain ⟨last, hlast⟩ := dropPadding?_append hall '0' ('0' :: fractionChars fraction)
      rw [List.cons_append, dropZeros?, if_pos rfl, List.singleton_append, hlast, dropPadding?,
        if_pos (by decide), hkeep]
  · obtain ⟨d, rest, ds, rfl, rfl, hd⟩ := hrest.exists_cons
    have hne : d ≠ '0' := by simpa using hhead
    cases pad with
    | nil =>
      rw [List.nil_append, List.cons_append, dropZeros?, if_neg hne, if_pos hd]
    | cons c pad =>
      obtain ⟨pad, ⟨⟩, hall⟩ := hpad.exists_cons (List.cons_ne_nil c pad)
      obtain ⟨last, hlast⟩ := dropPadding?_append hall '0' (d :: rest ++ fractionChars fraction)
      have hunder := ne_underscore_of_isDigit hd
      rw [List.cons_append, dropZeros?, if_pos rfl, hlast, List.cons_append, dropPadding?,
        if_neg (by simp [hne, hunder]), if_pos (by simp [hd])]

theorem dropZeros?_minus (hpad : IsPadding pad) (hne : pad ≠ []) (cs : List Char) :
    dropZeros? (pad ++ '-' :: cs) = some ('-' :: cs) := by
  obtain ⟨pad, rfl, hall⟩ := hpad.exists_cons hne
  obtain ⟨last, hlast⟩ := dropPadding?_append hall '0' ('-' :: cs)
  rw [List.cons_append, dropZeros?, if_pos rfl, hlast]
  rfl

theorem exists_of_dropPadding? {last : Char} (hlast : last = '0' ∨ last = '_')
    (h : dropPadding? last cs = some rest) :
    ∃ pad, last :: cs = pad ++ rest ∧ (∀ c ∈ pad, c = '0' ∨ c = '_') ∧
      (rest.head? = some '-' → pad ≠ []) := by
  have hminus : some last ≠ some '-' := by
    rcases hlast with rfl | rfl <;> decide
  induction cs generalizing last with
  | nil =>
    cases h
    exact ⟨[], rfl, List.forall_mem_nil _, fun hhead => absurd hhead hminus⟩
  | cons c r ih =>
    rw [dropPadding?] at h
    split at h
    · next hc =>
      have hc : c = '0' ∨ c = '_' := by simpa using hc
      obtain ⟨pad, hpad, hall, -⟩ := ih hc h (by rcases hc with rfl | rfl <;> decide)
      refine ⟨last :: pad, congrArg (last :: ·) hpad, List.forall_mem_cons.2 ⟨hlast, hall⟩, ?_⟩
      exact fun _ => List.cons_ne_nil _ _
    · split at h
      · cases h
        refine ⟨[last], rfl, List.forall_mem_singleton.2 hlast, ?_⟩
        exact fun _ => List.cons_ne_nil _ _
      · split at h
        · cases h
          exact ⟨[], rfl, List.forall_mem_nil _, fun hhead => absurd hhead hminus⟩
        · cases h

/-- What is dropped is padding, and there is some in front of a minus. -/
theorem exists_of_dropZeros? (h : dropZeros? cs = some rest) :
    ∃ pad, cs = pad ++ rest ∧ IsPadding pad ∧ (rest.head? = some '-' → pad ≠ []) := by
  cases cs with
  | nil => cases h
  | cons c r =>
    rw [dropZeros?] at h
    split at h
    · next hc =>
      subst hc
      obtain ⟨pad, hpad, hall, hminus⟩ := exists_of_dropPadding? (.inl rfl) h
      refine ⟨pad, hpad, ?_, hminus⟩
      cases pad with
      | nil => exact isPadding_nil
      | cons d pad =>
        obtain ⟨rfl, -⟩ := List.cons.inj hpad
        exact isPadding_zero_cons (List.forall_mem_cons.1 hall).2
    · split at h
      · next hd =>
        cases h
        refine ⟨[], rfl, isPadding_nil, fun hhead => ?_⟩
        cases hhead
        cases hd
      · cases h

end Padding

section Fraction

variable {cs ds whole : List Char}

theorem dropZeroFraction?_eq_some :
    dropZeroFraction? cs = some whole ↔ (∀ c ∈ whole, c ≠ '.') ∧
      ∃ fraction, (∀ zeros ∈ fraction, zeros ≠ [] ∧ ∀ z ∈ zeros, z = '0') ∧
        cs = whole ++ fractionChars fraction := by
  unfold dropZeroFraction?
  constructor
  · intro h
    have hkept : ∀ c ∈ cs.takeWhile (fun c => decide (c ≠ '.')), c ≠ '.' := fun c hc =>
      of_decide_eq_true (List.all_eq_true.1 List.all_takeWhile c hc)
    have hsplit := List.takeWhile_append_dropWhile (p := fun c => decide (c ≠ '.')) (l := cs)
    split at h
    · next hnone =>
      obtain rfl := Option.some.inj h
      rw [hnone, List.append_nil] at hsplit
      exact ⟨hsplit ▸ hkept, none, by simp, (List.append_nil _).symm⟩
    · next p fraction hpoint =>
      split at h
      · next hzeros =>
        obtain rfl := Option.some.inj h
        have hp : p = '.' := by
          have hhead := List.head?_dropWhile_not (fun c : Char => decide (c ≠ '.')) cs
          rw [hpoint] at hhead
          simpa using hhead
        rw [hpoint, hp] at hsplit
        refine ⟨hkept, some fraction, ?_, hsplit.symm⟩
        rintro _ ⟨⟩
        exact ⟨hzeros.1, fun z hz => of_decide_eq_true (List.all_eq_true.1 hzeros.2 z hz)⟩
      · cases h
  · rintro ⟨hwhole, fraction, hfraction, rfl⟩
    have hpos : ∀ c ∈ whole, decide (c ≠ '.') = true := fun c hc => decide_eq_true (hwhole c hc)
    rw [List.dropWhile_append_of_pos hpos]
    cases fraction with
    | none => exact congrArg some (List.append_nil _)
    | some zeros =>
      obtain ⟨hne, hzeros⟩ := hfraction zeros rfl
      have hall : zeros.all (· = '0') = true :=
        List.all_eq_true.2 fun z hz => decide_eq_true (hzeros z hz)
      rw [fractionChars, List.dropWhile_cons_of_neg (by decide)]
      simp only [List.takeWhile_append_of_pos hpos]
      rw [if_pos ⟨hne, hall⟩, List.takeWhile_cons_of_neg (by decide), List.append_nil]

end Fraction

section Reading

variable {cs ds : List Char} {negative : Bool} {n : Int}

theorem readSigned?_eq_some :
    readSigned? negative cs = some n ↔
      ∃ ds, Grouped cs ds ∧ n = signed negative (digitsValue ds) ∧
        ds.length + (if negative then 1 else 0) ≤ integerTextLimit := by
  have hlength (ds : List Char) (h : Grouped cs ds) :
      (cs.filter (· ≠ '_')).length = ds.length := congrArg List.length h.filter_eq
  rw [readSigned?]
  by_cases hlong : integerTextLimit < (cs.filter (· ≠ '_')).length + if negative then 1 else 0
  · rw [if_pos hlong]
    refine iff_of_false nofun ?_
    rintro ⟨ds, hgroup, -, hshort⟩
    rw [hlength ds hgroup] at hlong
    exact absurd hlong (Nat.not_lt.2 hshort)
  · rw [if_neg hlong]
    simp only [Option.map_eq_some_iff, readDigits_eq_some_iff_grouped]
    constructor
    · rintro ⟨_, ⟨ds, hgroup, rfl⟩, rfl⟩
      rw [hlength ds hgroup] at hlong
      exact ⟨ds, hgroup, rfl, Nat.not_lt.1 hlong⟩
    · rintro ⟨ds, hgroup, rfl, -⟩
      exact ⟨_, ⟨ds, hgroup, rfl⟩, rfl⟩

theorem readUnpadded?_digits (h : Grouped cs ds) :
    readUnpadded? negative cs = readSigned? negative cs := by
  obtain ⟨d, cs, ds, rfl, -, hd⟩ := h.exists_cons
  unfold readUnpadded?
  split
  · next h =>
    obtain ⟨rfl, -⟩ := List.cons.inj h
    cases hd
  · rfl

theorem readUnpadded?_minus {under : List Char} (hunder : under = [] ∨ under = ['_'])
    (h : Grouped cs ds) (hplain : IsPlain ds) :
    readUnpadded? false ('-' :: (under ++ cs)) = readSigned? true cs := by
  have hcut :
      (if (under ++ cs).head? = some '_' then (under ++ cs).tail else under ++ cs) = cs := by
    rcases hunder with rfl | rfl
    · rw [List.nil_append, if_neg]
      intro hhead
      obtain ⟨d, cs, ds, rfl, -, hd⟩ := h.exists_cons
      exact ne_underscore_of_isDigit hd (Option.some.inj hhead)
    · rfl
  have hzero := isPlain_iff.1 (h.isPlain_iff.1 hplain)
  rw [readUnpadded?]
  simp only [hcut, hzero, Bool.or_false, Bool.false_eq_true, if_false]

theorem exists_of_readUnpadded? (h : readUnpadded? negative cs = some n) :
    (∃ ds, Grouped cs ds ∧ n = signed negative (digitsValue ds)) ∨
      ∃ under whole ds, negative = false ∧ (under = [] ∨ under = ['_']) ∧
        cs = '-' :: (under ++ whole) ∧ Grouped whole ds ∧ IsPlain ds ∧
        n = signed true (digitsValue ds) := by
  unfold readUnpadded? at h
  split at h
  · next r =>
    right
    obtain ⟨under, whole, hunder, hr, hwhole⟩ : ∃ under whole, (under = [] ∨ under = ['_']) ∧
        r = under ++ whole ∧ (if r.head? = some '_' then r.tail else r) = whole := by
      split
      · next hhead =>
        obtain ⟨r, rfl⟩ := List.head?_eq_some_iff.1 hhead
        exact ⟨['_'], r, .inr rfl, rfl, rfl⟩
      · exact ⟨[], r, .inl rfl, rfl, rfl⟩
    simp only [hwhole] at h
    split at h
    · cases h
    · next hcheck =>
      obtain ⟨hneg, hplain⟩ := Bool.or_eq_false_iff.1 (Bool.not_eq_true _ ▸ hcheck)
      obtain ⟨ds, hgroup, hvalue, -⟩ := readSigned?_eq_some.1 h
      exact ⟨under, whole, ds, hneg, hunder, congrArg _ hr, hgroup,
        hgroup.isPlain_iff.2 (isPlain_iff.2 hplain), hvalue⟩
  · obtain ⟨ds, hgroup, hvalue, -⟩ := readSigned?_eq_some.1 h
    exact .inl ⟨ds, hgroup, hvalue⟩

end Reading

theorem not_isDigit_of_isWhite {c : Char} (h : isWhite c = true) : ¬ isDigit c = true := by
  rw [isDigit_iff]
  simp only [isWhite, Bool.or_eq_true, Bool.and_eq_true, decide_eq_true_eq, beq_iff_eq] at h
  omega

def StartsShort (cs : List Char) : Prop :=
  cs.head? = some '0' ∨ (cs.takeWhile isDigit).length < integerTextLimit

theorem startsShort_of_not_isDigit {c : Char} (h : ¬ isDigit c = true) (cs : List Char) :
    StartsShort (c :: cs) := by
  right
  rw [List.takeWhile_cons_of_neg h]
  decide

theorem startsTooLong_eq_false {body : List Char} (s : Sign) (h : StartsShort body)
    (hhead : body.head? ≠ some '-') : startsTooLong (s.chars ++ body) = false := by
  have hshort {cs : List Char} {marks : Nat} (hmarks : marks ≤ 1) (hcs : StartsShort cs) :
      (cs.head? != some '0' &&
        decide (integerTextLimit < (cs.takeWhile isDigit).length + marks)) = false := by
    rcases hcs with hzero | hfew
    · rw [hzero]
      rfl
    · rw [Bool.and_eq_false_iff, decide_eq_false_iff_not]
      right
      omega
  have hplain {cs : List Char} (hcs : StartsShort cs) (hhead : cs.head? ≠ some '-') :
      startsTooLong cs = false := by
    unfold startsTooLong
    split
    next negative digits hcut =>
    split at hcut
    · exact absurd rfl hhead
    · cases hcut
      exact hshort (Nat.zero_le 1) hcs
  cases s with
  | unsigned => exact hplain h hhead
  | plus => exact hplain (startsShort_of_not_isDigit (by decide) body) nofun
  | minus => exact hshort (Nat.le_refl 1) h

theorem Grouped.length_takeWhile_le {cs ds r : List Char} (h : Grouped cs ds)
    (hr : r.takeWhile isDigit = []) : ((cs ++ r).takeWhile isDigit).length ≤ ds.length := by
  induction h with
  | last hd =>
    rw [List.singleton_append, List.takeWhile_cons_of_pos hd, hr]
  | digit hd _ ih =>
    rw [List.cons_append, List.takeWhile_cons_of_pos hd]
    exact Nat.succ_le_succ ih
  | underscore hd _ ih =>
    rw [List.cons_append, List.takeWhile_cons_of_pos hd, List.cons_append,
      List.takeWhile_cons_of_neg (by decide)]
    exact Nat.succ_le_succ (Nat.zero_le _)

namespace DecimalText

variable {t : DecimalText} {cs ds pad front whole : List Char} {n : Int}

theorem Front.not_white (h : t.Front front) : ∀ c ∈ front, isWhite c = false := by
  cases h with
  | sign hpad => exact List.forall_mem_append.2 ⟨t.sign.not_white_of_mem_chars, hpad.not_white⟩
  | @minus s pad under _ _ hpad _ hunder _ =>
    have hbehind : ∀ c ∈ '-' :: under, isWhite c = false :=
      List.forall_mem_cons.2 ⟨rfl, forall_mem_under hunder rfl⟩
    exact List.forall_mem_append.2 ⟨s.not_white_of_mem_chars,
      List.forall_mem_append.2 ⟨hpad.not_white, hbehind⟩⟩

theorem trim_spelling (h : t.Front front) :
    trim isWhite (t.lead ++ (front ++ (t.whole ++ t.point) ++ t.tail)) =
      front ++ (t.whole ++ t.point) :=
  trim_append_append t.lead_blank
    (List.forall_mem_append.2 ⟨h.not_white, t.not_white_of_mem_body⟩) t.tail_blank

theorem exists_digit_cons (t : DecimalText) (hpad : IsPadding pad) (rest : List Char) :
    ∃ d r, pad ++ (t.whole ++ rest) = d :: r ∧ isDigit d = true := by
  cases pad with
  | nil =>
    obtain ⟨d, cs, -, hwhole, -, hd⟩ := t.whole_grouped.exists_cons
    exact ⟨d, cs ++ rest, by rw [hwhole]; rfl, hd⟩
  | cons c pad =>
    obtain ⟨pad, ⟨⟩, -⟩ := hpad.exists_cons (List.cons_ne_nil c pad)
    exact ⟨'0', _, rfl, by decide⟩

theorem takeSign_padded (s : Sign) (hpad : IsPadding pad) :
    takeSign (s.chars ++ (pad ++ (t.whole ++ t.point))) =
      (s.negative, pad ++ (t.whole ++ t.point)) := by
  obtain ⟨d, r, hcons, hd⟩ := t.exists_digit_cons hpad t.point
  rw [hcons, takeSign_append s hd]

theorem takeSign_minus (s : Sign) (hpad : IsPadding pad) (hne : pad ≠ []) (cs : List Char) :
    takeSign (s.chars ++ (pad ++ '-' :: cs)) = (s.negative, pad ++ '-' :: cs) := by
  obtain ⟨pad, rfl, -⟩ := hpad.exists_cons hne
  rw [List.cons_append, takeSign_append s (by decide)]

theorem spelling_chars (t : DecimalText) : t.Spelling t.chars :=
  ⟨_, .sign isPadding_nil, by rw [List.append_nil, chars, core]⟩

section Value

/-- The number that a text spells if it spells any: a minus behind the digits of its padding counts
like one in front of them. -/
def spelledValue (cs : List Char) : ℚ :=
  let (negative, body) := takeSign (trim isWhite cs)
  if '-' ∈ body then -magnitude ((body.dropWhile (· ≠ '-')).tail)
  else if negative then -magnitude body
  else magnitude body

theorem not_mem_padding (hpad : IsPadding pad) : '-' ∉ pad := by
  intro h
  rcases hpad.1 _ h with h | h <;> cases h

theorem Spelling.value_eq (h : t.Spelling cs) : t.value = spelledValue cs := by
  obtain ⟨front, hfront, rfl⟩ := h
  rw [spelledValue, trim_spelling hfront]
  cases hfront with
  | @sign pad hpad =>
    have hnone : '-' ∉ pad ++ (t.whole ++ t.point) := by
      rw [List.mem_append, not_or]
      refine ⟨not_mem_padding hpad, fun h => ?_⟩
      rcases t.mem_body h with h | h | h <;> cases h
    rw [List.append_assoc, takeSign_padded t.sign hpad]
    simp only [if_neg hnone, t.magnitude_padded hpad.1]
    rfl
  | @minus s pad under hminus _ hpad hne hunder _ =>
    have hall : ∀ c ∈ under, c = '0' ∨ c = '_' := forall_mem_under hunder (.inr rfl)
    have hkept : ∀ c ∈ pad, decide (c ≠ '-') = true := fun c hc =>
      decide_eq_true fun heq => not_mem_padding hpad (heq ▸ hc)
    have hmem : '-' ∈ pad ++ '-' :: (under ++ (t.whole ++ t.point)) := by simp
    have hdrop : ((pad ++ '-' :: (under ++ (t.whole ++ t.point))).dropWhile
        (fun c => decide (c ≠ '-'))).tail = under ++ (t.whole ++ t.point) := by
      rw [List.dropWhile_append_of_pos hkept, List.dropWhile_cons_of_neg (by decide),
        List.tail_cons]
    rw [List.append_assoc, List.append_assoc, List.cons_append, takeSign_minus s hpad hne]
    simp only [if_pos hmem, hdrop, t.magnitude_padded hall]
    rw [value, hminus]
    rfl

end Value

theorem startsShort_padded (hpad : IsPadding pad)
    (h : (t.digits.dropWhile (· = '0')).length < integerTextLimit) :
    StartsShort (pad ++ (t.whole ++ (t.point ++ t.tail))) := by
  have hend : (t.point ++ t.tail).takeWhile isDigit = [] := by
    cases hf : t.fraction with
    | some ds =>
      rw [point, hf]
      exact List.takeWhile_cons_of_neg (by decide)
    | none =>
      rw [point, hf, fractionChars, List.nil_append]
      cases htail : t.tail with
      | nil => rfl
      | cons c r =>
        exact List.takeWhile_cons_of_neg
          (not_isDigit_of_isWhite (t.tail_blank c (htail ▸ List.mem_cons_self)))
  cases pad with
  | cons c pad =>
    obtain ⟨pad, ⟨⟩, -⟩ := hpad.exists_cons (List.cons_ne_nil c pad)
    exact .inl rfl
  | nil =>
    rw [List.nil_append]
    obtain ⟨d, cs, ds, hwhole, hds, -⟩ := t.whole_grouped.exists_cons
    by_cases hd : d = '0'
    · left
      rw [hwhole, hd]
      rfl
    · right
      rw [hds, List.dropWhile_cons_of_neg (by simpa using hd), ← hds] at h
      exact Nat.lt_of_le_of_lt (t.whole_grouped.length_takeWhile_le hend) h

theorem Spelling.not_startsTooLong (h : t.Spelling cs)
    (hshort : (t.digits.dropWhile (· = '0')).length < integerTextLimit) :
    startsTooLong cs = false := by
  obtain ⟨front, hfront, rfl⟩ := h
  cases hlead : t.lead with
  | cons c r =>
    have hc := t.lead_blank c (hlead ▸ List.mem_cons_self)
    refine startsTooLong_eq_false .unsigned
      (startsShort_of_not_isDigit (not_isDigit_of_isWhite hc) _) fun hhead => ?_
    cases hhead
    cases hc
  | nil =>
    cases hfront with
    | @sign pad hpad =>
      obtain ⟨d, r, hcons, hd⟩ := t.exists_digit_cons hpad (t.point ++ t.tail)
      simp only [List.nil_append, List.append_assoc]
      refine startsTooLong_eq_false t.sign (startsShort_padded hpad hshort) fun hhead => ?_
      rw [hcons] at hhead
      cases hhead
      cases hd
    | @minus s pad under _ _ hpad hne _ _ =>
      obtain ⟨pad, rfl, -⟩ := hpad.exists_cons hne
      simp only [List.nil_append, List.append_assoc]
      exact startsTooLong_eq_false s (.inl rfl) (by simp)

theorem length_le_of_isPlain {ds : List Char} (h : IsPlain ds) (hds : ∀ d ∈ ds, isDigit d = true)
    {k : Nat} (hpos : 0 < k) (hk : digitsValue ds < 10 ^ k) : ds.length ≤ k := by
  rcases h with rfl | hplain
  · exact hpos
  · have hkept : ds.dropWhile (· = '0') = ds := by
      cases ds with
      | nil => rfl
      | cons d ds => exact List.dropWhile_cons_of_neg (by simpa using hplain)
    rw [← hkept]
    exact length_dropWhile_zero_le hds hk

section Body

variable {k : Nat} {negative : Bool}

theorem readSigned?_of_isPlain (h : Grouped cs ds) (hplain : IsPlain ds) (hpos : 0 < k)
    (hds : digitsValue ds < 10 ^ k) (hk : k < integerTextLimit) :
    readSigned? negative cs = some (signed negative (digitsValue ds)) := by
  have hlength := length_le_of_isPlain hplain h.isDigit_of_mem hpos hds
  refine readSigned?_eq_some.2 ⟨ds, h, rfl, ?_⟩
  split <;> omega

theorem dropZeroFraction?_point (hzeros : ∀ d ∈ t.fraction.getD [], d = '0')
    (hwhole : ∀ c ∈ whole, c ≠ '.') : dropZeroFraction? (whole ++ t.point) = some whole := by
  refine dropZeroFraction?_eq_some.2 ⟨hwhole, t.fraction, ?_, rfl⟩
  intro zeros hmem
  rw [hmem] at hzeros
  exact ⟨(t.fraction_digits zeros hmem).1, hzeros⟩

theorem readBody_padded (hpad : IsPadding pad) (hzeros : ∀ d ∈ t.fraction.getD [], d = '0')
    (hpos : 0 < k) (hsmall : digitsValue t.digits < 10 ^ k) (hk : k < integerTextLimit) :
    ((dropZeros? (pad ++ (t.whole ++ t.point))).bind dropZeroFraction?).bind
      (readUnpadded? negative) = some (signed negative (digitsValue t.digits)) := by
  obtain ⟨pad', rest, plain, hwhole, hpad', hgroup, hplain, hvalue⟩ := t.whole_grouped.exists_plain
  rw [← hvalue] at hsmall ⊢
  have hdrop : dropZeros? (pad ++ pad' ++ (rest ++ t.point)) = some (rest ++ t.point) :=
    dropZeros?_padded (hpad.append hpad'.1 hpad'.2) hgroup hplain t.fraction
  rw [hwhole, List.append_assoc, ← List.append_assoc, hdrop, Option.bind_some,
    dropZeroFraction?_point hzeros hgroup.ne_point, Option.bind_some,
    readUnpadded?_digits hgroup, readSigned?_of_isPlain hgroup hplain hpos hsmall hk]

theorem readBody_minus {under : List Char} (hpad : IsPadding pad) (hne : pad ≠ [])
    (hunder : under = [] ∨ under = ['_']) (hplain : IsPlain t.digits)
    (hzeros : ∀ d ∈ t.fraction.getD [], d = '0') (hpos : 0 < k)
    (hsmall : digitsValue t.digits < 10 ^ k) (hk : k < integerTextLimit) :
    ((dropZeros? (pad ++ '-' :: (under ++ (t.whole ++ t.point)))).bind dropZeroFraction?).bind
      (readUnpadded? false) = some (signed true (digitsValue t.digits)) := by
  have hbehind : ∀ c ∈ '-' :: (under ++ t.whole), c ≠ '.' :=
    List.forall_mem_cons.2 ⟨by decide, List.forall_mem_append.2
      ⟨forall_mem_under hunder (by decide), t.whole_grouped.ne_point⟩⟩
  rw [dropZeros?_minus hpad hne, Option.bind_some, ← List.append_assoc, ← List.cons_append,
    dropZeroFraction?_point hzeros hbehind, Option.bind_some,
    readUnpadded?_minus hunder t.whole_grouped hplain,
    readSigned?_of_isPlain t.whole_grouped hplain hpos hsmall hk]

end Body

/-- A spelling of an integer is read as that integer, unless it has very many digits. -/
theorem Spelling.integerOfText_eq (h : t.Spelling cs) (hvalue : t.value = n) {k : Nat}
    (hpos : 0 < k) (hn : n.natAbs < 10 ^ k) (hk : k < integerTextLimit) :
    integerOfText cs = .ok n := by
  obtain ⟨hzeros, rfl⟩ := t.value_eq_int_iff.1 hvalue
  have hsmall : digitsValue t.digits < 10 ^ k := by
    rw [signed] at hn
    split at hn
    · rwa [Int.natAbs_neg, Int.natAbs_natCast] at hn
    · rwa [Int.natAbs_natCast] at hn
  have hfew := length_dropWhile_zero_le t.whole_grouped.isDigit_of_mem hsmall
  rw [integerOfText, h.not_startsTooLong (Nat.lt_of_le_of_lt hfew hk)]
  obtain ⟨front, hfront, rfl⟩ := h
  rw [trim_spelling hfront]
  cases hfront with
  | @sign pad hpad =>
    rw [List.append_assoc, takeSign_padded t.sign hpad]
    simp only [readBody_padded hpad hzeros hpos hsmall hk, Bool.false_eq_true, if_false]
  | @minus s pad under hminus hs hpad hne hunder hplain =>
    have hnegative : s.negative = false := by
      cases s with
      | minus => exact absurd rfl hs
      | _ => rfl
    rw [List.append_assoc, List.append_assoc, List.cons_append, takeSign_minus s hpad hne]
    simp only [hnegative, readBody_minus hpad hne hunder hplain hzeros hpos hsmall hk,
      Bool.false_eq_true, if_false]
    rw [hminus]
    rfl

theorem exists_of_readBody {sign : Sign} {lead body tail : List Char}
    (hlead : ∀ c ∈ lead, isWhite c = true) (htail : ∀ c ∈ tail, isWhite c = true)
    (h : ((dropZeros? body).bind dropZeroFraction?).bind (readUnpadded? sign.negative) = some n) :
    ∃ t : DecimalText, t.Spelling (lead ++ (sign.chars ++ body ++ tail)) ∧ t.value = n := by
  obtain ⟨whole, hbody, hread⟩ := Option.bind_eq_some_iff.1 h
  obtain ⟨rest, hzeros, hrest⟩ := Option.bind_eq_some_iff.1 hbody
  obtain ⟨pad, rfl, hpad, hminus⟩ := exists_of_dropZeros? hzeros
  obtain ⟨-, fraction, hfraction, rfl⟩ := dropZeroFraction?_eq_some.1 hrest
  have hdigits : ∀ ds ∈ fraction, ds ≠ [] ∧ ∀ d ∈ ds, isDigit d = true := fun ds hds =>
    ⟨(hfraction ds hds).1, fun d hd => (hfraction ds hds).2 d hd ▸ rfl⟩
  have hnone : ∀ d ∈ fraction.getD [], d = '0' := by
    cases fraction with
    | none => exact List.forall_mem_nil _
    | some zeros => exact (hfraction zeros rfl).2
  rcases exists_of_readUnpadded? hread with
    ⟨ds, hgroup, rfl⟩ | ⟨under, digits, ds, hsigned, hunder, rfl, hgroup, hplain, rfl⟩
  · refine ⟨⟨lead, sign, whole, ds, fraction, tail, hlead, hgroup, hdigits, htail⟩,
      ⟨_, .sign hpad, ?_⟩, (value_eq_int_iff _).2 ⟨hnone, rfl⟩⟩
    simp [point]
  · have hs : sign ≠ .minus := by
      rintro rfl
      cases hsigned
    refine ⟨⟨lead, .minus, digits, ds, fraction, tail, hlead, hgroup, hdigits, htail⟩,
      ⟨_, .minus rfl hs hpad (hminus rfl) hunder hplain, ?_⟩,
      (value_eq_int_iff _).2 ⟨hnone, rfl⟩⟩
    simp [point]

/-- A text that is read as an integer is a spelling of that integer. -/
theorem exists_of_integerOfText (h : integerOfText cs = .ok n) :
    ∃ t : DecimalText, t.Spelling cs ∧ t.value = n := by
  unfold integerOfText at h
  split at h
  · cases h
  obtain ⟨lead, tail, hsplit, hlead, htail⟩ := exists_trim_append isWhite cs
  obtain ⟨sign, hsign, hnegative⟩ := exists_sign (trim isWhite cs)
  dsimp only at h
  split at h
  · next m hread =>
    cases h
    rw [hnegative] at hread
    rw [← hsplit, hsign]
    exact exists_of_readBody hlead htail hread
  · cases h

end DecimalText

end StorageLedger.Text
