import Mathlib.Data.List.TakeDrop
import StorageLedger.Calendar.Reader
import StorageLedger.Proofs.Digits

namespace StorageLedger.Calendar
open StorageLedger.Text

theorem Date.ofParts?_parts (d : Date) : Date.ofParts? d.year d.month d.day = some d :=
  dif_pos ⟨d.year_le, d.day_pos, d.day_le⟩

theorem Date.day_lt (d : Date) : d.day < 100 := by
  have hle := d.day_le
  unfold monthLength at hle
  split_ifs at hle <;> omega

theorem Clock.ofParts?_parts (c : Clock) :
    Clock.ofParts? c.hour c.minute c.second c.micro = some c :=
  dif_pos ⟨c.hour_lt, c.minute_lt, c.second_lt, c.micro_lt⟩

/-- The text of a date is read back as the date, whatever stands behind it. -/
theorem readDate_text (d : Date) (rest : List Char) :
    readDate (d.text ++ rest) = .ok (d, rest) := by
  have hmonth := d.month_bounds
  obtain ⟨y₁, y₂, y₃, y₄, hyear, hyear'⟩ := exists_four_paddedDigits (Nat.lt_succ_of_le d.year_le)
  obtain ⟨m₁, m₂, hm, hm'⟩ := exists_pair_paddedDigits (show d.month < 100 by omega)
  obtain ⟨d₁, d₂, hday, hday'⟩ := exists_pair_paddedDigits d.day_lt
  rw [Date.text, hyear, hm, hday]
  simp only [List.cons_append, List.nil_append, readDate, hyear', hm', hday', Date.ofParts?_parts,
    ne_eq, not_true_eq_false, if_false]

/-- What may stand behind a time of day: no digit, which would continue a fraction, and no mark
that would start one. -/
def EndsClock (rest : List Char) : Prop :=
  ∀ c ∈ rest.head?, isDigit c = false ∧ c ≠ '.' ∧ c ≠ ','

theorem EndsClock.span {ds rest : List Char} (h : EndsClock rest)
    (hds : ∀ d ∈ ds, isDigit d = true) : (ds ++ rest).span isDigit = (ds, rest) := by
  rw [List.span_eq_takeWhile_dropWhile, List.takeWhile_append_of_pos hds,
    List.dropWhile_append_of_pos hds]
  cases rest with
  | nil => simp
  | cons c rest =>
    have hc := (h c rfl).1
    rw [List.takeWhile_cons_of_neg (by simp [hc]), List.dropWhile_cons_of_neg (by simp [hc]),
      List.append_nil]

theorem fraction?_of_endsClock {rest : List Char} (h : EndsClock rest) :
    fraction? rest = some (0, rest) := by
  cases rest with
  | nil => rfl
  | cons c rest =>
    obtain ⟨-, hpoint, hcomma⟩ := h c rfl
    rw [fraction?, if_neg (by simp [hpoint, hcomma])]

theorem fraction?_micros {micro : Nat} (hmicro : micro < 1000000) {rest : List Char}
    (h : EndsClock rest) :
    fraction? ('.' :: (paddedDigits 6 micro ++ rest)) = some (micro, rest) := by
  have hlength := length_paddedDigits (show 0 < 6 by decide) hmicro
  have hne : paddedDigits 6 micro ≠ [] := List.ne_nil_of_length_eq_add_one hlength
  have hspan := h.span fun c (hc : c ∈ paddedDigits 6 micro) => isDigit_of_mem_paddedDigits hc
  have hvalue : digitsValue (paddedDigits 6 micro) = micro := by
    have hread := digits?_paddedDigits 6 micro
    unfold digits? at hread
    split at hread
    · exact Option.some.inj hread
    · cases hread
  simp only [fraction?, true_or, if_true, hspan, if_neg hne, List.take_of_length_le hlength.le,
    hlength, hvalue]
  simp

theorem clock?_text (c : Clock) {rest : List Char} (h : EndsClock rest) :
    clock? (c.text ++ rest) = some (c, rest) := by
  obtain ⟨h₁, h₂, hhour, hhour'⟩ := exists_pair_paddedDigits (c.hour_lt.trans (by decide))
  obtain ⟨m₁, m₂, hminute, hminute'⟩ := exists_pair_paddedDigits (c.minute_lt.trans (by decide))
  obtain ⟨s₁, s₂, hsecond, hsecond'⟩ := exists_pair_paddedDigits (c.second_lt.trans (by decide))
  have hmicro : fraction? ((if c.micro = 0 then [] else '.' :: paddedDigits 6 c.micro) ++ rest) =
      some (c.micro, rest) := by
    split
    · next hzero => rw [hzero, List.nil_append, fraction?_of_endsClock h]
    · exact fraction?_micros c.micro_lt h
  rw [Clock.text, hhour, hminute, hsecond]
  simp only [List.cons_append, List.nil_append, clock?, hhour', hminute', hsecond',
    Clock.ofParts?_parts, hmicro, bind, Option.bind, pure]

/-- An offset of whole minutes. -/
def Offset.InMinutes (o : Offset) : Prop := 60 ∣ o.seconds

def signMark (o : Offset) : Char := if o.seconds < 0 then '-' else '+'

theorem offsetSign?_signMark (o : Offset) (r : List Char) :
    offsetSign? (signMark o :: r) = some (decide (o.seconds < 0), r) := by
  unfold signMark
  split
  · next h => simp [offsetSign?, h]
  · next h => simp [offsetSign?, h]

theorem Offset.text_of_minutes {o : Offset} (h : o.InMinutes) :
    o.text = signMark o :: paddedDigits 2 (o.seconds.natAbs / 3600) ++
      ':' :: paddedDigits 2 (o.seconds.natAbs / 60 % 60) := by
  have hwhole : o.seconds.natAbs % 60 = 0 := by
    unfold InMinutes at h
    omega
  rw [Offset.text, if_pos hwhole, List.append_nil]
  rfl

theorem offsetOfParts?_minutes {o : Offset} (h : o.InMinutes) :
    offsetOfParts? (decide (o.seconds < 0)) (o.seconds.natAbs / 3600) (o.seconds.natAbs / 60 % 60) 0
      = some o := by
  have hlt := o.lt_day
  have hseconds : signed (decide (o.seconds < 0))
      (o.seconds.natAbs / 3600 * 3600 + o.seconds.natAbs / 60 % 60 * 60 + 0) = o.seconds := by
    unfold Offset.InMinutes at h
    unfold signed
    split
    · next hneg =>
      have := of_decide_eq_true hneg
      omega
    · next hpos =>
      have := of_decide_eq_false (Bool.not_eq_true _ ▸ hpos)
      omega
  rw [offsetOfParts?, if_pos ⟨Nat.mod_lt _ (by decide), by decide⟩, hseconds]
  exact dif_pos hlt

theorem zone?_text {o : Offset} (h : o.InMinutes) : zone? o.text = some (some o) := by
  have hlt := o.lt_day
  obtain ⟨h₁, h₂, hhour, hhour'⟩ :=
    exists_pair_paddedDigits (show o.seconds.natAbs / 3600 < 100 by omega)
  obtain ⟨m₁, m₂, hminute, hminute'⟩ :=
    exists_pair_paddedDigits (show o.seconds.natAbs / 60 % 60 < 100 by omega)
  have htext : o.text = [signMark o, h₁, h₂, ':', m₁, m₂] := by
    rw [Offset.text_of_minutes h, hhour, hminute]
    rfl
  rw [htext]
  unfold zone?
  split
  · next hnil => cases hnil
  · next hletter => simp at hletter
  · next hletter => simp at hletter
  · simp only [offsetSign?_signMark, hhour', hminute', offsetOfParts?_minutes h, bind, Option.bind,
      pure]

theorem EndsClock.offset (o : Offset) : EndsClock o.text := by
  intro c hc
  unfold Offset.text at hc
  split at hc
  · obtain rfl := Option.some.inj hc
    decide
  · obtain rfl := Option.some.inj hc
    decide

/-- A timestamp whose offset, if it has one, is of whole minutes. -/
def Timestamp.InMinutes (t : Timestamp) : Prop := ∀ o ∈ t.offset, o.InMinutes

def zoneText : Option Offset → List Char
  | some o => o.text
  | none => []

theorem Timestamp.text_eq (t : Timestamp) :
    t.text = t.date.text ++ ' ' :: (t.clock.text ++ zoneText t.offset) := by
  rw [Timestamp.text, List.append_assoc, List.cons_append]
  rfl

theorem withZone?_text {t : Timestamp} (h : t.InMinutes) : withZone? zone? t.text = some t := by
  have hends : EndsClock (zoneText t.offset) := by
    cases t.offset with
    | none => exact fun c hc => nomatch hc
    | some o => exact .offset o
  have hzone : zone? (zoneText t.offset) = some t.offset := by
    cases ho : t.offset with
    | none => rfl
    | some o => exact zone?_text (h o ho)
  simp only [withZone?, Timestamp.text_eq, readDate_text, Except.toOption, bind, Option.bind,
    clock?_text _ hends, hzone, pure, isDateEnd]
  rfl

theorem Timestamp.ofText_text {t : Timestamp} (h : t.InMinutes) : ofText t.text = .ok t := by
  rw [ofText, withZone?_text h]

section Ascii

theorem ascii_paddedDigits (width n : Nat) : ∀ c ∈ paddedDigits width n, c.toNat < 0x80 :=
  fun _ hc => (isDigit_iff.1 (isDigit_of_mem_paddedDigits hc)).2.trans_lt (by decide)

theorem Date.ascii_text (d : Date) : ∀ c ∈ d.text, c.toNat < 0x80 := by
  have hmark : '-'.toNat < 0x80 := by decide
  simp only [Date.text, List.forall_mem_append, List.forall_mem_cons, hmark, true_and]
  exact ⟨⟨ascii_paddedDigits _ _, ascii_paddedDigits _ _⟩, ascii_paddedDigits _ _⟩

theorem Clock.ascii_text (k : Clock) : ∀ c ∈ k.text, c.toNat < 0x80 := by
  have hmark : ':'.toNat < 0x80 := by decide
  have hpoint : '.'.toNat < 0x80 := by decide
  have hmicro : ∀ c ∈ if k.micro = 0 then [] else '.' :: paddedDigits 6 k.micro,
      c.toNat < 0x80 := by
    split
    · exact List.forall_mem_nil _
    · exact List.forall_mem_cons.2 ⟨hpoint, ascii_paddedDigits _ _⟩
  simp only [Clock.text, List.forall_mem_append, List.forall_mem_cons, hmark, true_and]
  exact ⟨⟨⟨ascii_paddedDigits _ _, ascii_paddedDigits _ _⟩, ascii_paddedDigits _ _⟩, hmicro⟩

theorem Offset.ascii_text (o : Offset) : ∀ c ∈ o.text, c.toNat < 0x80 := by
  have hmark : ':'.toNat < 0x80 := by decide
  have hsign : (if o.seconds < 0 then '-' else '+').toNat < 0x80 := by split <;> decide
  have hseconds : ∀ c ∈ if o.seconds.natAbs % 60 = 0 then [] else
      ':' :: paddedDigits 2 (o.seconds.natAbs % 60), c.toNat < 0x80 := by
    split
    · exact List.forall_mem_nil _
    · exact List.forall_mem_cons.2 ⟨hmark, ascii_paddedDigits _ _⟩
  simp only [Offset.text, List.cons_append, List.forall_mem_append, List.forall_mem_cons, hmark,
    true_and]
  exact ⟨hsign, ⟨ascii_paddedDigits _ _, ascii_paddedDigits _ _⟩, hseconds⟩

theorem Timestamp.ascii_text (t : Timestamp) : ∀ c ∈ t.text, c.toNat < 0x80 := by
  rw [Timestamp.text_eq]
  refine List.forall_mem_append.2 ⟨t.date.ascii_text, List.forall_mem_cons.2 ⟨by decide,
    List.forall_mem_append.2 ⟨t.clock.ascii_text, ?_⟩⟩⟩
  cases t.offset with
  | none => exact List.forall_mem_nil _
  | some o => exact o.ascii_text

end Ascii
section Read

variable {cs : List Char} {t : Timestamp}

theorem inMinutes_of_parts {behind : Bool} {hours minutes : Nat} {o : Offset}
    (h : offsetOfParts? behind hours minutes 0 = some o) : o.InMinutes := by
  unfold offsetOfParts? Offset.ofSeconds? at h
  split at h
  · split at h
    · cases h
      show 60 ∣ signed behind (hours * 3600 + minutes * 60 + 0)
      unfold signed
      split <;> omega
    · cases h
  · cases h

/-- Offsets are read in hours and minutes. -/
theorem inMinutes_of_zone? {offset : Option Offset} (h : zone? cs = some offset) :
    ∀ o ∈ offset, o.InMinutes := by
  have hparts (behind : Bool) (hours minutes : List Char)
      (h : ((digits? hours).bind fun hours => (digits? minutes).bind fun minutes =>
        (offsetOfParts? behind hours minutes 0).bind fun o => some (some o)) = some offset) :
      ∀ o ∈ offset, o.InMinutes := by
    obtain ⟨_, -, h⟩ := Option.bind_eq_some_iff.1 h
    obtain ⟨_, -, h⟩ := Option.bind_eq_some_iff.1 h
    obtain ⟨o, ho, h⟩ := Option.bind_eq_some_iff.1 h
    cases h
    rintro _ ⟨⟩
    exact inMinutes_of_parts ho
  unfold zone? at h
  split at h
  · cases h
    exact fun o ho => nomatch ho
  · cases h
    rintro _ ⟨⟩
    exact Int.dvd_zero 60
  · cases h
    rintro _ ⟨⟩
    exact Int.dvd_zero 60
  · obtain ⟨⟨behind, r⟩, -, h⟩ := Option.bind_eq_some_iff.1 h
    dsimp only at h
    split at h
    · exact hparts _ _ _ h
    · exact hparts _ _ _ h
    · cases h

theorem Timestamp.InMinutes.of_date (d : Date) : (Timestamp.ofDate d).InMinutes :=
  fun _ ho => nomatch ho

theorem Timestamp.InMinutes.of_date_text (h : ofDateText cs = .ok t) : t.InMinutes := by
  unfold ofDateText at h
  split at h
  · cases h
    exact .of_date _
  · cases h
  · cases h

theorem Timestamp.InMinutes.of_zone (h : withZone? zone? cs = some t) : t.InMinutes := by
  obtain ⟨⟨date, rest⟩, -, h⟩ := Option.bind_eq_some_iff.1 h
  dsimp only at h
  split at h
  · split at h
    · obtain ⟨_, -, h⟩ := Option.bind_eq_some_iff.1 h
      obtain ⟨offset, hzone, h⟩ := Option.bind_eq_some_iff.1 h
      cases h
      exact inMinutes_of_zone? hzone
    · cases h
  · cases h

theorem Timestamp.InMinutes.of_unix {seconds : Int} {micro : Nat}
    (h : ofUnix seconds micro = .ok t) : t.InMinutes := by
  unfold ofUnix at h
  dsimp only at h
  split at h
  · cases h
  · split at h
    · cases h
      rintro _ ⟨⟩
      exact Int.dvd_zero 60
    · cases h

theorem Timestamp.InMinutes.of_count {n : Int} (h : ofCount n = .ok t) : t.InMinutes := by
  unfold ofCount at h
  split at h
  · exact .of_unix h
  · exact .of_unix h

theorem Timestamp.InMinutes.of_seconds {x : Number.Binary64} (h : ofSeconds x = .ok t) :
    t.InMinutes := by
  unfold ofSeconds at h
  split at h
  · exact .of_unix h
  · cases h

theorem Timestamp.InMinutes.of_float {x : Number.Binary64} (h : ofFloat? x = some (.ok t)) :
    t.InMinutes := by
  cases x with
  | nan => cases h
  | infinite negative => cases h
  | finite negative mantissa exponent => exact .of_seconds (Option.some.inj h)

/-- Whichever way a text denotes a timestamp, its offset is of whole minutes. -/
theorem Timestamp.InMinutes.of_text (h : ofText cs = .ok t) : t.InMinutes := by
  unfold ofText at h
  split at h
  · next hfull =>
    cases h
    exact .of_zone hfull
  · split at h
    · next n _ =>
      cases hn : ofCount n with
      | error fault =>
        rw [hn] at h
        cases h
      | ok t' =>
        rw [hn] at h
        cases h
        exact .of_count hn
    · split at h
      · next hfloat =>
        cases h
        obtain ⟨x, -, hx⟩ := Option.bind_eq_some_iff.1 hfloat
        exact .of_float hx
      · exact .of_date_text h

end Read

end StorageLedger.Calendar
