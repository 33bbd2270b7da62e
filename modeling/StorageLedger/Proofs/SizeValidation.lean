import Mathlib.Algebra.Order.Field.Power
import StorageLedger.Proofs.NumeralReading
import StorageLedger.Proofs.TransactionBracket
import StorageLedger.Proofs.Utf8
import StorageLedger.Proofs.Validation

namespace StorageLedger.Number
open StorageLedger.Text

def scaledValue (base : Nat) (negative : Bool) (coefficient : Nat) (exponent : Int) : ℚ :=
  if negative then -(coefficient * (base : ℚ) ^ exponent) else coefficient * (base : ℚ) ^ exponent

section Scaled

variable {base coefficient : Nat} {negative : Bool} {exponent n : Int}

theorem mul_zpow_eq_div (base coefficient : Nat) (exponent : Int) :
    (coefficient * (base : ℚ) ^ exponent : ℚ) =
      (coefficient * base ^ exponent.toNat : Nat) / (base ^ (-exponent).toNat : Nat) := by
  rcases Int.le_total 0 exponent with h | h
  · obtain ⟨k, rfl⟩ := Int.eq_ofNat_of_zero_le h
    simp
  · obtain ⟨k, hk⟩ := Int.eq_ofNat_of_zero_le (Int.neg_nonneg_of_nonpos h)
    obtain rfl : exponent = -k := by omega
    simp [div_eq_mul_inv]

theorem mul_zpow_eq_int_iff (hb : 0 < base) :
    (coefficient * (base : ℚ) ^ exponent : ℚ) = n ↔
      base ^ (-exponent).toNat ∣ coefficient * base ^ exponent.toNat ∧
        n = (coefficient * base ^ exponent.toNat / base ^ (-exponent).toNat : Nat) := by
  have hpos : 0 < base ^ (-exponent).toNat := Nat.pow_pos hb
  have hne : ((base ^ (-exponent).toNat : Nat) : ℚ) ≠ 0 := by exact_mod_cast hpos.ne'
  rw [mul_zpow_eq_div, div_eq_iff hne]
  generalize coefficient * base ^ exponent.toNat = num at *
  generalize base ^ (-exponent).toNat = den at *
  constructor
  · intro h
    have hint : (num : Int) = n * den := by exact_mod_cast h
    have hdvd : den ∣ num := Int.natCast_dvd_natCast.1 ⟨n, by rw [hint, Int.mul_comm]⟩
    refine ⟨hdvd, ?_⟩
    rw [Int.natCast_ediv, hint, Int.mul_ediv_cancel _ (by exact_mod_cast hpos.ne')]
  · rintro ⟨hdvd, rfl⟩
    exact_mod_cast (Nat.div_mul_cancel hdvd).symm

theorem scaledValue_eq_int_iff (hb : 0 < base) :
    scaledValue base negative coefficient exponent = n ↔
      base ^ (-exponent).toNat ∣ coefficient * base ^ exponent.toNat ∧
        n = signed negative (coefficient * base ^ exponent.toNat / base ^ (-exponent).toNat) := by
  unfold scaledValue signed
  cases negative with
  | false => exact mul_zpow_eq_int_iff hb
  | true =>
    rw [if_pos rfl, if_pos rfl, neg_eq_iff_eq_neg, ← Int.cast_neg, mul_zpow_eq_int_iff hb,
      Int.neg_eq_comm, eq_comm (a := n)]

theorem Binary64.whole?_eq_some :
    (Binary64.finite negative coefficient exponent).whole? = some n ↔
      scaledValue 2 negative coefficient exponent = n := by
  rw [scaledValue_eq_int_iff (by decide)]
  have hratio : (Binary64.finite negative coefficient exponent).toRatio? =
      some (signed negative (coefficient * 2 ^ exponent.toNat), 2 ^ (-exponent).toNat) := rfl
  have hpos : 0 < 2 ^ (-exponent).toNat := Nat.pow_pos (by decide)
  rw [whole?, hratio, Option.bind_some]
  generalize coefficient * 2 ^ exponent.toNat = num
  generalize 2 ^ (-exponent).toNat = den at *
  have hdvd : (den : Int) ∣ signed negative num ↔ den ∣ num := by
    cases negative with
    | false => exact Int.natCast_dvd_natCast
    | true => exact (Int.dvd_neg).trans Int.natCast_dvd_natCast
  have hdiv (h : den ∣ num) : signed negative num / den = signed negative (num / den) := by
    cases negative with
    | false => exact (Int.natCast_ediv num den).symm
    | true =>
      refine (Int.neg_ediv_of_dvd (Int.natCast_dvd_natCast.2 h)).trans ?_
      rw [← Int.natCast_ediv]
      rfl
  simp only [← Int.dvd_iff_emod_eq_zero, hdvd]
  split
  · next h => rw [hdiv h, Option.some.injEq, eq_comm, and_iff_right h]
  · next h => simp [h]

/-- A multiple of a power of ten has three binary digits for every factor, so the digits are
counted first. -/
theorem Decimal.isMultiple_iff {k : Nat} :
    isMultiple coefficient k = true ↔ 10 ^ k ∣ coefficient := by
  unfold isMultiple
  simp only [Bool.or_eq_true, Bool.and_eq_true, beq_iff_eq, decide_eq_true_eq]
  constructor
  · rintro (rfl | ⟨-, h⟩)
    · exact Nat.dvd_zero _
    · exact Nat.dvd_of_mod_eq_zero h
  · intro h
    by_cases hc : coefficient = 0
    · exact .inl hc
    refine .inr ⟨(Nat.le_log2 hc).2 ?_, Nat.mod_eq_zero_of_dvd h⟩
    calc 2 ^ (3 * k) = 8 ^ k := by rw [Nat.pow_mul]
      _ ≤ 10 ^ k := Nat.pow_le_pow_left (by decide) k
      _ ≤ coefficient := Nat.le_of_dvd (Nat.pos_of_ne_zero hc) h

theorem Decimal.shiftDown_eq {k : Nat} : shiftDown coefficient k = coefficient / 10 ^ k := by
  unfold shiftDown
  split
  · next hfew =>
    have hsmall : coefficient < 10 ^ k := by
      calc coefficient < 2 ^ (coefficient.log2 + 1) := Nat.lt_log2_self
        _ ≤ 2 ^ (3 * k) := Nat.pow_le_pow_right (by decide) hfew
        _ = 8 ^ k := by rw [Nat.pow_mul]
        _ ≤ 10 ^ k := Nat.pow_le_pow_left (by decide) k
    rw [Nat.div_eq_of_lt hsmall]
  · rfl

theorem Decimal.whole?_eq_some :
    (Decimal.finite negative coefficient exponent).whole? = some n ↔
      scaledValue 10 negative coefficient exponent = n := by
  rw [scaledValue_eq_int_iff (by decide), whole?, truncateMagnitude]
  by_cases he : 0 ≤ exponent
  · have hzero : (-exponent).toNat = 0 := by omega
    rw [if_pos (.inl he), if_pos he, hzero, Option.some.injEq, Nat.pow_zero, Nat.div_one, eq_comm]
    exact (and_iff_right (Nat.one_dvd _)).symm
  · have hzero : exponent.toNat = 0 := by omega
    simp only [if_neg he, hzero, Nat.pow_zero, Nat.mul_one, isMultiple_iff, or_iff_right he]
    split
    · next h => rw [shiftDown_eq, Option.some.injEq, eq_comm, and_iff_right h]
    · next h => simp [h]

end Scaled

end StorageLedger.Number

namespace StorageLedger
open StorageLedger.Text StorageLedger.Number StorageLedger.Validation

/-- The number that a value denotes. A text denotes what it is a numeral of, and octets denote what
their text does; nothing else and no undefined or infinite number denotes any. -/
inductive Value.Denotes : Value → ℚ → Prop where
  | bool : Denotes (.bool b) (if b then 1 else 0)
  | int : Denotes (.int n) n
  | float : Denotes (.float (.finite negative mantissa exponent))
      (scaledValue 2 negative mantissa exponent)
  | decimal : Denotes (.decimal (.finite negative coefficient exponent))
      (scaledValue 10 negative coefficient exponent)
  | text (t : DecimalText) (h : t.Spelling s.toList) : Denotes (.text s) t.value
  | bytes (t : DecimalText) (h : t.Spelling cs) (hbs : bs = octets cs) : Denotes (.bytes bs) t.value

theorem Value.Denotes.unique {v : Value} {q q' : ℚ} (h : v.Denotes q) (h' : v.Denotes q') :
    q = q' := by
  cases h with
  | bool => cases h'; rfl
  | int => cases h'; rfl
  | float => cases h'; rfl
  | decimal => cases h'; rfl
  | text t ht =>
    cases h' with
    | text t' ht' => rw [ht.value_eq, ht'.value_eq]
  | bytes t ht hbs =>
    cases h' with
    | bytes t' ht' hbs' =>
      have hsame := (decode?_eq_some.2 hbs).symm.trans (decode?_eq_some.2 hbs')
      rw [ht.value_eq, ht'.value_eq, Option.some.inj hsame]

namespace Validation

theorem integer_denotes {v : Value} {n : Int} (h : integer v = .ok n) : v.Denotes n := by
  cases v with
  | bool b =>
    cases h
    cases b <;> exact_mod_cast Value.Denotes.bool
  | int m =>
    cases h
    exact .int
  | float x =>
    cases x with
    | finite negative mantissa exponent =>
      simp only [integer, integerOfFloat] at h
      split at h
      · next m hm =>
        split at h
        · cases h
          rw [← Binary64.whole?_eq_some.1 hm]
          exact .float
        · cases h
      · cases h
    | _ => cases h
  | decimal d =>
    cases d with
    | finite negative coefficient exponent =>
      simp only [integer, integerOfDecimal] at h
      split at h
      · next m hm =>
        cases h
        rw [← Decimal.whole?_eq_some.1 hm]
        exact .decimal
      · cases h
    | _ => cases h
  | text s =>
    obtain ⟨t, ht, hvalue⟩ := DecimalText.exists_of_integerOfText h
    rw [← hvalue]
    exact .text t ht
  | bytes bs =>
    simp only [integer] at h
    split at h
    · next cs hcs =>
      obtain ⟨t, ht, hvalue⟩ := DecimalText.exists_of_integerOfText h
      rw [← hvalue]
      exact .bytes t ht (decode?_eq_some.1 hcs)
    · cases h
  | _ => cases h

theorem integer_of_denotes {v : Value} {q : ℚ} {n : Int} (h : v.Denotes q) (hq : q = n)
    (hn : 0 ≤ n ∧ n ≤ maxSize) : integer v = .ok n := by
  obtain ⟨hfloat, htext⟩ := natAbs_lt_of_bounds hn
  cases h with
  | @bool b =>
    cases b
    · obtain rfl : n = 0 := by exact_mod_cast hq.symm
      rfl
    · obtain rfl : n = 1 := by exact_mod_cast hq.symm
      rfl
  | int =>
    obtain rfl := Int.cast_injective hq
    rfl
  | float =>
    simp only [integer, integerOfFloat, Binary64.whole?_eq_some.2 hq]
    exact if_pos hfloat
  | decimal => simp only [integer, integerOfDecimal, Decimal.whole?_eq_some.2 hq]
  | text t ht => exact ht.integerOfText_eq hq (by decide) htext (by decide)
  | bytes t ht hbs =>
    simp only [integer, decode?_eq_some.2 hbs]
    exact ht.integerOfText_eq hq (by decide) htext (by decide)

/-- A value is accepted as a size exactly if it denotes an integer within bounds, which is then the
size. -/
theorem size_eq_ok_iff {v : Value} {n : Int} :
    size v = .ok n ↔ v.Denotes n ∧ 0 ≤ n ∧ n ≤ maxSize := by
  rw [size_eq_ok_iff_integer]
  constructor
  · rintro ⟨hread, hbounds⟩
    exact ⟨integer_denotes hread, hbounds⟩
  · rintro ⟨hdenotes, hbounds⟩
    exact ⟨integer_of_denotes hdenotes rfl hbounds, hbounds⟩

theorem fileSize_eq_ok_iff {v : Value} {n : Int} :
    fileSize v = .ok n ↔ v.Denotes n ∧ 0 ≤ n ∧ n ≤ maxSize := by
  rw [← size_eq_ok_iff, fileSize]
  cases size v with
  | error complaint => simp only [Except.mapError, reduceCtorEq]
  | ok m => simp only [Except.mapError, Except.ok.injEq]

theorem fileSize_of_denotes {v : Value} {n : Int} (h : v.Denotes n) :
    (0 ≤ n ∧ n ≤ maxSize → fileSize v = .ok n) ∧
      (¬ (0 ≤ n ∧ n ≤ maxSize) → ∃ r, fileSize v = .error r) := by
  refine ⟨fun hbounds => fileSize_eq_ok_iff.2 ⟨h, hbounds⟩, fun hbounds => ?_⟩
  cases hv : fileSize v with
  | error r => exact ⟨r, rfl⟩
  | ok m =>
    obtain ⟨hm, hm'⟩ := fileSize_eq_ok_iff.1 hv
    obtain rfl : m = n := Int.cast_injective (hm.unique h)
    exact absurd hm' hbounds

theorem denotes_text_of_int (n : Int) : (Value.text (toString n)).Denotes n := by
  rw [← DecimalText.value_ofInt n]
  exact .text _ (DecimalText.chars_ofInt n ▸ DecimalText.spelling_chars _)

end Validation

namespace Ledger
open StorageLedger.Store

variable {store : Store} {handle : Handle} {fault : Option Fault} {c : Call}

theorem Session.call_run (s : Session) :
    (s.call store c handle fault).2 = c.run store handle fault (s.rowsFor handle) := by
  by_cases h : handle = .engine
  · subst h
    rfl
  · rw [Session.call, if_neg h, Session.callCaller, Session.rowsFor, if_neg h,
      Session.visible_eq_opened]
    dsimp only
    split <;> rfl

theorem Session.call_answer (s : Session) (h : c.plan handle = .answer result) :
    s.call store c handle fault = (s, ⟨[], [], c.openingLogs ++ [], result, s.rowsFor handle⟩) := by
  by_cases hh : handle = .engine
  · rw [Session.call, if_pos hh, Session.callEngine, Session.rowsFor, if_pos hh, ← hh,
      Call.run_answer h]
  · rw [Session.call, if_neg hh, Session.callCaller, Session.rowsFor, if_neg hh,
      Session.visible_eq_opened, Call.run_answer h]
    rfl

theorem Call.run_upsert_not_rejected {t : Table} (h : fileSize v = .ok n) (r : Rejection) :
    ((Call.upsert w fileId fileType v).run store handle fault t).result ≠ .error (.rejected r) := by
  have hplan : (Call.upsert w fileId fileType v).plan handle =
      .send [.upsert w fileId fileType n] .ok fun reply =>
        (.ok .nothing, upsertLogs w fileId reply.affectedRows) := by
    simp only [Call.plan, h]
  intro hrejected
  cases hwork : (carryOut handle fault (performRead store (faultAt fault .execute)
      [.upsert w fileId fileType n] .ok) t).result with
  | ok reply =>
    obtain ⟨hresult, -⟩ := Call.run_of_reply hplan hwork
    cases hresult.symm.trans hrejected
  | error failure =>
    obtain ⟨hresult, -⟩ := Call.run_of_failure hplan hwork
    have hstore := (Call.upsert w fileId fileType v).errorOf_ofStore failure
    rw [Except.error.inj (hresult.symm.trans hrejected)] at hstore
    cases hstore

theorem Call.statements_upsert {t : Table} (h : fileSize v = .ok n) :
    ((Call.upsert w fileId fileType v).run store handle fault t).statements =
      if handle = .engine ∧ faultAt fault .connect ≠ none then []
      else [.upsert w fileId fileType n] := by
  have hsends : (Call.upsert w fileId fileType v).Sends handle (.upsert w fileId fileType n) :=
    .upsert h
  by_cases hh : handle = .engine
  · subst hh
    by_cases hf : faultAt fault .connect = none
    · rw [if_neg (fun hboth => hboth.2 hf)]
      by_cases hc : (Call.upsert w fileId fileType v).Completes store fault t
          (.upsert w fileId fileType n)
      · exact (hsends.trace_of_completes hf hc).2
      · exact (hsends.trace_of_not_completes hf hc).2
    · rw [if_pos ⟨rfl, hf⟩]
      exact (hsends.trace_of_connect_fault hf).2
  · rw [if_neg (fun hboth => hh hboth.1)]
    exact (hsends.trace_of_caller hh).2

/-- Size validation keeps numbers as they are. A value is accepted as a size exactly if it denotes
an integer within bounds, and the size is that integer; what a value denotes is unique. So every
integer within bounds is accepted, as a number and in its plain text, and no other integer is. An
upsert through any handle is rejected exactly if its size is, and then nothing has happened; else
the statement that it sends carries the size, unless no connection was made. -/
theorem Session.upsert_size_is_exact (s : Session) (store : Store) (handle : Handle)
    (fault : Option Fault) (w : WorkspaceId) (fileId fileType : String) (v : Value) :
    (∀ n, fileSize v = .ok n ↔ v.Denotes n ∧ 0 ≤ n ∧ n ≤ maxSize) ∧
    (∀ q q', v.Denotes q → v.Denotes q' → q = q') ∧
    (∀ n : Int,
      (0 ≤ n ∧ n ≤ maxSize →
        fileSize (.int n) = .ok n ∧ fileSize (.text (toString n)) = .ok n) ∧
      (¬ (0 ≤ n ∧ n ≤ maxSize) →
        (∃ r, fileSize (.int n) = .error r) ∧ ∃ r, fileSize (.text (toString n)) = .error r)) ∧
    let called := s.call store (.upsert w fileId fileType v) handle fault
    ((∃ r, called.2.result = .error (.rejected r)) ↔ ∃ r, fileSize v = .error r) ∧
    (∀ r, fileSize v = .error r →
      called.2.result = .error (.rejected r) ∧ called.2.events = [] ∧ called.2.statements = [] ∧
        called.2.logs = [] ∧ called.1 = s) ∧
    ∀ n, fileSize v = .ok n →
      (called.2.statements =
        if handle = .engine ∧ faultAt fault .connect ≠ none then []
        else [.upsert w fileId fileType n]) ∧
      ∀ statement ∈ called.2.statements, ("file_size", .integer n) ∈ statement.parameters := by
  refine ⟨fun n => fileSize_eq_ok_iff, fun _ _ => Value.Denotes.unique, fun n => ?_, ?_⟩
  · obtain ⟨hint, hint'⟩ := fileSize_of_denotes (v := .int n) .int
    obtain ⟨htext, htext'⟩ := fileSize_of_denotes (denotes_text_of_int n)
    exact ⟨fun h => ⟨hint h, htext h⟩, fun h => ⟨hint' h, htext' h⟩⟩
  intro called
  have hrejected (r : Rejection) (h : fileSize v = .error r) :
      called.2.result = .error (.rejected r) ∧ called.2.events = [] ∧ called.2.statements = [] ∧
        called.2.logs = [] ∧ called.1 = s := by
    have hplan : (Call.upsert w fileId fileType v).plan handle =
        .answer (.error (.rejected r)) := by
      simp only [Call.plan, h]
    have hcall : called = _ := s.call_answer hplan
    rw [hcall]
    exact ⟨rfl, rfl, rfl, rfl, rfl⟩
  refine ⟨⟨?_, ?_⟩, hrejected, fun n h => ?_⟩
  · rintro ⟨r, hr⟩
    cases hv : fileSize v with
    | error r' => exact ⟨r', rfl⟩
    | ok n => exact absurd (s.call_run ▸ hr) (Call.run_upsert_not_rejected hv r)
  · rintro ⟨r, h⟩
    exact ⟨r, (hrejected r h).1⟩
  · have hstatements : called.2.statements = _ := (congrArg Run.statements s.call_run).trans
      (Call.statements_upsert h)
    refine ⟨hstatements, fun statement hmem => ?_⟩
    rw [hstatements] at hmem
    split at hmem
    · cases hmem
    · rw [List.mem_singleton.1 hmem]
      simp [Statement.parameters]

theorem Session.upsert_of_size_texts :
    let w : WorkspaceId := ⟨7, by decide⟩
    let store : Store := { now := clockZero }
    let put (v : Value) := Session.start.call store (.upsert w "o_a" "text/plain" v) .engine none
    (fileSize (.text " +1_000.00") = .ok 1000 ∧ (Value.text " +1_000.00").Denotes 1000) ∧
      (put (.text " +1_000.00")).2.statements = [.upsert w "o_a" "text/plain" 1000] ∧
      (∃ r, fileSize (.text "9223372036854775808") = .error r) ∧
      (put (.text "9223372036854775808")).1 = Session.start := by
  intro w store put
  have hsize : fileSize (.text " +1_000.00") = .ok 1000 := rfl
  obtain ⟨hexact, -, hintegers, -, -, hsent⟩ := Session.upsert_size_is_exact .start store .engine
    none w "o_a" "text/plain" (.text " +1_000.00")
  obtain ⟨-, -, -, -, hrefused, -⟩ := Session.upsert_size_is_exact .start store .engine none w "o_a"
    "text/plain" (.text "9223372036854775808")
  obtain ⟨-, r, hr⟩ := (hintegers 9223372036854775808).2 (by decide)
  refine ⟨⟨hsize, ?_⟩, (hsent 1000 hsize).1, ⟨r, hr⟩, (hrefused r hr).2.2.2.2⟩
  exact_mod_cast ((hexact 1000).1 hsize).1

end Ledger
end StorageLedger
