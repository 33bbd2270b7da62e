import StorageLedger.Json.Token
import StorageLedger.Json.Writer
import StorageLedger.Proofs.DecimalText
import StorageLedger.Proofs.Utf8

namespace StorageLedger.Json
open StorageLedger.Text StorageLedger.Number

def IsGap (cs : List Char) : Prop := ∀ c ∈ cs, c ∈ [' ', '\t', '\n', '\r']

/-- Four hexadecimal digits, in either case, of a number. -/
inductive CodeUnit : Nat → List Char → Prop where
  | mk (hw : hexDigit? a = some w) (hx : hexDigit? b = some x) (hy : hexDigit? c = some y)
    (hz : hexDigit? d = some z) : CodeUnit (((w * 16 + x) * 16 + y) * 16 + z) [a, b, c, d]

def escapeLetters : List (Char × Char) :=
  [('"', '"'), ('\\', '\\'), ('/', '/'), ('b', '\x08'), ('f', '\x0C'), ('n', '\n'), ('r', '\r'),
    ('t', '\t')]

/-- A character as it may be written between quotes. -/
inductive SpelledChar : Char → List Char → Prop where
  | itself (hcontrol : 0x20 ≤ c.toNat) (hquote : c ≠ '"') (hbackslash : c ≠ '\\') :
    SpelledChar c [c]
  | letter (h : (l, c) ∈ escapeLetters) : SpelledChar c ['\\', l]
  | unit (h : CodeUnit c.toNat ds) : SpelledChar c ('\\' :: 'u' :: ds)
  | pair (hlead : CodeUnit (0xD800 + high) ds) (htrail : CodeUnit (0xDC00 + low) ds')
    (hhigh : high < 0x400) (hlow : low < 0x400) (hc : c.toNat = 0x10000 + high * 0x400 + low) :
    SpelledChar c ('\\' :: 'u' :: (ds ++ '\\' :: 'u' :: ds'))

inductive SpelledChars : List Char → List Char → Prop where
  | nil : SpelledChars [] []
  | cons (hc : SpelledChar c piece) (rest : SpelledChars cs written) :
    SpelledChars (c :: cs) (piece ++ written)

inductive SpelledText : String → List Char → Prop where
  | quoted (h : SpelledChars s.toList written) : SpelledText s ('"' :: (written ++ ['"']))

/-- The digits in front of a fraction. They start with zero only if there is no other. -/
inductive WholeDigits : List Char → Prop where
  | zero : WholeDigits ['0']
  | positive (hd : isDigit d = true) (hne : d ≠ '0') (hds : ∀ c ∈ ds, isDigit c = true) :
    WholeDigits (d :: ds)

/-- The digits of a fraction, and the fraction with its point. -/
inductive FractionPart : List Char → List Char → Prop where
  | absent : FractionPart [] []
  | digits (hne : ds ≠ []) (hds : ∀ c ∈ ds, isDigit c = true) : FractionPart ds ('.' :: ds)

inductive PowerPart : Int → List Char → Prop where
  | absent : PowerPart 0 []
  | digits (he : e = 'e' ∨ e = 'E') (sign : Sign) (hne : ds ≠ [])
    (hds : ∀ c ∈ ds, isDigit c = true) :
    PowerPart (signed sign.negative (digitsValue ds)) (e :: (sign.chars ++ ds))

def minusMark (negative : Bool) : List Char := if negative then ['-'] else []

/-- A number as it may be written. One without a fraction and a power is an integer; any other is
the floating-point number nearest to it. -/
inductive SpelledNumber (limits : Limits) : Json → List Char → Prop where
  | int (hds : WholeDigits ds)
    (hlength : (minusMark negative ++ ds).length ≤ limits.integerLength) :
    SpelledNumber limits (.int (signed negative (digitsValue ds))) (minusMark negative ++ ds)
  | float (hds : WholeDigits ds)
    (hlength : (minusMark negative ++ ds).length ≤ limits.integerLength)
    (hfraction : FractionPart fs fraction) (hpower : PowerPart e power)
    (hne : fraction ++ power ≠ []) :
    SpelledNumber limits
      (.float (Decimal.finite negative (digitsValue (ds ++ fs)) (e - fs.length)).toBinary64)
      (minusMark negative ++ (ds ++ (fraction ++ power)))

/-- What a stretch of a text holds. -/
inductive Part where
  | value (v : Json)
  | items (vs : List Json)
  | members (ms : List (String × Json))

/-- The texts of values, of the items of a list and of the members of an object, with the number of
lists and objects that are open around. -/
inductive Spelled (limits : Limits) : (around : Nat) → Part → List Char → Prop where
  | nullWord (hd : d ≤ limits.depth) : Spelled limits d (.value .null) "null".toList
  | trueWord (hd : d ≤ limits.depth) : Spelled limits d (.value (.bool true)) "true".toList
  | falseWord (hd : d ≤ limits.depth) : Spelled limits d (.value (.bool false)) "false".toList
  | number (hd : d ≤ limits.depth) (h : SpelledNumber limits v cs) : Spelled limits d (.value v) cs
  | text (hd : d ≤ limits.depth) (h : SpelledText s cs) : Spelled limits d (.value (.text s)) cs
  | emptyList (hd : d ≤ limits.depth) (hgap : IsGap gap) :
    Spelled limits d (.value (.list [])) ('[' :: (gap ++ [']']))
  | list (hd : d ≤ limits.depth) (h : Spelled limits (d + 1) (.items vs) cs) :
    Spelled limits d (.value (.list vs)) ('[' :: (cs ++ [']']))
  | emptyObject (hd : d ≤ limits.depth) (hgap : IsGap gap) :
    Spelled limits d (.value (.object [])) ('\x7b' :: (gap ++ ['\x7d']))
  | object (hd : d ≤ limits.depth) (h : Spelled limits (d + 1) (.members ms) cs) :
    Spelled limits d (.value (.object ms)) ('\x7b' :: (cs ++ ['\x7d']))
  | between (hlead : IsGap lead) (h : Spelled limits d (.value v) cs) (htail : IsGap tail) :
    Spelled limits d (.value v) (lead ++ (cs ++ tail))
  | item (h : Spelled limits d (.value v) cs) : Spelled limits d (.items [v]) cs
  | items (h : Spelled limits d (.value v) cs) (rest : Spelled limits d (.items vs) cs') :
    Spelled limits d (.items (v :: vs)) (cs ++ ',' :: cs')
  | member (hlead : IsGap lead) (hname : SpelledText name written) (htail : IsGap tail)
    (h : Spelled limits d (.value v) cs) :
    Spelled limits d (.members [(name, v)]) (lead ++ (written ++ (tail ++ ':' :: cs)))
  | members (hlead : IsGap lead) (hname : SpelledText name written) (htail : IsGap tail)
    (h : Spelled limits d (.value v) cs) (rest : Spelled limits d (.members ms) cs') :
    Spelled limits d (.members ((name, v) :: ms))
      (lead ++ (written ++ (tail ++ ':' :: (cs ++ ',' :: cs'))))

/-- A text of a value. -/
def IsText (limits : Limits) (v : Json) (cs : List Char) : Prop := Spelled limits 0 (.value v) cs

section Written

theorem codeUnit_hexDigits {n : Nat} (h : n < 0x10000) : CodeUnit n (hexDigits 4 n) := by
  have hdigit (m : Nat) : hexDigit? (hexChar (m % 16)) = some (m % 16) :=
    hexDigit?_hexChar (Nat.mod_lt m (by decide))
  have hn : n =
      ((n / 16 / 16 / 16 % 16 * 16 + n / 16 / 16 % 16) * 16 + n / 16 % 16) * 16 + n % 16 := by
    omega
  have hunit := CodeUnit.mk (hdigit (n / 16 / 16 / 16)) (hdigit (n / 16 / 16)) (hdigit (n / 16))
    (hdigit n)
  rwa [← hn] at hunit

theorem spelledChar_write (c : Char) : SpelledChar c (writeChar c) := by
  have hlt := toNat_lt_of_valid c
  unfold writeChar
  split
  · next h => rcases h with rfl | rfl <;> exact .letter (by decide)
  · next hmark =>
    split
    · next h => exact .itself h.1 (fun hc => hmark (.inl hc)) (fun hc => hmark (.inr hc))
    · split
      · next h => exact .unit (codeUnit_hexDigits h)
      · next h =>
        have hhigh : (c.toNat - 0x10000) / 0x400 < 0x400 := by omega
        have hlow : (c.toNat - 0x10000) % 0x400 < 0x400 := Nat.mod_lt _ (by decide)
        exact .pair (codeUnit_hexDigits (by omega)) (codeUnit_hexDigits (by omega)) hhigh hlow
          (by omega)

theorem spelledText_write (s : String) : SpelledText s (writeText s) := by
  refine .quoted ?_
  induction s.toList with
  | nil => exact .nil
  | cons c cs ih => exact .cons (spelledChar_write c) ih

end Written

mutual

/-- All texts of a value keep within the limits. A floating-point number has texts of any length, an
integer has none with zeros in front. -/
def Fits (limits : Limits) (around : Nat) : Json → Prop
  | .float _ => False
  | .int n => around ≤ limits.depth ∧ 2 ≤ limits.integerLength ∧
      n.natAbs < 10 ^ (limits.integerLength - 1)
  | .list vs => around ≤ limits.depth ∧ ItemsFit limits (around + 1) vs
  | .object ms => around ≤ limits.depth ∧ MembersFit limits (around + 1) ms
  | _ => around ≤ limits.depth

def ItemsFit (limits : Limits) (around : Nat) : List Json → Prop
  | [] => True
  | v :: vs => Fits limits around v ∧ ItemsFit limits around vs

def MembersFit (limits : Limits) (around : Nat) : List (String × Json) → Prop
  | [] => True
  | (_, v) :: ms => Fits limits around v ∧ MembersFit limits around ms

end

def Part.Fits (limits : Limits) (around : Nat) : Part → Prop
  | .value v => Json.Fits limits around v
  | .items vs => ItemsFit limits around vs
  | .members ms => MembersFit limits around ms

theorem membersFit_iff {limits : Limits} {d : Nat} {ms : List (String × Json)} :
    MembersFit limits d ms ↔ ∀ m ∈ ms, Fits limits d m.2 := by
  induction ms with
  | nil => simp [MembersFit]
  | cons m ms ih => rw [MembersFit, ih, List.forall_mem_cons]

theorem WholeDigits.length_le {ds : List Char} {k : Nat} (h : WholeDigits ds) (hk : 0 < k)
    (hvalue : digitsValue ds < 10 ^ k) : ds.length ≤ k := by
  cases h with
  | zero => exact hk
  | positive hd hne hds =>
    have hle := Nat.lt_of_le_of_lt (pow_le_digitsValue hd hne _) hvalue
    exact (Nat.pow_lt_pow_iff_right (by decide)).1 hle

theorem natAbs_signed (negative : Bool) (n : Nat) : (signed negative n).natAbs = n := by
  cases negative
  · exact Int.natAbs_natCast n
  · exact (Int.natAbs_neg _).trans (Int.natAbs_natCast n)

/-- A value whose texts keep within some limits is spelled within them. -/
theorem Spelled.of_fits {limits limits' : Limits} {d : Nat} {part : Part} {cs : List Char}
    (h : Spelled limits d part cs) (hfits : part.Fits limits' d) : Spelled limits' d part cs := by
  induction h with
  | nullWord _ => exact .nullWord hfits
  | trueWord _ => exact .trueWord hfits
  | falseWord _ => exact .falseWord hfits
  | number _ h =>
    cases h with
    | @int ds negative hds _ =>
      obtain ⟨hd, htwo, hsmall⟩ := hfits
      rw [natAbs_signed] at hsmall
      have hlength := hds.length_le (by omega) hsmall
      refine .number hd (.int hds ?_)
      rw [List.length_append]
      have hmark : (minusMark negative).length ≤ 1 := by cases negative <;> decide
      omega
    | float _ _ _ _ _ => exact hfits.elim
  | text _ h => exact .text hfits h
  | emptyList _ hgap => exact .emptyList hfits.1 hgap
  | list _ _ ih => exact .list hfits.1 (ih hfits.2)
  | emptyObject _ hgap => exact .emptyObject hfits.1 hgap
  | object _ _ ih => exact .object hfits.1 (ih hfits.2)
  | between hlead _ htail ih => exact .between hlead (ih hfits) htail
  | item _ ih => exact .item (ih hfits.1)
  | items _ _ ih ihrest => exact .items (ih hfits.1) (ihrest hfits.2)
  | member hlead hname htail _ ih => exact .member hlead hname htail (ih hfits.1)
  | members hlead hname htail _ _ ih ihrest =>
    exact .members hlead hname htail (ih hfits.1) (ihrest hfits.2)

end StorageLedger.Json
