namespace StorageLedger.Text

/-- The zeros of the scripts that have decimal digits, in increasing order. -/
def digitZeros : List Nat :=
  [0x30, 0x660, 0x6F0, 0x7C0, 0x966, 0x9E6, 0xA66, 0xAE6, 0xB66, 0xBE6, 0xC66, 0xCE6, 0xD66,
   0xDE6, 0xE50, 0xED0, 0xF20, 0x1040, 0x1090, 0x17E0, 0x1810, 0x1946, 0x19D0, 0x1A80, 0x1A90,
   0x1B50, 0x1BB0, 0x1C40, 0x1C50, 0xA620, 0xA8D0, 0xA900, 0xA9D0, 0xA9F0, 0xAA50, 0xABF0, 0xFF10,
   0x104A0, 0x10D30, 0x11066, 0x110F0, 0x11136, 0x111D0, 0x112F0, 0x11450, 0x114D0, 0x11650,
   0x116C0, 0x11730, 0x118E0, 0x11950, 0x11C50, 0x11D50, 0x11DA0, 0x16A60, 0x16AC0, 0x16B50,
   0x1D7CE, 0x1D7D8, 0x1D7E2, 0x1D7EC, 0x1D7F6, 0x1E140, 0x1E2F0, 0x1E950, 0x1FBF0]

def asciiDigit? (c : Char) : Option Nat :=
  if 0x30 ≤ c.toNat ∧ c.toNat ≤ 0x39 then some (c.toNat - 0x30) else none

/-- The value of a decimal digit of any script. -/
def decimalDigit? (c : Char) : Option Nat :=
  (digitZeros.find? fun z => z ≤ c.toNat && c.toNat < z + 10).map (c.toNat - ·)

def hexDigit? (c : Char) : Option Nat :=
  if 0x30 ≤ c.toNat ∧ c.toNat ≤ 0x39 then some (c.toNat - 0x30)
  else if 0x41 ≤ c.toNat ∧ c.toNat ≤ 0x46 then some (c.toNat - 0x37)
  else if 0x61 ≤ c.toNat ∧ c.toNat ≤ 0x66 then some (c.toNat - 0x57)
  else none

def isDigit (c : Char) : Bool := (asciiDigit? c).isSome

theorem decimalDigit?_of_asciiDigit? {c : Char} {d : Nat} (h : asciiDigit? c = some d) :
    decimalDigit? c = some d := by
  unfold asciiDigit? at h
  split at h
  · next hc =>
    have hz : digitZeros.find? (fun z => z ≤ c.toNat && c.toNat < z + 10) = some 0x30 := by
      rw [digitZeros, List.find?_cons_of_pos]
      simp only [Bool.and_eq_true, decide_eq_true_eq]
      omega
    rw [decimalDigit?, hz]
    exact h
  · cases h

/-- The value of a run of ASCII digits, read from the left. -/
def digitsValue (cs : List Char) : Nat :=
  cs.foldl (fun value c => value * 10 + (asciiDigit? c).getD 0) 0

def digits? (cs : List Char) : Option Nat := if cs.all isDigit then some (digitsValue cs) else none

/-- The digit character of a value below sixteen, in lower case. -/
def hexChar (d : Nat) : Char :=
  if d < 10 then Char.ofNat (0x30 + d) else Char.ofNat (0x57 + d)

theorem hexDigit?_hexChar {d : Nat} (h : d < 16) : hexDigit? (hexChar d) = some d := by
  have hall : ∀ e ∈ List.range 16, hexDigit? (hexChar e) = some e := by decide
  exact hall d (List.mem_range.mpr h)

/-- The lowest `width` hexadecimal digits of a number, highest first. -/
def hexDigits : Nat → Nat → List Char
  | 0, _ => []
  | width + 1, n => hexDigits width (n / 16) ++ [hexChar (n % 16)]

@[simp] theorem length_hexDigits (width n : Nat) : (hexDigits width n).length = width := by
  induction width generalizing n with
  | zero => rfl
  | succ width ih => simp [hexDigits, ih]

def decimalDigits (n : Nat) : List Char := Nat.toDigits 10 n

/-- The decimal text of a number, with zeros in front up to a least width. -/
def paddedDigits (width n : Nat) : List Char :=
  List.replicate (width - (decimalDigits n).length) '0' ++ decimalDigits n

/-- The decimal text of an integer, with a minus sign in front of a negative one. -/
def integerDigits (n : Int) : List Char :=
  if n < 0 then '-' :: decimalDigits n.natAbs else decimalDigits n.natAbs

end StorageLedger.Text
