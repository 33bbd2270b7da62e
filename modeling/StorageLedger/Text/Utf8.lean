namespace StorageLedger.Text

def octets (cs : List Char) : List UInt8 := cs.flatMap String.utf8EncodeChar

def stringOctets (s : String) : List UInt8 := octets s.toList

/-- The character with a code point, if it is a scalar value and not below `least`. -/
def scalar? (least n : Nat) : Option Char :=
  if least ≤ n ∧ n.isValidChar then some (Char.ofNat n) else none

/-- The six bits that an octet carries behind the first of a character. -/
def tailBits? (b : UInt8) : Option Nat :=
  if 0x80 ≤ b.toNat ∧ b.toNat < 0xC0 then some (b.toNat - 0x80) else none

/-- The character at the start of octets, with the number of octets it takes behind the first. -/
def leadChar? : List UInt8 → Option (Char × Nat)
  | [] => none
  | a :: r =>
    let n := a.toNat
    if n < 0x80 then (scalar? 0 n).map (·, 0)
    else if n < 0xC0 then none
    else if n < 0xE0 then do
      let b ← r[0]? >>= tailBits?
      let c ← scalar? 0x80 ((n - 0xC0) * 0x40 + b)
      return (c, 1)
    else if n < 0xF0 then do
      let b ← r[0]? >>= tailBits?
      let c ← r[1]? >>= tailBits?
      let x ← scalar? 0x800 (((n - 0xE0) * 0x40 + b) * 0x40 + c)
      return (x, 2)
    else if n < 0xF8 then do
      let b ← r[0]? >>= tailBits?
      let c ← r[1]? >>= tailBits?
      let d ← r[2]? >>= tailBits?
      let x ← scalar? 0x10000 ((((n - 0xF0) * 0x40 + b) * 0x40 + c) * 0x40 + d)
      return (x, 3)
    else none

/-- The longest well-formed beginning of octets: its text and its number of octets. -/
def decodeStart (bs : List UInt8) : List Char × Nat :=
  match bs with
  | [] => ([], 0)
  | b :: r =>
    match leadChar? (b :: r) with
    | some (c, more) =>
      let (cs, n) := decodeStart (r.drop more)
      (c :: cs, more + 1 + n)
    | none => ([], 0)
termination_by bs.length
decreasing_by simp only [List.length_drop, List.length_cons]; omega

def decode? (bs : List UInt8) : Option (List Char) :=
  let (cs, n) := decodeStart bs
  if n = bs.length then some cs else none

end StorageLedger.Text
