import StorageLedger.Text.Digit
import StorageLedger.Text.Utf8

namespace StorageLedger.Text

/-- The characters that every encoding keeps. -/
def isUnreserved (c : Char) : Bool := c.isAlphanum || c == '_' || c == '.' || c == '-' || c == '~'

def percentOctet (b : UInt8) : List Char := '%' :: (hexDigits 2 b.toNat).map Char.toUpper

/-- A text with the characters encoded that are neither unreserved nor in a class of their own. -/
def percentEncode (keep : List Char) (cs : List Char) : List Char :=
  cs.flatMap fun c =>
    if isUnreserved c || keep.contains c then [c]
    else (String.utf8EncodeChar c).flatMap percentOctet

/-- A text encoded for a query, where a plus sign stands for a blank. -/
def queryEncode (cs : List Char) : List Char :=
  (percentEncode [' '] cs).map fun c => if c = ' ' then '+' else c

/-- The number of octets behind the first that could still belong to one character. -/
def brokenTail : List UInt8 → Nat
  | a :: r =>
    let lead := a.toNat
    let (low, high, most) :=
      if 0xC2 ≤ lead ∧ lead < 0xE0 then (0x80, 0xC0, 1)
      else if lead = 0xE0 then (0xA0, 0xC0, 2)
      else if lead = 0xED then (0x80, 0xA0, 2)
      else if 0xE1 ≤ lead ∧ lead < 0xF0 then (0x80, 0xC0, 2)
      else if lead = 0xF0 then (0x90, 0xC0, 3)
      else if lead = 0xF4 then (0x80, 0x90, 3)
      else if 0xF1 ≤ lead ∧ lead < 0xF4 then (0x80, 0xC0, 3)
      else (0, 0, 0)
    match r with
    | b :: more =>
      if low ≤ b.toNat ∧ b.toNat < high then
        1 + ((more.take (most - 1)).takeWhile fun c => 0x80 ≤ c.toNat && c.toNat < 0xC0).length
      else 0
    | [] => 0
  | [] => 0

/-- The text of octets, with one replacement character for each broken character. -/
def decodeReplacing (bs : List UInt8) : List Char :=
  match bs with
  | [] => []
  | b :: r =>
    match leadChar? (b :: r) with
    | some (c, more) => c :: decodeReplacing (r.drop more)
    | none => '\uFFFD' :: decodeReplacing (r.drop (brokenTail (b :: r)))
termination_by bs.length
decreasing_by all_goals simp only [List.length_drop, List.length_cons]; omega

/-- ASCII characters as octets, with their escapes resolved. -/
def percentOctets : List Char → List UInt8
  | '%' :: a :: b :: r =>
    match hexDigit? a, hexDigit? b with
    | some x, some y => (x * 16 + y).toUInt8 :: percentOctets r
    | _, _ => 0x25 :: percentOctets (a :: b :: r)
  | c :: r => c.toNat.toUInt8 :: percentOctets r
  | [] => []
termination_by cs => cs.length

def percentDecode (cs : List Char) : List Char :=
  let isAscii := fun c : Char => decide (c.toNat < 0x80)
  (cs.splitBy fun a b => isAscii a == isAscii b).flatMap fun run =>
    if run.all isAscii then decodeReplacing (percentOctets run) else run

def queryDecode (cs : List Char) : List Char :=
  percentDecode (cs.map fun c => if c = '+' then ' ' else c)

end StorageLedger.Text
