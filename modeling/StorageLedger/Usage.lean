import StorageLedger.Text.IntegerText
import StorageLedger.Text.Quoted
import StorageLedger.Value

namespace StorageLedger.Usage
open StorageLedger.Text StorageLedger.Number

def limit : Nat := 18446744073709551615

/-- Why a reported sum is no number. -/
inductive Fault where
  | notANumber (binary : Bool)
  | infinite (binary : Bool)
  | text (fault : IntegerText.Fault)
  | notNumeric (kind : String)
deriving DecidableEq, Repr

def Fault.message : Fault → String
  | .notANumber true => "cannot convert float NaN to integer"
  | .notANumber false => "cannot convert NaN to integer"
  | .infinite true => "cannot convert float infinity to integer"
  | .infinite false => "cannot convert Infinity to integer"
  | .text fault => fault.message
  | .notNumeric kind =>
    "int() argument must be a string, a bytes-like object or a real number, not '" ++ kind ++ "'"

/-- Octets as characters. An octet above ASCII is no digit and no blank. -/
def octetText (bs : List UInt8) : List Char :=
  bs.map fun b => if b.toNat < 0x80 then Char.ofNat b.toNat else '?'

/-- The integer part of a reported sum. -/
def whole : Value → Except Fault Int
  | .null => .ok 0
  | .bool b => .ok (if b then 1 else 0)
  | .int n => .ok n
  | .float .nan => .error (.notANumber true)
  | .float (.infinite _) => .error (.infinite true)
  | .float x => .ok (x.truncate?.getD 0)
  | .decimal (.nan _) => .error (.notANumber false)
  | .decimal (.infinite _) => .error (.infinite false)
  | .decimal d => .ok (d.truncate?.getD 0)
  | .text s => (IntegerText.read s.toList (quoted s.toList)).mapError .text
  | .bytes bs => (IntegerText.read (octetText bs) (quotedBytes bs)).mapError .text
  | .workspaceId id => .ok id.number
  | v => .error (.notNumeric v.kind)

/-- An integer within the bounds of a usage, or nothing. -/
def clampInt (n : Int) : Nat := if 0 ≤ n ∧ n ≤ limit then n.toNat else 0

/-- The usage that a reported sum stands for. -/
def clamp (total : Value) : Except Fault Nat := (whole total).map clampInt

end StorageLedger.Usage
