import StorageLedger.Number.Binary64
import StorageLedger.Text.Digit

namespace StorageLedger.SizeText
open StorageLedger.Number StorageLedger.Text

/-- The units above the single byte. -/
def units : List String := ["KiB", "MiB", "GiB", "TiB"]

/-- A size of so many units, divided until it is below 1024 or no greater unit is left. -/
def scale (x : Binary64) (unit : String) : List String → Binary64 × String
  | [] => (x, unit)
  | next :: more =>
    let y := x.divNat 1024
    if y.ltNat 1024 then (y, next) else scale y next more

/-- The nearest number of tenths of a finite number that is not negative. -/
def tenths (x : Binary64) : Nat :=
  match x.toRatio? with
  | some (num, den) => roundHalfEven (num.toNat * 10) den
  | none => 0

def tenthsText (n : Nat) : List Char := decimalDigits (n / 10) ++ '.' :: decimalDigits (n % 10)

/-- The text of a size. A size beyond all floating-point numbers has none. -/
def ofInt? (n : Int) : Option String :=
  if n < 1024 then some (String.ofList (integerDigits n) ++ " B")
  else
    match Binary64.ofInt n with
    | .finite negative mantissa exponent =>
      let (x, unit) := scale (.finite negative mantissa exponent) "B" units
      some (String.ofList (tenthsText (tenths x)) ++ " " ++ unit)
    | _ => none

/-- The text of a size below 2 ^ 1023. -/
def ofInt (n : Int) : String := (ofInt? n).getD ""

end StorageLedger.SizeText
