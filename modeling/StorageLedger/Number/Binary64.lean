import StorageLedger.Number.Rounding

namespace StorageLedger.Number

/-- A floating-point number. A finite one is `mantissa * 2 ^ exponent` with a sign, where a zero
keeps its sign. -/
inductive Binary64 where
  | nan
  | infinite (negative : Bool)
  | finite (negative : Bool) (mantissa : Nat) (exponent : Int)
deriving DecidableEq, Repr

namespace Binary64

def minExponent : Int := -1074

def maxExponent : Int := 971

/-- Numerator and denominator of `num / den / 2 ^ exponent`. -/
def unscale (num den : Nat) (exponent : Int) : Nat × Nat :=
  (num * Nat.pow 2 (-exponent).toNat, den * Nat.pow 2 exponent.toNat)

/-- The whole part of the binary logarithm of a positive quotient. -/
def log2 (num den : Nat) : Int :=
  -- The lengths of both give the logarithm up to one.
  let guess : Int := (num.log2 : Int) - den.log2
  let (n, d) := unscale num den guess
  if d ≤ n then guess else guess - 1

/-- The exponent of the last bit that the format keeps of a positive quotient. -/
def quantum (num den : Nat) : Int := max (log2 num den - 52) minExponent

/-- The number of the format nearest to a quotient with a sign. -/
def round (negative : Bool) (num den : Nat) : Binary64 :=
  if num = 0 then .finite negative 0 minExponent
  else
    let exponent := quantum num den
    let (n, d) := unscale num den exponent
    let mantissa := roundHalfEven n d
    -- Rounded up to a power of two, the mantissa would have a bit too many.
    let (mantissa, exponent) :=
      if mantissa = Nat.pow 2 53 then (Nat.pow 2 52, exponent + 1) else (mantissa, exponent)
    if maxExponent < exponent then .infinite negative else .finite negative mantissa exponent

def ofRatio (num : Int) (den : Nat) : Binary64 := round (num < 0) num.natAbs den

def ofInt (n : Int) : Binary64 := ofRatio n 1

def magnitude (mantissa : Nat) (exponent : Int) : Nat × Nat :=
  (mantissa * Nat.pow 2 exponent.toNat, Nat.pow 2 (-exponent).toNat)

/-- A finite number as an exact quotient. -/
def toRatio? : Binary64 → Option (Int × Nat)
  | .finite negative mantissa exponent =>
    let (num, den) := magnitude mantissa exponent
    some (if negative then -(num : Int) else num, den)
  | _ => none

def divNat (x : Binary64) (k : Nat) : Binary64 :=
  match x with
  | .finite negative mantissa exponent =>
    let (num, den) := magnitude mantissa exponent
    round negative num (den * k)
  | x => x

def floor? (x : Binary64) : Option Int := x.toRatio?.map fun (num, den) => Int.fdiv num den

def truncate? (x : Binary64) : Option Int := x.toRatio?.map fun (num, den) => Int.tdiv num den

/-- A finite number that is whole. -/
def whole? (x : Binary64) : Option Int :=
  x.toRatio?.bind fun (num, den) => if num % den = 0 then some (num / den) else none

/-- A finite number is below a whole number. -/
def ltNat (x : Binary64) (k : Nat) : Bool :=
  match x.toRatio? with
  | some (num, den) => num < k * den
  | none => false

end Binary64
end StorageLedger.Number
