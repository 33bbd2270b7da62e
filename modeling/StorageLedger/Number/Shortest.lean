import StorageLedger.Number.Binary64
import StorageLedger.Text.Digit

namespace StorageLedger.Number.Binary64
open StorageLedger.Text

/-- The two integers next to `num / den * 10 ^ places`, as candidates on the grid of that many
decimal places. -/
def gridNeighbours (num den : Nat) (places : Int) : Nat × Nat :=
  let below := num * Nat.pow 10 places.toNat / (den * Nat.pow 10 (-places).toNat)
  (below, below + 1)

def onGrid (k : Nat) (places : Int) : Binary64 :=
  round false (k * Nat.pow 10 (-places).toNat) (Nat.pow 10 places.toNat)

/-- The candidate that reads back, of two the nearer one. -/
def chooseOnGrid (num den : Nat) (x : Binary64) (places : Int) : Option Nat :=
  let (below, above) := gridNeighbours num den places
  let scaledNum := num * Nat.pow 10 places.toNat
  let scaledDen := den * Nat.pow 10 (-places).toNat
  let fitsBelow := below ≠ 0 ∧ onGrid below places = x
  let fitsAbove := onGrid above places = x
  if fitsBelow ∧ fitsAbove then
    -- Halfway between the two, the even one is chosen.
    let rest := 2 * (scaledNum - below * scaledDen)
    some (if rest < scaledDen ∨ rest = scaledDen ∧ below % 2 = 0 then below else above)
  else if fitsBelow then some below
  else if fitsAbove then some above
  else none

/-- The place of the first digit: the greatest `p` with `10 ^ p ≤ num / den`, searched upwards. -/
def leadingPlace (num den : Nat) : (fuel : Nat) → Int → Int
  | 0, p => p
  | fuel + 1, p =>
    if den * Nat.pow 10 (p + 1).toNat ≤ num * Nat.pow 10 (-(p + 1)).toNat then
      leadingPlace num den fuel (p + 1)
    else p

/-- The fewest digits of a positive number that read back as it, and their number of decimal
places. Seventeen digits always do. -/
def shortestDigits (num den : Nat) (x : Binary64) : Nat × Int :=
  -- The least positive number starts at place -324, the greatest at place 308.
  let lead := leadingPlace num den 700 (-330)
  match (List.range 17).findSome? fun (n : Nat) =>
      (chooseOnGrid num den x ((n : Int) - lead)).map fun k => (k, (n : Int) - lead) with
  | some found => found
  | none => (0, 0)

/-- Digits with a decimal point: the number is written out when its first digit lies between the
fourth place behind the point and the sixteenth in front of it, and with a power of ten
otherwise. -/
def layOut (k : Nat) (places : Int) : List Char :=
  let digits := (trimZeros (decimalDigits k).reverse).reverse
  let point : Int := (decimalDigits k).length - places
  if -4 < point ∧ point ≤ 16 then
    if point ≤ 0 then '0' :: '.' :: List.replicate (-point).toNat '0' ++ digits
    else if digits.length ≤ point.toNat then
      digits ++ List.replicate (point.toNat - digits.length) '0' ++ ['.', '0']
    else digits.take point.toNat ++ '.' :: digits.drop point.toNat
  else
    let power := point - 1
    let mantissa := match digits with
      | d :: [] => [d]
      | d :: r => d :: '.' :: r
      | [] => []
    mantissa ++ 'e' :: (if power < 0 then '-' else '+') :: paddedDigits 2 power.natAbs
where
  trimZeros (cs : List Char) : List Char := cs.dropWhile (· = '0')

/-- The shortest text of a number that reads back as it. -/
def text : Binary64 → List Char
  | .nan => "nan".toList
  | .infinite negative => if negative then "-inf".toList else "inf".toList
  | .finite negative mantissa exponent =>
    let body :=
      if mantissa = 0 then "0.0".toList
      else
        let (num, den) := magnitude mantissa exponent
        let (k, places) := shortestDigits num den (round false num den)
        layOut k places
    if negative then '-' :: body else body

end StorageLedger.Number.Binary64
