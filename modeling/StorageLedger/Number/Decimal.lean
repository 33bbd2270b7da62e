import StorageLedger.Number.Binary64
import StorageLedger.Text.Numeral

namespace StorageLedger.Number
open StorageLedger.Text

/-- A decimal number. A finite one is `coefficient * 10 ^ exponent` with a sign. An undefined one
may be signaling, which forbids its use in arithmetic. -/
inductive Decimal where
  | nan (signaling : Bool)
  | infinite (negative : Bool)
  | finite (negative : Bool) (coefficient : Nat) (exponent : Int)
deriving DecidableEq, Repr

namespace Decimal

/-- A coefficient divided by a power of ten, without the fraction. A coefficient with too few binary
digits gives zero before the power is computed. -/
def shiftDown (coefficient k : Nat) : Nat :=
  if coefficient.log2 < 3 * k then 0 else coefficient / Nat.pow 10 k

def isMultiple (coefficient k : Nat) : Bool :=
  coefficient == 0 || (3 * k ≤ coefficient.log2 && coefficient % Nat.pow 10 k == 0)

/-- The magnitude of a finite decimal without its fraction. -/
def truncateMagnitude (coefficient : Nat) (exponent : Int) : Nat :=
  if 0 ≤ exponent then coefficient * Nat.pow 10 exponent.toNat
  else shiftDown coefficient (-exponent).toNat

def truncate? : Decimal → Option Int
  | .finite negative coefficient exponent =>
    some (signed negative (truncateMagnitude coefficient exponent))
  | _ => none

def whole? : Decimal → Option Int
  | .finite negative coefficient exponent =>
    if 0 ≤ exponent ∨ isMultiple coefficient (-exponent).toNat then
      some (signed negative (truncateMagnitude coefficient exponent))
    else none
  | _ => none

/-- The floating-point number nearest to a decimal. A signaling one counts as undefined. -/
def toBinary64 : Decimal → Binary64
  | .nan _ => .nan
  | .infinite negative => .infinite negative
  | .finite negative coefficient exponent =>
    if 0 ≤ exponent then
      if coefficient ≠ 0 ∧ 400 < exponent then .infinite negative
      else if coefficient = 0 then Binary64.round negative 0 1
      else Binary64.round negative (coefficient * Nat.pow 10 exponent.toNat) 1
    else
      let k := (-exponent).toNat
      if coefficient.log2 + 1100 < 3 * k then Binary64.round negative 0 1
      else Binary64.round negative coefficient (Nat.pow 10 k)

def spanDigits (cs : List Char) : List Char × List Char := cs.span isDigit

/-- The power of ten that ends a decimal text: nothing, or the letter `e` and an integer. -/
def exponent? : List Char → Option Int
  | [] => some 0
  | c :: r =>
    if c = 'e' ∨ c = 'E' then
      let (negative, digits) := takeSign r
      if digits ≠ [] ∧ digits.all isDigit then some (signed negative (digitsValue digits)) else none
    else none

/-- The finite decimal that digits, an optional point with digits, and an optional power denote. -/
def finite? (negative : Bool) (cs : List Char) : Option Decimal :=
  let (whole, rest) := spanDigits cs
  let (fraction, rest) := match rest with
    | '.' :: r => spanDigits r
    | _ => ([], rest)
  if whole = [] ∧ fraction = [] then none
  else (exponent? rest).map fun e =>
    .finite negative (digitsValue (whole ++ fraction)) (e - fraction.length)

/-- The decimal that a text denotes. Blanks around it and underscores are skipped, digits of every
script count, and the words for infinity and for the undefined numbers are known in either case. -/
def ofText? (cs : List Char) : Option Decimal :=
  let (negative, body) := takeSign (plainDigits ((trim isBlank cs).filter (· ≠ '_')))
  let word := body.map Char.toLower
  if word = "inf".toList ∨ word = "infinity".toList then some (.infinite negative)
  else
    let payload? := match word with
      | 'n' :: 'a' :: 'n' :: r => some (false, r)
      | 's' :: 'n' :: 'a' :: 'n' :: r => some (true, r)
      | _ => none
    match payload? with
    | some (signaling, payload) => if payload.all isDigit then some (.nan signaling) else none
    | none => finite? negative body

end Decimal
end StorageLedger.Number
