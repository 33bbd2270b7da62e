import StorageLedger.Text.Blank
import StorageLedger.Text.Digit

namespace StorageLedger.Text

/-- Reads digits to a value, from a value read so far. Single underscores may stand between digits;
`open_` says whether an underscore or the end may come next. -/
def readDigits (digit? : Char → Option Nat) (base : Nat) : (value : Nat) → (open_ : Bool) →
    List Char → Option Nat
  | value, true, [] => some value
  | _, false, [] => none
  | value, open_, c :: r =>
    if c = '_' then
      if open_ then readDigits digit? base value false r else none
    else match digit? c with
      | some d => if d < base then readDigits digit? base (value * base + d) true r else none
      | none => none

/-- The decimal digits of every script replaced by the ASCII digits. -/
def plainDigits (cs : List Char) : List Char :=
  cs.map fun c => match decimalDigit? c with
    | some d => Char.ofNat (0x30 + d)
    | none => c

/-- The text behind a sign, and whether the sign was a minus. -/
def takeSign : List Char → Bool × List Char
  | '-' :: r => (true, r)
  | '+' :: r => (false, r)
  | cs => (false, cs)

/-- The text behind a hexadecimal mark, which an underscore may follow. -/
def dropHexMark : List Char → List Char
  | '0' :: 'x' :: '_' :: r => r
  | '0' :: 'X' :: '_' :: r => r
  | '0' :: 'x' :: r => r
  | '0' :: 'X' :: r => r
  | cs => cs

def signed (negative : Bool) (n : Nat) : Int := if negative then -(n : Int) else n

def hexNumeral? (cs : List Char) : Option Int :=
  let (negative, digits) := takeSign (plainDigits (trim isWhite cs))
  (readDigits hexDigit? 16 0 false (dropHexMark digits)).map (signed negative)

end StorageLedger.Text
