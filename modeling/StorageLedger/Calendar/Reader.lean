import StorageLedger.Calendar.Timestamp
import StorageLedger.Number.Decimal

namespace StorageLedger.Calendar
open StorageLedger.Text StorageLedger.Number

inductive TextFault where
  | tooShort
  | yearCharacter
  | monthCharacter
  | dayCharacter
  | dateSeparator
  | monthRange
  | dayRange
  | extraCharacters
  | outOfRange (fault : RangeFault)
deriving DecidableEq, Repr

/-- The date at the start of a text, and the rest. The characters are checked from left to right,
and the ranges of month and day after them. -/
def readDate : List Char → Except TextFault (Date × List Char)
  | y₁ :: y₂ :: y₃ :: y₄ :: s₁ :: m₁ :: m₂ :: s₂ :: d₁ :: d₂ :: rest =>
    match digits? [y₁, y₂, y₃, y₄] with
    | none => .error .yearCharacter
    | some year =>
      if s₁ ≠ '-' then .error .dateSeparator
      else match digits? [m₁, m₂] with
        | none => .error .monthCharacter
        | some month =>
          if s₂ ≠ '-' then .error .dateSeparator
          else match digits? [d₁, d₂] with
            | none => .error .dayCharacter
            | some day =>
              match Date.ofParts? year month day with
              | some date => .ok (date, rest)
              | none => if 1 ≤ month ∧ month ≤ 12 then .error .dayRange else .error .monthRange
  | _ => .error .tooShort

/-- A fraction of a second in microseconds, and the rest. Further digits are dropped. -/
def fraction? : List Char → Option (Nat × List Char)
  | c :: r =>
    if c = '.' ∨ c = ',' then
      let (digits, rest) := r.span isDigit
      if digits = [] then none
      else
        let kept := digits.take 6
        some (digitsValue kept * Nat.pow 10 (6 - kept.length), rest)
    else some (0, c :: r)
  | [] => some (0, [])

/-- The time of day at the start of a text, and the rest. Seconds may be left out. -/
def clock? : List Char → Option (Clock × List Char)
  | h₁ :: h₂ :: ':' :: m₁ :: m₂ :: ':' :: s₁ :: s₂ :: r => do
    let hour ← digits? [h₁, h₂]
    let minute ← digits? [m₁, m₂]
    let second ← digits? [s₁, s₂]
    let (micro, rest) ← fraction? r
    let clock ← Clock.ofParts? hour minute second micro
    return (clock, rest)
  | h₁ :: h₂ :: ':' :: m₁ :: m₂ :: r => do
    let hour ← digits? [h₁, h₂]
    let minute ← digits? [m₁, m₂]
    let clock ← Clock.ofParts? hour minute 0 0
    return (clock, r)
  | _ => none

/-- The octets of the minus sign that is not a hyphen. -/
def minusSign : List Char := ['\xE2', '\x88', '\x92']

/-- The sign at the start of an offset, true for behind universal time, and the rest. -/
def offsetSign? : List Char → Option (Bool × List Char)
  | '+' :: r => some (false, r)
  | '-' :: r => some (true, r)
  | cs => if minusSign.isPrefixOf cs then some (true, cs.drop minusSign.length) else none

def offsetOfParts? (behind : Bool) (hours minutes seconds : Nat) : Option Offset :=
  if minutes < 60 ∧ seconds < 60 then
    Offset.ofSeconds? (signed behind (hours * 3600 + minutes * 60 + seconds))
  else none

/-- The offset that a whole text denotes: nothing, the letter Z, or a sign with hours and minutes.
-/
def zone? : List Char → Option (Option Offset)
  | [] => some none
  | ['Z'] => some (some .zero)
  | ['z'] => some (some .zero)
  | cs => do
    let (behind, r) ← offsetSign? cs
    let (hours, minutes) ← match r with
      | [h₁, h₂, ':', m₁, m₂] => some ([h₁, h₂], [m₁, m₂])
      | [h₁, h₂, m₁, m₂] => some ([h₁, h₂], [m₁, m₂])
      | _ => none
    let offset ← offsetOfParts? behind (← digits? hours) (← digits? minutes) 0
    return some offset

def preciseZone? (cs : List Char) : Option (Option Offset) := do
  let (behind, r) ← offsetSign? cs
  match r with
  | [h₁, h₂, ':', m₁, m₂, ':', s₁, s₂] =>
    let offset ← offsetOfParts? behind (← digits? [h₁, h₂]) (← digits? [m₁, m₂])
      (← digits? [s₁, s₂])
    return some offset
  | _ => none

def isDateEnd (c : Char) : Bool := c == 'T' || c == 't' || c == ' ' || c == '_'

def withZone? (zone : List Char → Option (Option Offset)) (cs : List Char) : Option Timestamp := do
  let (date, rest) ← (readDate cs).toOption
  match rest with
  | c :: r =>
    if isDateEnd c then
      let (clock, rest) ← clock? r
      let offset ← zone rest
      return ⟨date, clock, offset⟩
    else none
  | [] => none

def ofDateText (cs : List Char) : Except TextFault Timestamp :=
  match readDate cs with
  | .ok (date, []) => .ok (.ofDate date)
  | .ok (_, _ :: _) => .error .extraCharacters
  | .error e => .error e

/-- A count above this many seconds is taken in milliseconds. -/
def secondsLimit : Nat := 20000000000

def ofCount (n : Int) : Except RangeFault Timestamp :=
  if secondsLimit < n.natAbs then
    Timestamp.ofUnix (Int.fdiv n 1000) ((Int.fmod n 1000).toNat * 1000)
  else Timestamp.ofUnix n 0

/-- The microseconds nearest to a floating-point part of a second. -/
def microsOf (x : Binary64) : Nat :=
  match x.toRatio? with
  | some (num, den) =>
    -- The product is rounded to the format first. Of its fraction, a half goes up.
    match (Binary64.ofRatio (num * 1000000) den).toRatio? with
    | some (n, d) => ((2 * n + d) / (2 * d)).toNat
    | none => 0
  | none => 0

def ofSeconds (x : Binary64) : Except RangeFault Timestamp :=
  match x.toRatio?, x.floor? with
  | some (num, den), some whole =>
    Timestamp.ofUnix whole (microsOf (Binary64.ofRatio (num - whole * den) den))
  | _, _ => .error .afterYear9999

/-- The timestamp that a floating-point number counts. The undefined number counts none. -/
def ofFloat? : Binary64 → Option (Except RangeFault Timestamp)
  | .nan => none
  | .infinite negative => some (.error (if negative then .beforeYearZero else .afterYear9999))
  | .finite negative mantissa exponent =>
    let x : Binary64 := .finite negative mantissa exponent
    let (num, den) := Binary64.magnitude mantissa exponent
    some (ofSeconds (if secondsLimit * den < num then x.divNat 1000 else x))

/-- The whole number that a text of a sign and digits denotes, if it fits 64 bits. -/
def wholeNumber? (cs : List Char) : Option Int :=
  let (negative, digits) := takeSign cs
  if digits ≠ [] ∧ digits.all isDigit ∧ digitsValue digits < Nat.pow 2 63 then
    some (signed negative (digitsValue digits))
  else none

def pointNumber? (cs : List Char) : Option Binary64 :=
  let (negative, body) := takeSign cs
  if (body.dropWhile isDigit).head? = some '.' then
    (Decimal.finite? negative body).map Decimal.toBinary64
  else none

/-- The timestamp that a text denotes: in full, as a number, or as a date alone. What a text denotes
that is none of them is judged as a date. -/
def Timestamp.ofText (cs : List Char) : Except TextFault Timestamp :=
  match withZone? zone? cs with
  | some t => .ok t
  | none =>
    match wholeNumber? cs with
    | some n => (ofCount n).mapError .outOfRange
    | none =>
      match (pointNumber? cs).bind ofFloat? with
      | some (.ok t) => .ok t
      -- A number with a point that is out of range ends up here as well.
      | _ => ofDateText cs

/-- The timestamp that a text in the written form denotes, where the offset may have seconds. -/
def Timestamp.ofWritten? (cs : List Char) : Option Timestamp :=
  (withZone? zone? cs).or ((withZone? preciseZone? cs).or (ofDateText cs).toOption)

end StorageLedger.Calendar
