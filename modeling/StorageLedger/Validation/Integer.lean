import StorageLedger.Text.Utf8
import StorageLedger.Validation.Issue

namespace StorageLedger.Validation
open StorageLedger.Text StorageLedger.Number

/-- The greatest number of characters of an integer text, its sign included. -/
def integerTextLimit : Nat := 4300

/-- A numeral in front of a fraction of zeros. -/
def dropZeroFraction? (cs : List Char) : Option (List Char) :=
  match cs.dropWhile (· ≠ '.') with
  | [] => some cs
  | _ :: fraction =>
    if fraction ≠ [] ∧ fraction.all (· = '0') then some (cs.takeWhile (· ≠ '.')) else none

/-- What is left behind zeros of which one was read last. Underscores may stand among the zeros. If
no other digit follows, the last of these characters is kept. -/
def dropPadding? (last : Char) : List Char → Option (List Char)
  | [] => some [last]
  | c :: r =>
    if c = '0' || c = '_' then dropPadding? c r
    else if isDigit c || c = '-' then some (c :: r)
    else if c = '.' then some (last :: c :: r)
    else none

/-- A numeral without the zeros in front of it. -/
def dropZeros? : List Char → Option (List Char)
  | [] => none
  | c :: r =>
    if c = '0' then dropPadding? c r else if isDigit c then some (c :: r) else none

/-- The integer of digits behind a sign, unless they are too long to be read. -/
def readSigned? (negative : Bool) (cs : List Char) : Option Int :=
  if integerTextLimit < (cs.filter (· ≠ '_')).length + if negative then 1 else 0 then none
  else (readDigits asciiDigit? 10 0 false cs).map (signed negative)

/-- The integer of a numeral without zeros in front. A minus that stood behind the zeros counts if
there was none before them, and an underscore may follow it. -/
def readUnpadded? (negative : Bool) (cs : List Char) : Option Int :=
  match cs with
  | '-' :: r =>
    let digits := if r.head? = some '_' then r.tail else r
    if negative || (digits.head? == some '0' && digits.length != 1) then none
    else readSigned? true digits
  | _ => readSigned? negative cs

/-- A text starts with a plain integer that is too long to be read. -/
def startsTooLong (cs : List Char) : Bool :=
  let (negative, digits) := match cs with
    | '-' :: r => (true, r)
    | _ => (false, cs)
  digits.head? != some '0' &&
    integerTextLimit < (digits.takeWhile isDigit).length + if negative then 1 else 0

def integerOfText (cs : List Char) : Except Complaint Int :=
  if startsTooLong cs then .error .integerSize
  else
    let (negative, body) := takeSign (trim isWhite cs)
    match ((dropZeros? body).bind dropZeroFraction?).bind (readUnpadded? negative) with
    | some n => .ok n
    | none => .error .integerText

/-- The integer that a floating-point number is. It must fit 64 bits. -/
def integerOfFloat (x : Binary64) : Except Complaint Int :=
  match x with
  | .finite _ _ _ =>
    match x.whole? with
    | some n => if n.natAbs < Nat.pow 2 63 then .ok n else .error .integerSize
    | none => .error .integerFraction
  | _ => .error .notFinite

def integerOfDecimal (d : Decimal) : Except Complaint Int :=
  match d with
  | .finite _ _ _ =>
    match d.whole? with
    | some n => .ok n
    | none => .error .integerFraction
  | _ => .error .notFinite

def integer : Value → Except Complaint Int
  | .bool b => .ok (if b then 1 else 0)
  | .int n => .ok n
  | .float x => integerOfFloat x
  | .decimal d => integerOfDecimal d
  | .text s => integerOfText s.toList
  | .bytes bs =>
    match decode? bs with
    | some cs => integerOfText cs
    | none => .error .integerText
  | _ => .error .integerType

def maxSize : Int := 9223372036854775807

/-- The size that a value denotes: an integer that is neither negative nor above the greatest
size. -/
def size (v : Value) : Except Complaint Int := do
  let n ← integer v
  if n < 0 then .error (.atLeast 0)
  else if maxSize < n then .error (.atMost maxSize)
  else .ok n

def fileSize (v : Value) : Except Rejection Int :=
  (size v).mapError fun complaint => ⟨.fileSize, [⟨[], complaint, v⟩]⟩

end StorageLedger.Validation
