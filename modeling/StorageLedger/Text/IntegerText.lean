import StorageLedger.Text.Numeral

namespace StorageLedger.Text.IntegerText

/-- Why a text denotes no integer. -/
inductive Fault where
  | notNumeral (shown : String)
  | tooManyDigits (count : Nat)
deriving DecidableEq, Repr

def digitLimit : Nat := 4300

/-- The number of characters of a text that a fault shows. -/
def shownLength : Nat := 200

def Fault.message : Fault → String
  | .notNumeral shown => "invalid literal for int() with base 10: " ++ shown
  | .tooManyDigits count =>
    "Exceeds the limit (4300 digits) for integer string conversion: value has " ++ count.repr ++
      " digits; use sys.set_int_max_str_digits() to increase the limit"

/-- The integer that a text denotes. In a fault the text stands as it is shown. -/
def read (cs shown : List Char) : Except Fault Int :=
  let (negative, body) := takeSign (plainDigits (trim isWhite cs))
  let run := body.takeWhile fun c => isDigit c || c == '_'
  let refused := Fault.notNumeral (String.ofList (shown.take shownLength))
  match readDigits asciiDigit? 10 0 false run with
  | none => .error refused
  | some n =>
    let count := run.countP isDigit
    if digitLimit < count then .error (.tooManyDigits count)
    else if run.length < body.length then .error refused
    else .ok (signed negative n)

end StorageLedger.Text.IntegerText
