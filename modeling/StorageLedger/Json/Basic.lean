import StorageLedger.Number.Binary64

namespace StorageLedger
open StorageLedger.Number

inductive Json where
  | null
  | bool (b : Bool)
  | int (n : Int)
  | float (x : Binary64)
  | text (s : String)
  | list (items : List Json)
  | object (members : List (String × Json))
deriving Repr, Inhabited

namespace Json

/-- Why a text is no JSON text. -/
inductive Fault where
  | endInValue
  | endInList
  | endInObject
  | endInText
  | expectedValue
  | expectedWord
  | expectedColon
  | expectedListEnd
  | expectedObjectEnd
  | trailingComma
  | keyNotText
  | invalidNumber
  | numberRange
  | invalidEscape
  | escapeEnd
  | loneSurrogate
  | invalidUnicode
  | controlCharacter
  | tooDeep
  | trailingCharacters
deriving DecidableEq, Repr

def Fault.message : Fault → String
  | .endInValue => "EOF while parsing a value"
  | .endInList => "EOF while parsing a list"
  | .endInObject => "EOF while parsing an object"
  | .endInText => "EOF while parsing a string"
  | .expectedValue => "expected value"
  | .expectedWord => "expected ident"
  | .expectedColon => "expected `:`"
  | .expectedListEnd => "expected `,` or `]`"
  | .expectedObjectEnd => "expected `,` or `\x7d`"
  | .trailingComma => "trailing comma"
  | .keyNotText => "key must be a string"
  | .invalidNumber => "invalid number"
  | .numberRange => "number out of range"
  | .invalidEscape => "invalid escape"
  | .escapeEnd => "unexpected end of hex escape"
  | .loneSurrogate => "lone leading surrogate in hex escape"
  | .invalidUnicode => "invalid unicode code point"
  | .controlCharacter => "control character (\\u0000-\\u001F) found while parsing a string"
  | .tooDeep => "recursion limit exceeded"
  | .trailingCharacters => "trailing characters"

/-- A fault with the number of octets in front of it. -/
structure Stop where
  fault : Fault
  index : Nat
deriving DecidableEq, Repr

/-- What a reader refuses besides malformed texts: deep nesting and long integers. -/
structure Limits where
  /-- The number of lists and objects that may be open around a value. -/
  depth : Nat
  /-- The number of characters of an integer, its sign included. -/
  integerLength : Nat

def Limits.manifest : Limits := ⟨200, 4300⟩

/-- The line and the column of an index, both from one; a line feed itself stands in column zero of
the line that it opens. -/
def place (bs : List UInt8) (index : Nat) : Nat × Nat :=
  let shown := bs.take (index + 1)
  let line := 1 + shown.count 0x0A
  let column := (shown.reverse.takeWhile (· ≠ 0x0A)).length
  (line, column)

end Json
end StorageLedger
