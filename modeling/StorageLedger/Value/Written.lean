import StorageLedger.Number.Shortest
import StorageLedger.Text.Quoted
import StorageLedger.Text.Utf8
import StorageLedger.Value

namespace StorageLedger.Value
open StorageLedger.Text StorageLedger.Number

def listed : List (List Char) → List Char
  | [] => []
  | [item] => item
  | item :: rest => item ++ ',' :: ' ' :: listed rest

def writtenDecimal : Decimal → List Char
  | .nan signaling => if signaling then "sNaN".toList else "NaN".toList
  | .infinite negative => if negative then "-Infinity".toList else "Infinity".toList
  | .finite negative coefficient exponent =>
    (if negative then ['-'] else []) ++ decimalDigits coefficient ++
      if exponent = 0 then []
      else 'E' :: (if 0 < exponent then ['+'] else []) ++ integerDigits exponent

mutual

def written : Value → List Char
  | .null => "None".toList
  | .bool b => if b then "True".toList else "False".toList
  | .int n => integerDigits n
  | .float x => x.text
  | .decimal d => writtenDecimal d
  | .text s => quoted s.toList
  | .bytes bs => quotedBytes bs
  | .workspaceId id => id.toString.toList
  | .timestamp t => t.text
  | .date d => d.text
  | .list items => '[' :: listed (writtenItems items) ++ [']']
  | .object members =>
    let entries := (distinctMembers (writtenMembers members)).map fun (name, v) =>
      quoted name.toList ++ ':' :: ' ' :: v
    '\x7b' :: listed entries ++ ['\x7d']

def writtenItems : List Value → List (List Char)
  | [] => []
  | v :: vs => written v :: writtenItems vs

def writtenMembers : List (String × Value) → List (String × List Char)
  | [] => []
  | (name, v) :: ms => (name, written v) :: writtenMembers ms

end

def excerptLimit : Nat := 50

/-- As many characters from the start as fit into a number of octets. -/
def takeOctets (n : Nat) : List Char → List Char
  | [] => []
  | c :: r => if c.utf8Size ≤ n then c :: takeOctets (n - c.utf8Size) r else []

/-- A text, or its two ends if it is too long: each has half of the octets. -/
def excerpt (cs : List Char) : List Char :=
  if (octets cs).length ≤ excerptLimit then cs
  else
    takeOctets (excerptLimit / 2) cs ++ "...".toList ++
      (takeOctets (excerptLimit / 2 - 1) cs.reverse).reverse

end StorageLedger.Value
