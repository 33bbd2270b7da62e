import StorageLedger.Json.Basic
import StorageLedger.Number.Shortest

namespace StorageLedger.Json
open StorageLedger.Text

def unitEscape (n : Nat) : List Char := '\\' :: 'u' :: hexDigits 4 n

def writeChar (c : Char) : List Char :=
  if c = '"' ∨ c = '\\' then ['\\', c]
  else if 0x20 ≤ c.toNat ∧ c.toNat < 0x7F then [c]
  else if c.toNat < 0x10000 then unitEscape c.toNat
  else
    let n := c.toNat - 0x10000
    unitEscape (0xD800 + n / 0x400) ++ unitEscape (0xDC00 + n % 0x400)

def writeText (s : String) : List Char := '"' :: s.toList.flatMap writeChar ++ ['"']

def joined : List (List Char) → List Char
  | [] => []
  | [item] => item
  | item :: rest => item ++ ',' :: joined rest

/-- The text of a number that may be undefined or infinite. -/
def writeFloat : Number.Binary64 → List Char
  | .nan => "NaN".toList
  | .infinite negative => if negative then "-Infinity".toList else "Infinity".toList
  | x => x.text

mutual

def write : Json → List Char
  | .null => "null".toList
  | .bool b => if b then "true".toList else "false".toList
  | .int n => integerDigits n
  | .float x => writeFloat x
  | .text s => writeText s
  | .list items => '[' :: joined (writeItems items) ++ [']']
  | .object members => '\x7b' :: joined (writeMembers members) ++ ['\x7d']

def writeItems : List Json → List (List Char)
  | [] => []
  | v :: vs => write v :: writeItems vs

def writeMembers : List (String × Json) → List (List Char)
  | [] => []
  | (name, v) :: ms => (writeText name ++ ':' :: write v) :: writeMembers ms

end

end StorageLedger.Json
