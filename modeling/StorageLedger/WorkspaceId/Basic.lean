import StorageLedger.Text.Blank
import StorageLedger.Text.Numeral

namespace StorageLedger
open StorageLedger.Text

def WorkspaceId.count : Nat := 0x100000000000000000000000000000000

structure WorkspaceId where
  number : Nat
  lt : number < WorkspaceId.count
deriving DecidableEq, Repr

namespace WorkspaceId

/-- The identifier with a number, if it has one. -/
def ofNumber? (n : Int) : Option WorkspaceId :=
  if h : 0 ≤ n ∧ n.toNat < count then some ⟨n.toNat, h.2⟩ else none

def digits (id : WorkspaceId) : List Char := hexDigits 32 id.number

/-- Five groups of digits with hyphens between them. -/
def hyphenate (cs : List Char) : List Char :=
  cs.take 8 ++ '-' :: (cs.drop 8).take 4 ++ '-' :: (cs.drop 12).take 4 ++
    '-' :: (cs.drop 16).take 4 ++ '-' :: cs.drop 20

def text (id : WorkspaceId) : List Char := hyphenate id.digits

def toString (id : WorkspaceId) : String := String.ofList id.text

def isBrace (c : Char) : Bool := c == '\x7b' || c == '\x7d'

/-- What is left of a spelling without resource-name marks, outer braces and hyphens. -/
def skeleton (cs : List Char) : List Char :=
  (trim isBrace (removeAll "uuid:".toList (removeAll "urn:".toList cs))).filter (· ≠ '-')

/-- The identifier that a free spelling denotes: thirty-two characters must be left of it, and they
must be a hexadecimal numeral. -/
def ofSpelling? (cs : List Char) : Option WorkspaceId :=
  if (skeleton cs).length = 32 then (hexNumeral? (skeleton cs)).bind ofNumber? else none

end WorkspaceId
end StorageLedger
