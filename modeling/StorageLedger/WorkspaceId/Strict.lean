import StorageLedger.WorkspaceId.Basic

namespace StorageLedger.WorkspaceId
open StorageLedger.Text

/-- Why a text is no strict spelling of an identifier. -/
inductive Fault where
  | length (found : Nat)
  | octetCount (found : Nat)
  | character (c : Char) (position : Nat)
  | groupCount (found : Nat)
  | groupLength (group expected found : Nat)
deriving DecidableEq, Repr

def Fault.message : Fault → String
  | .length found => "invalid length: found " ++ found.repr
  | .octetCount found => "invalid length: expected 16 bytes, found " ++ found.repr
  | .character c position =>
    "invalid character: found `" ++ c.toString ++ "` at " ++ position.repr
  | .groupCount found => "invalid group count: expected 5, found " ++ found.repr
  | .groupLength group expected found =>
    "invalid group length in group " ++ group.repr ++ ": expected " ++ expected.repr ++
      ", found " ++ found.repr

def octetCount (cs : List Char) : Nat := (cs.map Char.utf8Size).foldr (· + ·) 0

def resourceMark : List Char := "urn:uuid:".toList

def inBraces? : List Char → Option (List Char)
  | c :: r => if c = '\x7b' ∧ r.getLast? = some '\x7d' then some r.dropLast else none
  | [] => none

/-- The digits of five groups with hyphens at their places. -/
def ungroup? (cs : List Char) : Option (List Char) :=
  let digits := cs.filter (· ≠ '-')
  if digits.length = 32 ∧ hyphenate digits = cs then some digits else none

def strictDigits? (cs : List Char) : Option (List Char) :=
  if cs.length = 32 then some cs
  else
    (ungroup? cs).or <| ((inBraces? cs).bind ungroup?).or <|
      if resourceMark.isPrefixOf cs then ungroup? (cs.drop resourceMark.length) else none

def ofDigits? (cs : List Char) : Option WorkspaceId :=
  (readDigits (fun c => hexDigit? c) 16 0 false cs).bind fun n =>
    if cs.length = 32 ∧ cs.all (fun c => (hexDigit? c).isSome) then ofNumber? n else none

/-- The first character that is no digit and no hyphen, with the number of octets before it. -/
def firstStray : (position : Nat) → List Char → Option (Char × Nat)
  | _, [] => none
  | position, c :: r =>
    if c = '-' ∨ (hexDigit? c).isSome then firstStray (position + c.utf8Size) r
    else some (c, position)

def groupLengths : List Nat := [8, 4, 4, 4, 12]

/-- The first of the leading four groups that has another length than it should. -/
def wrongGroup? (cs : List Char) : Option Fault :=
  ((splitAtChar '-' cs).zip (groupLengths.zipIdx)).take 4 |>.findSome?
    fun (piece, expected, group) =>
      if piece.length = expected then none else some (.groupLength group expected piece.length)

/-- The fault of a text that is no strict spelling. -/
def faultOf (cs : List Char) : Fault :=
  -- The longest spelling is a grouped one behind the mark of a resource name.
  if 45 < octetCount cs then .length (octetCount cs)
  else
    let (body, offset, bare) := match inBraces? cs with
      | some body => (body, 1, false)
      | none =>
        if resourceMark.isPrefixOf cs then (cs.drop resourceMark.length, resourceMark.length, false)
        else (cs, 0, true)
    match firstStray offset body with
    | some (c, position) => .character c position
    | none =>
      let hyphens := body.count '-'
      if hyphens = 0 ∧ bare then .length cs.length
      else if hyphens ≠ 4 then .groupCount (hyphens + 1)
      -- If the first four groups are right, the last one is to blame.
      else (wrongGroup? body).getD (.groupLength 4 12 (cs.length - 24))

def ofText (cs : List Char) : Except Fault WorkspaceId :=
  match (strictDigits? cs).bind ofDigits? with
  | some id => .ok id
  | none => .error (faultOf cs)

/-- The identifier of sixteen octets, the highest first. -/
def ofOctets (bs : List UInt8) : Except Fault WorkspaceId :=
  if bs.length = 16 then
    match ofNumber? (bs.foldl (fun n b => n * 256 + b.toNat) 0 : Nat) with
    | some id => .ok id
    | none => .error (.octetCount bs.length)
  else .error (.octetCount bs.length)

end StorageLedger.WorkspaceId
