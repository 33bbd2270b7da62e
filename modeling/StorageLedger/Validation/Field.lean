import StorageLedger.Validation.Integer

namespace StorageLedger.Validation
open StorageLedger.Text StorageLedger.Calendar StorageLedger.Number

/-- Where a value was made: in a JSON document, or by a caller. It decides a wording only. -/
inductive Origin where
  | document
  | caller
deriving DecidableEq, Repr

/-- The text that a value is. Octets count as UTF-8. -/
def text : Value → Except Complaint String
  | .text s => .ok s
  | .bytes bs =>
    match decode? bs with
    | some cs => .ok (String.ofList cs)
    | none => .error .textEncoding
  | _ => .error .textType

/-- The workspace identifier that a value is or denotes. Octets are a text or the number itself. -/
def workspaceId : Value → Except Complaint WorkspaceId
  | .workspaceId id => .ok id
  | .text s => (WorkspaceId.ofText s.toList).mapError .workspaceIdText
  | .bytes bs =>
    match (decode? bs).bind fun cs => (WorkspaceId.ofText cs).toOption with
    | some id => .ok id
    | none => (WorkspaceId.ofOctets bs).mapError .workspaceIdText
  | _ => .error .workspaceIdType

def timestampOctets (bs : List UInt8) : List Char := bs.map fun b => Char.ofNat b.toNat

def timestampOfFloat (x : Binary64) : Except Complaint Timestamp :=
  match ofFloat? x with
  | some result => result.mapError fun fault => .timestampNumber (.outOfRange fault)
  | none => .error (.timestampNumber .notANumber)

/-- The timestamp that a value is or denotes, with any year. -/
def anyTimestamp : Value → Except Complaint Timestamp
  | .timestamp t => .ok t
  | .date d => .ok (.ofDate d)
  | .text s => (Timestamp.ofText (timestampOctets (stringOctets s))).mapError .timestampText
  | .bytes bs => (Timestamp.ofText (timestampOctets bs)).mapError .timestampText
  | .int n => (ofCount n).mapError fun fault => .timestampNumber (.outOfRange fault)
  | .float x => timestampOfFloat x
  | .decimal (.nan true) => .error .timestampType
  | .decimal d => timestampOfFloat d.toBinary64
  | _ => .error .timestampType

/-- The timestamp that a value is or denotes. There is no year zero. -/
def timestamp (v : Value) : Except Complaint Timestamp := do
  let t ← anyTimestamp v
  if t.date.year = 0 then .error (.timestampNumber .yearZero) else .ok t

/-- A timestamp that may be absent. -/
def optionalTimestamp : Value → Except Complaint (Option Timestamp)
  | .null => .ok none
  | v => (timestamp v).map some

def required (read : Value → Except Complaint α) (name : String)
    (members : List (String × Value)) : Except (List Issue) α :=
  match Value.member? name members with
  | some v => (read v).mapError fun complaint => [⟨[.field name], complaint, v⟩]
  | none => .error [⟨[.field name], .missing, .object members⟩]

/-- A field of an object that may be left out. -/
def optional (read : Value → Except Complaint α) (absent : α) (name : String)
    (members : List (String × Value)) : Except (List Issue) α :=
  match Value.member? name members with
  | some v => (read v).mapError fun complaint => [⟨[.field name], complaint, v⟩]
  | none => .ok absent

/-- Two readings together: the issues of the first come before those of the second. -/
def both (first : Except (List Issue) α) (second : Except (List Issue) β) :
    Except (List Issue) (α × β) :=
  match first, second with
  | .ok a, .ok b => .ok (a, b)
  | .error e, .ok _ => .error e
  | .ok _, .error e => .error e
  | .error e, .error e' => .error (e ++ e')

/-- The members of a value that is an object. -/
def members (subject : Subject) (origin : Origin) :
    Value → Except (List Issue) (List (String × Value))
  | .object members => .ok members
  | v =>
    let complaint := match origin with
      | .document => .notObject
      | .caller => .notInstance subject
    .error [⟨[], complaint, v⟩]

end StorageLedger.Validation
