import StorageLedger.Calendar.Timestamp
import StorageLedger.Json.Basic
import StorageLedger.Number.Decimal
import StorageLedger.WorkspaceId.Basic

namespace StorageLedger
open StorageLedger.Number StorageLedger.Calendar

/-- A value from outside. -/
inductive Value where
  | null
  | bool (b : Bool)
  | int (n : Int)
  | float (x : Binary64)
  | decimal (d : Decimal)
  | text (s : String)
  | bytes (bs : List UInt8)
  | workspaceId (id : WorkspaceId)
  | timestamp (t : Timestamp)
  | date (d : Date)
  | list (items : List Value)
  | object (members : List (String × Value))
deriving Repr, Inhabited

namespace Value

def kind : Value → String
  | .null => "NoneType"
  | .bool _ => "bool"
  | .int _ => "int"
  | .float _ => "float"
  | .decimal _ => "decimal.Decimal"
  | .text _ => "str"
  | .bytes _ => "bytes"
  | .workspaceId _ => "UUID"
  | .timestamp _ => "datetime.datetime"
  | .date _ => "datetime.date"
  | .list _ => "list"
  | .object _ => "dict"

/-- The value of a member. Of several members of one name the last one counts. -/
def member? (name : String) (members : List (String × α)) : Option α :=
  (members.reverse.find? fun m => m.1 == name).map (·.2)

/-- Members without repeated names: a name stands where it stood first, with its last value. -/
def distinctMembers (members : List (String × α)) : List (String × α) :=
  (members.map (·.1)).eraseDups.filterMap fun name => (member? name members).map (name, ·)

end Value

mutual

def Json.toValue : Json → Value
  | .null => .null
  | .bool b => .bool b
  | .int n => .int n
  | .float x => .float x
  | .text s => .text s
  | .list items => .list (Json.toValues items)
  | .object members => .object (Json.toMembers members)

def Json.toValues : List Json → List Value
  | [] => []
  | v :: vs => v.toValue :: Json.toValues vs

def Json.toMembers : List (String × Json) → List (String × Value)
  | [] => []
  | (name, v) :: ms => (name, v.toValue) :: Json.toMembers ms

end

end StorageLedger
