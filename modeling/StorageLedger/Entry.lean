import StorageLedger.Json.Reader
import StorageLedger.Validation.Field

namespace StorageLedger
open StorageLedger.Validation StorageLedger.Text

/-- An entry of a bulk load. -/
structure Entry where
  objectId : String
  fileId : String
  fileType : String
  fileSize : Int
deriving DecidableEq, Repr

/-- The ledger key of a file within an object. -/
def blobKey (objectId fileId : String) : String := objectId ++ "_" ++ fileId

namespace Entry

def key (e : Entry) : String := blobKey e.objectId e.fileId

def ofMembers (ms : List (String × Value)) : Except (List Issue) Entry :=
  (both (required text "object_id" ms) <| both (required text "file_id" ms) <|
    both (required text "file_type" ms) (required size "file_size" ms)).map
      fun (objectId, fileId, fileType, fileSize) => ⟨objectId, fileId, fileType, fileSize⟩

/-- The entry that a value holds, or all that is wrong with it. -/
def ofValueFrom (origin : Origin) (v : Value) : Except (List Issue) Entry := do
  ofMembers (← members .entry origin v)

def ofValue (v : Value) : Except Rejection Entry :=
  (ofValueFrom .caller v).mapError (⟨.entry, ·⟩)

/-- The entries of the items of a list, from an index on. -/
def ofItems : (index : Nat) → List Value → Except (List Issue) (List Entry)
  | _, [] => .ok []
  | i, v :: vs =>
    (both ((ofValueFrom .document v).mapError (·.map (.under (.index i)))) (ofItems (i + 1) vs)).map
      fun (e, es) => e :: es

def ofJson (v : Json) : Except Rejection (List Entry) :=
  match v.toValue with
  | .list items => (ofItems 0 items).mapError (⟨.manifest, ·⟩)
  | v => .error ⟨.manifest, [⟨[], .notList, v⟩]⟩

def ofManifest (bs : List UInt8) : Except Rejection (List Entry) :=
  match Json.read .manifest bs with
  | .ok v => ofJson v
  | .error stop =>
    let (line, column) := Json.place bs stop.index
    .error ⟨.manifest, [⟨[], .notJson stop.fault line column, .bytes bs⟩]⟩

end Entry
end StorageLedger
