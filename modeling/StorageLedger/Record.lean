import StorageLedger.Validation.Field

namespace StorageLedger
open StorageLedger.Validation StorageLedger.Calendar

/-- A row of the ledger. -/
structure Record where
  workspaceId : WorkspaceId
  fileId : String
  fileType : String
  fileSize : Int
  /-- When the row was last written, if known. -/
  modifiedAt : Option Timestamp
deriving DecidableEq, Repr

namespace Record

def ofMembers (ms : List (String × Value)) : Except (List Issue) Record :=
  (both (required Validation.workspaceId "workspace_id" ms) <|
    both (required text "file_id" ms) <| both (required text "file_type" ms) <|
    both (required size "file_size" ms) (optional optionalTimestamp none "modified_at" ms)).map
      fun (workspaceId, fileId, fileType, fileSize, modifiedAt) =>
        ⟨workspaceId, fileId, fileType, fileSize, modifiedAt⟩

/-- The record that a value holds, or all that is wrong with it. -/
def ofValue (v : Value) : Except Rejection Record :=
  ((members .record .caller v).bind ofMembers).mapError (⟨.record, ·⟩)

/-- The record after an attribute is set. Attributes are frozen; only names that start with an
underscore are not attributes of the record and leave it as it is. -/
def assign (r : Record) (name : String) (v : Value) : Except Rejection Record :=
  if name.toList.head? = some '_' then .ok r
  else .error ⟨.record, [⟨[.field name], .frozen, v⟩]⟩

def columns : List String := ["workspace_id", "file_id", "file_type", "file_size", "modified_at"]

def cells (r : Record) : List Value :=
  [.workspaceId r.workspaceId, .text r.fileId, .text r.fileType, .int r.fileSize,
    match r.modifiedAt with
    | some t => .timestamp t
    | none => .null]

end Record
end StorageLedger
