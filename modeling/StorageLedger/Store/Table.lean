import StorageLedger.Record

namespace StorageLedger.Store
open StorageLedger.Calendar

structure Row where
  workspaceId : WorkspaceId
  fileId : String
  fileType : String
  fileSize : Int
  modifiedAt : Timestamp
deriving DecidableEq, Repr

/-- What a row is found by. -/
abbrev Key := WorkspaceId × String

def Row.key (r : Row) : Key := (r.workspaceId, r.fileId)

/-- A row as callers see it. -/
def Row.toRecord (r : Row) : Record :=
  ⟨r.workspaceId, r.fileId, r.fileType, r.fileSize, some r.modifiedAt⟩

/-- The rows of a table, in no order that matters. -/
structure Table where
  rows : List Row
deriving DecidableEq, Repr

namespace Table

def empty : Table := ⟨[]⟩

def find? (t : Table) (k : Key) : Option Row := t.rows.find? fun r => r.key == k

def contains (t : Table) (k : Key) : Bool := t.rows.any fun r => r.key == k

def inWorkspace (t : Table) (w : WorkspaceId) : List Row :=
  t.rows.filter fun r => r.workspaceId == w

def withKey (t : Table) (k : Key) : List Row := t.rows.filter fun r => r.key == k

/-- The table with a row in place of the row of its key, or behind the others. -/
def put (t : Table) (row : Row) : Table :=
  -- A new row takes the place of the old one.
  if t.contains row.key then ⟨t.rows.map fun r => if r.key = row.key then row else r⟩
  else ⟨t.rows ++ [row]⟩

/-- The table with a row, unless there is a row of its key. -/
def putIfAbsent (t : Table) (row : Row) : Table :=
  if t.contains row.key then t else ⟨t.rows ++ [row]⟩

def erase (t : Table) (k : Key) : Table := ⟨t.rows.filter fun r => r.key != k⟩

/-- The rows in the order of their workspaces and keys. -/
def sorted (t : Table) : List Row :=
  t.rows.mergeSort fun a b =>
    a.workspaceId.number < b.workspaceId.number ||
      (a.workspaceId.number == b.workspaceId.number && a.fileId ≤ b.fileId)

end Table
end StorageLedger.Store
