import StorageLedger.Store.Failure
import StorageLedger.Store.Statement
import StorageLedger.Store.Table

namespace StorageLedger.Store
open StorageLedger.Calendar

/-- The reply to a statement: a number of affected rows, or rows of named columns. -/
inductive Reply where
  | affected (n : Int)
  | rows (columns : List String) (cells : List (List Value))
deriving Repr

namespace Reply

/-- A reply of one row with one column. -/
def scalar (v : Value) : Reply := .rows ["scalar"] [[v]]

def scalar? : Reply → Option Value
  | .rows _ (row :: _) => row.head?
  | _ => none

def cells : Reply → List (List Value)
  | .rows _ cells => cells
  | .affected _ => []

def affectedRows : Reply → Int
  | .affected n => n
  | .rows _ cells => cells.length

def objects : Reply → List Value
  | .rows columns cells => cells.map fun row => .object (columns.zip row)
  | .affected _ => []

end Reply

/-- Why a row with a size cannot be stored. -/
def sizeFailure? (size : Int) : Option Failure :=
  if size < 0 then some .negativeSize
  else if Validation.maxSize < size then some .oversize
  else none

/-- One row of an insertion that passes over keys that are present. -/
def insertOne (now : Timestamp) (w : WorkspaceId) (t : Table) (entry : String × String × Int) :
    Except Failure Table :=
  let (fileId, fileType, fileSize) := entry
  -- An entry whose key is present is not even checked.
  if t.contains (w, fileId) then .ok t
  else match sizeFailure? fileSize with
    | some failure => .error failure
    | none => .ok (t.putIfAbsent ⟨w, fileId, fileType, fileSize, now⟩)

/-- Rows of an insertion, in order. The first that cannot be stored fails them all. -/
def insertAll (now : Timestamp) (w : WorkspaceId) (t : Table)
    (entries : List (String × String × Int)) : Except Failure Table :=
  entries.foldlM (insertOne now w) t

/-- The sum of the sizes in a workspace, absent when there are no rows. -/
def totalSize (t : Table) (w : WorkspaceId) : Value :=
  match t.inWorkspace w with
  | [] => .null
  | rows =>
    let sum := (rows.map Row.fileSize).foldr (· + ·) 0
    .decimal (.finite (sum < 0) sum.natAbs 0)

/-- A reply of whole rows. -/
def rowsReply (rows : List Row) : Reply := .rows Record.columns (rows.map fun r => r.toRecord.cells)

/-- Executes a statement at a time on a table. -/
def execute (now : Timestamp) (t : Table) : Statement → Except Failure (Reply × Table)
  | .contains w fileId => .ok (.scalar (.bool (t.contains (w, fileId))), t)
  | .lookUp w fileId => .ok (rowsReply (t.withKey (w, fileId)), t)
  | .listRows w => .ok (rowsReply (t.inWorkspace w), t)
  | .listIds w => .ok (.rows ["file_id"] ((t.inWorkspace w).map fun r => [.text r.fileId]), t)
  | .total w => .ok (.scalar (totalSize t w), t)
  | .upsert w fileId fileType fileSize =>
    match sizeFailure? fileSize with
    | some failure => .error failure
    | none => .ok (.affected 1, t.put ⟨w, fileId, fileType, fileSize, now⟩)
  | .insertAbsent w fileIds fileTypes fileSizes =>
    (insertAll now w t (fileIds.zip (fileTypes.zip fileSizes))).map fun t' =>
      (.affected (t'.rows.length - t.rows.length : Nat), t')
  | .delete w fileId =>
    let t' := t.erase (w, fileId)
    .ok (.affected (t.rows.length - t'.rows.length : Nat), t')
  | .createTable => .ok (.affected 0, t)
  | .dropTable => .ok (.affected 0, .empty)

end StorageLedger.Store

namespace StorageLedger
open StorageLedger.Calendar StorageLedger.Store

/-- A store: its clock, and its script if it follows one. -/
structure Store where
  now : Timestamp
  /-- The reply that a script fixes. -/
  script : Option Reply := none

def Store.run (store : Store) (t : Table) (s : Statement) : Except Failure (Reply × Table) :=
  match store.script with
  | some reply => .ok (reply, t)
  | none => execute store.now t s

end StorageLedger
