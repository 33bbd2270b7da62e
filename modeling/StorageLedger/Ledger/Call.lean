import StorageLedger.Entry
import StorageLedger.Ledger.Run

namespace StorageLedger.Ledger
open StorageLedger.Store StorageLedger.Validation

/-- What a call is made through: an engine gives each call a transaction of its own, a connection or
a session runs it in the transaction of the caller. -/
inductive Handle where
  | engine
  | connection
  | session
deriving DecidableEq, Repr

/-- A batch of entries: values still to be validated, or entries made without validation. -/
inductive Batch where
  | values (vs : List Value)
  | entries (es : List Entry)

/-- The entries of a batch, or what is wrong with the first value that is none. -/
def Batch.entries? : Batch → Except Rejection (List Entry)
  | .values vs => vs.mapM Entry.ofValue
  | .entries es => .ok es

inductive Call where
  | contains (w : WorkspaceId) (fileId : String)
  | upsert (w : WorkspaceId) (fileId fileType : String) (fileSize : Value)
  | insertBulk (w : WorkspaceId) (batch : Batch)
  | delete (w : WorkspaceId) (fileId : String)
  | get (w : WorkspaceId) (fileId : String)
  | listRecords (w : WorkspaceId)
  | listIds (w : WorkspaceId)
  | usage (w : WorkspaceId)
  | createSchema
  | resetSchema

def Call.name : Call → String
  | .contains _ _ => "is_blob_metadata_exists"
  | .upsert _ _ _ _ => "upsert_blob_metadata"
  | .insertBulk _ _ => "insert_blob_metadata_bulk"
  | .delete _ _ => "delete_blob_metadata"
  | .get _ _ => "get_blob_metadata"
  | .listRecords _ => "get_all_workspace_blob_metadata"
  | .listIds _ => "get_all_workspace_blob_ids"
  | .usage _ => "get_workspace_usage_size"
  | .createSchema => "init_db"
  | .resetSchema => "reset_db"

inductive Outcome where
  | nothing
  | truth (b : Bool)
  | count (n : Int)
  | record (r : Record)
  | records (rs : List Record)
  | ids (vs : List Value)

/-- What a call is going to do: answer at once, or send statements, read the last reply while the
transaction is open, and make its result of it afterwards. -/
inductive Plan where
  | answer (result : Except LedgerError Outcome)
  | send (statements : List Statement) (read : Reply → Except Failure Reply)
      (conclude : Reply → Except LedgerError Outcome × List LogRecord)

def sortedIds (vs : List Value) : List Value :=
  vs.mergeSort fun
    | .text a, .text b => a ≤ b
    | .int a, .int b => a ≤ b
    | _, _ => true

def sortedRecords (rs : List Record) : List Record := rs.mergeSort fun a b => a.fileId ≤ b.fileId

def plainLog (level : Level) (message : String) : LogRecord := ⟨level, message, none⟩

/-- Whether a value counts as true: all but nothing, zeros and what is empty. -/
def truthy : Value → Bool
  | .null => false
  | .bool b => b
  | .int n => n != 0
  | .float (.finite _ mantissa _) => mantissa != 0
  | .decimal (.finite _ coefficient _) => coefficient != 0
  | .text s => s != ""
  | .bytes bs => !bs.isEmpty
  | .list vs => !vs.isEmpty
  | .object ms => !ms.isEmpty
  | _ => true

/-- A reply of at most one row. -/
def atMostOneRow (reply : Reply) : Except Failure Reply :=
  match reply.cells with
  | _ :: _ :: _ => .error .multipleRows
  | _ => .ok reply

def recordOf (w : WorkspaceId) (fileId : String) (reply : Reply) : Except LedgerError Outcome :=
  match reply.objects with
  | [] => .error (.notFound w fileId)
  | v :: _ => (Record.ofValue v).map .record |>.mapError .rejected

def recordsOf (reply : Reply) : Except LedgerError Outcome :=
  (reply.objects.mapM Record.ofValue).map .records |>.mapError .rejected

def usageOf (reply : Reply) : Except LedgerError Outcome :=
  (Usage.clamp (reply.scalar?.getD .null)).map (fun n => .count n) |>.mapError .usage

/-- The log records of an upsert, which should affect one row. -/
def upsertLogs (w : WorkspaceId) (fileId : String) (n : Int) : List LogRecord :=
  if n = 1 then []
  else [⟨.error, "upsert_blob_metadata: rows_affected: " ++ n.repr, some ⟨w.toString, fileId, n⟩⟩]

def bulkLog (w : WorkspaceId) (inserted : Int) (size : Nat) : LogRecord :=
  plainLog .info ("insert_blob_metadata_bulk: workspace_id: " ++ w.toString ++ ", inserted: " ++
    inserted.repr ++ " of " ++ size.repr)

def planBulk (w : WorkspaceId) (es : List Entry) : Plan :=
  -- An empty batch sends nothing and logs nothing.
  if es.isEmpty then .answer (.ok (.count 0))
  else
    .send [.insertAbsent w (es.map Entry.key) (es.map Entry.fileType) (es.map Entry.fileSize)] .ok
      fun reply => (.ok (.count reply.affectedRows), [bulkLog w reply.affectedRows es.length])

def Call.plan (handle : Handle) : Call → Plan
  | .contains w fileId =>
    .send [.contains w fileId] .ok fun reply =>
      (.ok (.truth (truthy (reply.scalar?.getD .null))), [])
  | .upsert w fileId fileType fileSize =>
    match Validation.fileSize fileSize with
    | .error r => .answer (.error (.rejected r))
    | .ok size =>
      .send [.upsert w fileId fileType size] .ok fun reply =>
        (.ok .nothing, upsertLogs w fileId reply.affectedRows)
  | .insertBulk w batch =>
    match batch.entries? with
    | .error r => .answer (.error (.rejected r))
    | .ok es => planBulk w es
  | .delete w fileId =>
    -- A removal belongs into a unit of work, which an engine does not offer.
    if handle = .engine then .answer (.error .needsUnitOfWork)
    else
      .send [.delete w fileId] .ok fun reply =>
        (.ok .nothing,
          [plainLog .info ("delete_blob_metadata: rows_affected: " ++ reply.affectedRows.repr)])
  | .get w fileId =>
    .send [.lookUp w fileId] atMostOneRow fun reply => (recordOf w fileId reply, [])
  | .listRecords w => .send [.listRows w] .ok fun reply => (recordsOf reply, [])
  | .listIds w =>
    .send [.listIds w] .ok fun reply => (.ok (.ids (reply.cells.filterMap List.head?)), [])
  | .usage w => .send [.total w] .ok fun reply => (usageOf reply, [])
  | .createSchema => .send [.createTable] .ok fun _ => (.ok .nothing, [])
  | .resetSchema => .send [.dropTable, .createTable] .ok fun _ => (.ok .nothing, [])

def Call.openingLogs : Call → List LogRecord
  | .get w fileId =>
    [plainLog .debug ("get_blob_metadata: workspace_id: " ++ w.toString ++ ", file_id: " ++ fileId)]
  | _ => []

/-- A call reports failures of the store as its own. Those of the schema are passed on. -/
def Call.reports : Call → Bool
  | .createSchema => false
  | .resetSchema => false
  | _ => true

/-- A failure as the error of a call, with its log record. -/
def Call.errorOf (c : Call) (failure : Failure) : LedgerError × List LogRecord :=
  if c.reports && failure.isStoreFailure then
    (.storeFailure c.name failure,
      [plainLog .error (c.name ++ ": store failure: " ++ failure.text)])
  else (.passedOn failure, [])

/-- The run of a call, made of the run of its statements. -/
def Call.conclude (c : Call) (conclude : Reply → Except LedgerError Outcome × List LogRecord)
    (run : Run Failure Reply) : Run LedgerError Outcome :=
  run.finish fun
    | .ok reply => conclude reply
    | .error failure =>
      let (e, logs) := c.errorOf failure
      (.error e, logs)

/-- Statements in order, and a reading of the last reply that may fail the work. -/
def performRead (store : Store) (fault : Option Failure) (statements : List Statement)
    (read : Reply → Except Failure Reply) (t : Table) : Run Failure Reply :=
  let run := perform store fault (.affected 0) statements t
  { run with result := run.result >>= read }

/-- A call through a handle. Through an engine the table is the committed one and the statements run
in a transaction of their own; otherwise the table is the one that the caller sees. -/
def Call.run (c : Call) (store : Store) (handle : Handle) (fault : Option Fault) (t : Table) :
    Run LedgerError Outcome :=
  let run : Run LedgerError Outcome := match c.plan handle with
    | .answer result => .idle result t
    | .send statements read conclude =>
      let work := performRead store (faultAt fault .execute) statements read
      c.conclude conclude <|
        if handle = .engine then
          ownTransaction (faultAt fault .connect) (faultAt fault .commit) work t
        else work t
  -- The opening records come first, whatever becomes of the call.
  { run with logs := c.openingLogs ++ run.logs }

end StorageLedger.Ledger
