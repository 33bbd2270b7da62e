import StorageLedger.Store.Failure
import StorageLedger.Usage
import StorageLedger.Validation.Issue

namespace StorageLedger.Ledger
open StorageLedger.Text

/-- Why a ledger call has no result. -/
inductive LedgerError where
  | storeFailure (operation : String) (cause : Store.Failure)
  | notFound (w : WorkspaceId) (fileId : String)
  | rejected (r : Validation.Rejection)
  | passedOn (f : Store.Failure)
  | usage (f : Usage.Fault)
  | needsUnitOfWork
  | malformedWorkspaceId
deriving Repr

/-- The text of a miss: both parts of the key, the file in quotes. -/
def notFoundMessage (w : WorkspaceId) (fileId : String) : String :=
  "Blob metadata not found: workspace=" ++ w.toString ++ " file_id=" ++
    String.ofList (quoted fileId.toList)

/-- The text of an error. A rejection speaks through its issues. -/
def LedgerError.message : LedgerError → String
  | .storeFailure operation cause => operation ++ ": " ++ cause.text
  | .notFound w fileId => notFoundMessage w fileId
  | .rejected _ => ""
  | .passedOn f => f.text
  | .usage f => f.message
  | .needsUnitOfWork => "delete_blob_metadata needs a connection or session, not an engine"
  | .malformedWorkspaceId => "badly formed hexadecimal UUID string"

end StorageLedger.Ledger
