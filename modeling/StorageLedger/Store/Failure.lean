import StorageLedger.Text.Quoted

namespace StorageLedger.Store
open StorageLedger.Text

/-- What went wrong in the store or on the way to it. -/
inductive Failure where
  | system (code : Option Int) (message : String)
  | timeout (message : String)
  | server (message : String)
  | credentials (message : String)
  | statement (message : String)
  | integrity (message : String)
  | operational (message : String) (sql : Option String)
  | driver (message : String)
  | runtime (message : String)
  | value (message : String)
  | key (message : String)
  | negativeSize
  | oversize
  | multipleRows
deriving DecidableEq, Repr

namespace Failure

/-- A line that points to a help page about a class of failures. -/
def background (code : String) : String :=
  "(Background on this error at: " ++ "https:" ++ "//sqlalche.me/e/21/" ++ code ++ ")"

def text : Failure → String
  | .system (some code) message => "[Errno " ++ code.repr ++ "] " ++ message
  | .system none message => message
  | .timeout message => message
  | .server message => message
  | .credentials message => message
  | .statement message => message
  | .integrity message => "(builtins.Exception) " ++ message ++ "\n" ++ background "gkpj"
  | .operational message sql =>
    "(builtins.Exception) " ++ message ++
      (match sql with
      | some sql => "\n[SQL: " ++ sql ++ "]\n"
      | none => "\n") ++ background "e3q8"
  | .driver message => message
  | .runtime message => message
  | .value message => message
  | .key message => String.ofList (quoted message.toList)
  | .negativeSize =>
    "(asyncpg.exceptions.CheckViolationError) new row for relation \"af_blob_metadata\" " ++
      "violates check constraint \"ck_af_blob_metadata_file_size\"\n" ++ background "gkpj"
  | .oversize =>
    "(asyncpg.exceptions.DataError) value out of int64 range\n" ++ background "dbapi"
  | .multipleRows => "Multiple rows were found when one or none was required"

/-- The failures that the ledger reports as failures of the store. -/
def isStoreFailure : Failure → Bool
  | .driver _ => false
  | .runtime _ => false
  | .value _ => false
  | .key _ => false
  | _ => true

end Failure
end StorageLedger.Store
