import StorageLedger.WorkspaceId.Basic

namespace StorageLedger.Store

inductive Statement where
  | contains (w : WorkspaceId) (fileId : String)
  | lookUp (w : WorkspaceId) (fileId : String)
  | listRows (w : WorkspaceId)
  | listIds (w : WorkspaceId)
  | total (w : WorkspaceId)
  | upsert (w : WorkspaceId) (fileId fileType : String) (fileSize : Int)
  | insertAbsent (w : WorkspaceId) (fileIds fileTypes : List String) (fileSizes : List Int)
  | delete (w : WorkspaceId) (fileId : String)
  | createTable
  | dropTable
deriving DecidableEq, Repr

inductive Parameter where
  | workspaceId (w : WorkspaceId)
  | text (s : String)
  | integer (n : Int)
  | texts (ss : List String)
  | integers (ns : List Int)
deriving DecidableEq, Repr

namespace Statement

/-- The condition on the workspace, with the placeholder before `$2`. -/
def inWorkspaceSql : String := "af_blob_metadata.workspace_id = $1::UUID"

def withKeySql : String := inWorkspaceSql ++ " AND af_blob_metadata.file_id = $2::VARCHAR"

def fromSql : String := " \nFROM af_blob_metadata \nWHERE "

def columnsSql : String :=
  "af_blob_metadata.workspace_id, af_blob_metadata.file_id, af_blob_metadata.file_type, " ++
    "af_blob_metadata.file_size, af_blob_metadata.modified_at"

def insertSql : String :=
  "INSERT INTO af_blob_metadata (workspace_id, file_id, file_type, file_size) "

def sql : Statement → String
  | .contains _ _ => "SELECT EXISTS (SELECT *" ++ fromSql ++ withKeySql ++ ") AS anon_1"
  | .lookUp _ _ => "SELECT " ++ columnsSql ++ fromSql ++ withKeySql
  | .listRows _ => "SELECT " ++ columnsSql ++ fromSql ++ inWorkspaceSql
  | .listIds _ => "SELECT af_blob_metadata.file_id" ++ fromSql ++ inWorkspaceSql
  | .total _ => "SELECT sum(af_blob_metadata.file_size) AS sum_1" ++ fromSql ++ inWorkspaceSql
  | .upsert _ _ _ _ =>
    insertSql ++ "VALUES ($1::UUID, $2::VARCHAR, $3::VARCHAR, $4::BIGINT) " ++
      "ON CONFLICT (workspace_id, file_id) DO UPDATE SET file_type = excluded.file_type, " ++
      "file_size = excluded.file_size, modified_at = now()"
  | .insertAbsent _ _ _ _ =>
    insertSql ++ "SELECT CAST($1::UUID AS UUID) AS anon_1, " ++
      "unnest(CAST($2::TEXT[] AS TEXT[])) AS unnest_1, " ++
      "unnest(CAST($3::TEXT[] AS TEXT[])) AS unnest_2, " ++
      "unnest(CAST($4::BIGINT[] AS BIGINT[])) AS unnest_3 ON CONFLICT DO NOTHING"
  | .delete _ _ => "DELETE FROM af_blob_metadata WHERE " ++ withKeySql
  | .createTable =>
    "\nCREATE TABLE af_blob_metadata (\n\tworkspace_id UUID NOT NULL, " ++
      "\n\tfile_id TEXT NOT NULL, \n\tfile_type TEXT NOT NULL, \n\tfile_size BIGINT NOT NULL, " ++
      "\n\tmodified_at TIMESTAMP WITH TIME ZONE DEFAULT now() NOT NULL, " ++
      "\n\tPRIMARY KEY (workspace_id, file_id), " ++
      "\n\tCONSTRAINT ck_af_blob_metadata_file_size CHECK (file_size >= 0)\n)\n\n"
  | .dropTable => "\nDROP TABLE af_blob_metadata"

def keyParameters (w : WorkspaceId) (fileId : String) : List (String × Parameter) :=
  [("workspace_id_1", .workspaceId w), ("file_id_1", .text fileId)]

/-- The named parameters of a statement, in the order of their placeholders. -/
def parameters : Statement → List (String × Parameter)
  | .contains w fileId => keyParameters w fileId
  | .lookUp w fileId => keyParameters w fileId
  | .listRows w => [("workspace_id_1", .workspaceId w)]
  | .listIds w => [("workspace_id_1", .workspaceId w)]
  | .total w => [("workspace_id_1", .workspaceId w)]
  | .upsert w fileId fileType fileSize =>
    [("workspace_id", .workspaceId w), ("file_id", .text fileId), ("file_type", .text fileType),
      ("file_size", .integer fileSize)]
  | .insertAbsent w fileIds fileTypes fileSizes =>
    [("workspace_id", .workspaceId w), ("file_ids", .texts fileIds),
      ("file_types", .texts fileTypes), ("file_sizes", .integers fileSizes)]
  | .delete w fileId => keyParameters w fileId
  | .createTable => []
  | .dropTable => []

end Statement
end StorageLedger.Store
