namespace StorageLedger.Command

inductive Verb where
  | createSchema
  | resetSchema
  | usage
  | list
  | inspect
  | put
  | remove
  | load
deriving DecidableEq, Repr

def Verb.all : List Verb :=
  [.createSchema, .resetSchema, .usage, .list, .inspect, .put, .remove, .load]

def Verb.name : Verb → String
  | .createSchema => "init-db"
  | .resetSchema => "reset-db"
  | .usage => "usage"
  | .list => "ls"
  | .inspect => "show"
  | .put => "put"
  | .remove => "rm"
  | .load => "import"

def Verb.ofName? (name : String) : Option Verb := Verb.all.find? fun v => v.name == name

inductive Switch where
  | verbose
  | force
  | idsOnly
  | fileType
  | fileSize
  | help
deriving DecidableEq, Repr

def Switch.long : Switch → String
  | .verbose => "--verbose"
  | .force => "--force"
  | .idsOnly => "--ids-only"
  | .fileType => "--type"
  | .fileSize => "--size"
  | .help => "--help"

def Switch.letter? : Switch → Option Char
  | .verbose => some 'v'
  | .force => some 'f'
  | .idsOnly => none
  | .fileType => some 't'
  | .fileSize => some 's'
  | .help => none

def Switch.takesValue : Switch → Bool
  | .fileType => true
  | .fileSize => true
  | _ => false

/-- The names of an option as a message gives them. -/
def Switch.hint (s : Switch) : String :=
  "'" ++ s.long ++ "'" ++
    match s.letter? with
    | some letter => " / '-" ++ letter.toString ++ "'"
    | none => ""

inductive Operand where
  | workspace
  | fileId
  | manifest
deriving DecidableEq, Repr

def Operand.name : Operand → String
  | .workspace => "workspace"
  | .fileId => "file_id"
  | .manifest => "manifest"

def Verb.switches : Verb → List Switch
  | .resetSchema => [.force, .help]
  | .list => [.idsOnly, .help]
  | .put => [.fileType, .fileSize, .help]
  | _ => [.help]

def Verb.operands : Verb → List Operand
  | .createSchema => []
  | .resetSchema => []
  | .usage => [.workspace]
  | .list => [.workspace]
  | .inspect => [.workspace, .fileId]
  | .put => [.workspace, .fileId]
  | .remove => [.workspace, .fileId]
  | .load => [.workspace, .manifest]

def commonSwitches : List Switch := [.verbose, .help]

end StorageLedger.Command
