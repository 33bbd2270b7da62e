namespace StorageLedger.Ledger

inductive Level where
  | notSet
  | debug
  | info
  | warning
  | error
  | critical
deriving DecidableEq, Repr

def Level.name : Level → String
  | .notSet => "NOTSET"
  | .debug => "DEBUG"
  | .info => "INFO"
  | .warning => "WARNING"
  | .error => "ERROR"
  | .critical => "CRITICAL"

def Level.rank : Level → Nat
  | .notSet => 0
  | .debug => 10
  | .info => 20
  | .warning => 30
  | .error => 40
  | .critical => 50

/-- The level that a name denotes. Two levels have a second name. -/
def Level.ofName? : String → Option Level
  | "NOTSET" => some .notSet
  | "DEBUG" => some .debug
  | "INFO" => some .info
  | "WARN" => some .warning
  | "WARNING" => some .warning
  | "ERROR" => some .error
  | "FATAL" => some .critical
  | "CRITICAL" => some .critical
  | _ => none

/-- The row that an anomaly concerns. -/
structure Anomaly where
  /-- The written form of the workspace. -/
  workspaceId : String
  fileId : String
  /-- The number of rows that the store reported. -/
  rowsAffected : Int
deriving DecidableEq, Repr

structure LogRecord where
  level : Level
  message : String
  /-- The row it concerns, for an anomaly. -/
  anomaly : Option Anomaly
deriving DecidableEq, Repr

/-- The records that a logger of some level lets through. -/
def logged (level : Level) (logs : List LogRecord) : List LogRecord :=
  logs.filter fun record => level.rank ≤ record.level.rank

end StorageLedger.Ledger
