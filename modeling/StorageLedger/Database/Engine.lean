import StorageLedger.Database.Url
import StorageLedger.Settings.Basic

namespace StorageLedger.Database
open StorageLedger.Text

/-- Whether statements are echoed, and whether their results are too. -/
inductive Echo where
  | off
  | on
  | debug
deriving DecidableEq, Repr

inductive EngineFault where
  | url (fault : Url.Fault)
  | tooManyDrivers
  | unknownDialect (name : String)
  | missingModule (name : String)
  | blockingDriver (name : String)
deriving DecidableEq, Repr

def EngineFault.message : EngineFault → String
  | .url .malformed => "Could not parse SQLAlchemy URL from given URL string"
  | .url (.portText fault) => fault.message
  | .url .portMissing => "Port argument must be an integer or None"
  | .tooManyDrivers => "too many values to unpack (expected 2)"
  | .unknownDialect name => "Can't load plugin: sqlalchemy.dialects:" ++ name
  | .missingModule name => "No module named '" ++ name ++ "'"
  | .blockingDriver name =>
    "The asyncio extension requires an async driver to be used. The loaded '" ++ name ++
      "' is not async."

/-- What is known of a driver of a dialect. -/
inductive DriverState where
  | usable
  | missing (moduleName : String)
  | blocking (driverName : String)
deriving DecidableEq, Repr

/-- The known dialects with their drivers. The one without a name is the dialect's default. -/
def knownDrivers : List (String × List (String × DriverState)) :=
  [("postgresql", [("", .missing "psycopg"), ("asyncpg", .usable), ("psycopg", .missing "psycopg"),
      ("psycopg_async", .missing "psycopg"), ("psycopg2", .missing "psycopg2"),
      ("pg8000", .missing "pg8000")]),
    ("mysql", [("", .missing "MySQLdb"), ("mysqldb", .missing "MySQLdb"),
      ("pymysql", .missing "pymysql"), ("aiomysql", .missing "aiomysql"),
      ("asyncmy", .missing "asyncmy"), ("mysqlconnector", .missing "mysql"),
      ("mariadbconnector", .missing "mariadb"), ("pyodbc", .missing "pyodbc")]),
    ("mariadb", [("", .missing "MySQLdb"), ("mysqldb", .missing "MySQLdb"),
      ("pymysql", .missing "pymysql"), ("aiomysql", .missing "aiomysql"),
      ("asyncmy", .missing "asyncmy"), ("mariadbconnector", .missing "mariadb")]),
    ("sqlite", [("", .blocking "pysqlite"), ("pysqlite", .blocking "pysqlite"),
      ("aiosqlite", .missing "aiosqlite")]),
    ("oracle", [("", .missing "oracledb"), ("oracledb", .missing "oracledb"),
      ("cx_oracle", .missing "cx_Oracle")]),
    ("mssql", [("", .missing "pyodbc"), ("pyodbc", .missing "pyodbc"),
      ("pymssql", .missing "pymssql"), ("aioodbc", .missing "aioodbc")])]

def driverState (name : List Char) : Except EngineFault DriverState :=
  match (splitAtChar '+' name).map String.ofList with
  | [dialect] =>
    match (knownDrivers.lookup dialect).bind (·.lookup "") with
    | some state => .ok state
    | none => .error (.unknownDialect dialect)
  | [dialect, driver] =>
    match (knownDrivers.lookup dialect).bind fun drivers =>
        if driver = "" then none else drivers.lookup driver with
    | some state => .ok state
    | none => .error (.unknownDialect (dialect ++ "." ++ driver))
  | _ => .error .tooManyDrivers

structure Engine where
  url : Url
  poolSize : Int
  echo : Echo
deriving DecidableEq, Repr

namespace Engine

def dialect : String := "postgresql"

def driver : String := "asyncpg"

/-- The engine for an address, or for that of the settings if none is given. -/
def make (settings : Settings) (url : Option String) (echo : Option Echo) :
    Except EngineFault Engine := do
  let address := match url with
    | some s => if s = "" then settings.databaseUrl else s
    | none => settings.databaseUrl
  let url ← (Url.ofText address.toList).mapError .url
  match ← driverState url.name with
  | .missing name => .error (.missingModule name)
  | .blocking name => .error (.blockingDriver name)
  | .usable =>
    return ⟨url, settings.databasePoolSize,
      echo.getD (if settings.databaseEcho then .on else .off)⟩

end Engine
end StorageLedger.Database
