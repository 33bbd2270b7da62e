import StorageLedger.Text.Blank
import StorageLedger.Text.IntegerText
import StorageLedger.Text.Percent
import StorageLedger.Text.Quoted

namespace StorageLedger.Database
open StorageLedger.Text

/-- A database address. The parts are held with their escapes resolved. -/
structure Url where
  /-- The dialect, and behind a plus sign the driver. -/
  name : List Char
  username : Option (List Char)
  password : Option (List Char)
  host : Option (List Char)
  port : Option Int
  database : Option (List Char)
  /-- The query: names with their values. -/
  query : List (List Char × List (List Char))
deriving DecidableEq, Repr

namespace Url

inductive Fault where
  | malformed
  | portText (fault : IntegerText.Fault)
  | portMissing
deriving DecidableEq, Repr

/-- A character of a name. Of those beyond ASCII all count that are printable and no blanks. -/
def isNameChar (c : Char) : Bool :=
  c.isAlphanum || c == '_' || c == '+' || (0x80 ≤ c.toNat && isPrintable c)

/-- The name in front of a colon and two slashes, and the rest. -/
def splitName? (cs : List Char) : Option (List Char × List Char) :=
  let name := cs.takeWhile isNameChar
  match cs.drop name.length with
  | ':' :: '/' :: '/' :: rest => if name = [] then none else some (name, rest)
  | _ => none

/-- User and password, and the rest. A password ends at the first at sign; a user without one ends
at the last at sign in front of any colon or slash. -/
def splitUser (cs : List Char) : Option (List Char) × Option (List Char) × List Char :=
  let run := cs.takeWhile fun c => c != ':' && c != '/'
  let withoutPassword :=
    match run.reverse.dropWhile (· ≠ '@') with
    | [] => (none, none, cs)
    | _ :: before => (some before.reverse, none, cs.drop (before.length + 1))
  match cs.drop run.length with
  | ':' :: r =>
    match r.dropWhile (· ≠ '@') with
    | _ :: rest => (some run, some (r.takeWhile (· ≠ '@')), rest)
    | [] => withoutPassword
  | _ => withoutPassword

/-- A host in brackets, and the rest: it ends at the last bracket in front of any slash or question
mark. -/
def splitBrackets? : List Char → Option (List Char × List Char)
  | '[' :: r =>
    let run := r.takeWhile fun c => c != '/' && c != '?'
    match run.reverse.dropWhile (· ≠ ']') with
    | _ :: before => if before = [] then none else some (before.reverse, r.drop (before.length + 1))
    | [] => none
  | _ => none

/-- The host, if there is one, and the rest. -/
def splitHost (cs : List Char) : Option (List Char) × List Char :=
  match splitBrackets? cs with
  | some (host, rest) => (some host, rest)
  | none =>
    let host := cs.takeWhile fun c => c != '/' && c != ':' && c != '?'
    (if host = [] then none else some host, cs.drop host.length)

def splitPort : List Char → Option (List Char) × List Char
  | ':' :: r =>
    let port := r.takeWhile fun c => c != '/' && c != '?'
    (some port, r.drop port.length)
  | cs => (none, cs)

def splitDatabase : List Char → Option (List Char) × List Char
  | '/' :: r => (some (r.takeWhile (· ≠ '?')), r.dropWhile (· ≠ '?'))
  | cs => (none, cs)

/-- A part of a query with a name and a value that is not empty. -/
def queryPair? (cs : List Char) : Option (List Char × List Char) :=
  match cs.dropWhile (· ≠ '=') with
  | _ :: value =>
    if value = [] then none
    else some (queryDecode (cs.takeWhile (· ≠ '=')), queryDecode value)
  | [] => none

/-- Pairs gathered by their names, in the order of the names' first appearance. -/
def gather (pairs : List (List Char × List Char)) : List (List Char × List (List Char)) :=
  (pairs.map (·.1)).eraseDups.map fun name =>
    (name, (pairs.filter fun p => p.1 == name).map (·.2))

/-- The query behind a question mark, up to the end of the line. -/
def readQuery : List Char → List (List Char × List (List Char))
  | '?' :: r => gather ((splitAtChar '&' (r.takeWhile (· ≠ '\n'))).filterMap queryPair?)
  | _ => []

/-- The number of a port, which may not be empty. -/
def readPort : Option (List Char) → Except Fault (Option Int)
  | none => .ok none
  | some [] => .error .portMissing
  | some cs => ((IntegerText.read cs (quoted cs)).map some).mapError .portText

def ofText (cs : List Char) : Except Fault Url :=
  match splitName? cs with
  | none => .error .malformed
  | some (name, rest) => do
    let (username, password, rest) := splitUser rest
    let (host, rest) := splitHost rest
    let (port, rest) := splitPort rest
    let (database, rest) := splitDatabase rest
    let port ← readPort port
    return ⟨name, username.map percentDecode, password.map percentDecode, host, port,
      database.map percentDecode, readQuery rest⟩

def mask : List Char := "***".toList

def queryText (query : List (List Char × List (List Char))) : List Char :=
  let sorted := query.mergeSort fun a b => String.ofList a.1 ≤ String.ofList b.1
  let pairs := sorted.flatMap fun (name, values) =>
    values.map fun value => queryEncode name ++ '=' :: queryEncode value
  match pairs with
  | [] => []
  | first :: rest => '?' :: first ++ rest.flatMap fun pair => '&' :: pair

/-- The written form of an address, with or without its password. -/
def text (masked : Bool) (u : Url) : List Char :=
  let user := match u.username, u.password with
    | some name, some password =>
      percentEncode [' ', '+'] name ++
        ':' :: (if masked then mask else percentEncode [' ', '+'] password) ++ ['@']
    | some name, none => percentEncode [' ', '+'] name ++ ['@']
    | none, _ => []
  let host := match u.host with
    | some host => if host.contains ':' then '[' :: host ++ [']'] else host
    | none => []
  let port := match u.port with
    | some n => ':' :: integerDigits n
    | none => []
  let database := match u.database with
    | some name => '/' :: percentEncode [' ', '+', '/'] name
    | none => []
  u.name ++ "://".toList ++ user ++ host ++ port ++ database ++ queryText u.query

end Url
end StorageLedger.Database
