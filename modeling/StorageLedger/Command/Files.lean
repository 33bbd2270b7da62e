import StorageLedger.Command.Misuse
import StorageLedger.Text.Blank

namespace StorageLedger.Command
open StorageLedger.Text

structure File where
  name : String
  content : List UInt8
deriving Repr

/-- The steps of a path that stay in a directory. -/
def staysHere (step : List Char) : Bool := step == [] || step == ['.']

def namesDirectory (step : List Char) : Bool := staysHere step || step == ['.', '.']

def fileName (path : String) : Except PathFault String :=
  let steps := splitAtChar '/' path.toList
  if path.isEmpty then .error .missing
  else if steps.all namesDirectory then .error .directory
  else if steps.head? = some [] then .error .missing
  else
    match steps.dropWhile staysHere with
    | [name] => .ok (String.ofList name)
    | _ => .error .missing

def findFile (files : List File) (path : String) : Except PathFault File := do
  let name ← fileName path
  match files.find? fun f => f.name == name with
  | some file => .ok file
  | none => .error .missing

end StorageLedger.Command
