import StorageLedger.Command.Execution
import StorageLedger.Ledger.Session
import StorageLedger.Settings.Basic

open StorageLedger StorageLedger.Command StorageLedger.Ledger StorageLedger.Text

/-- The octets of a file, if it can be read. -/
def readFile? (path : String) : IO (Option (List UInt8)) :=
  try return some (← IO.FS.readBinFile path).toList catch _ => return none

/-- The files that words of a command line name. -/
def readFiles (args : List String) : IO (List File) :=
  (args.filterMap fun arg => (fileName arg).toOption).filterMapM fun name => do
    return (← readFile? name).map fun content => ⟨name, content⟩

/-- The settings of the process. -/
def readSettings : IO (Except Validation.Rejection Settings) := do
  let names := Settings.fieldNames.map fun name => String.ofList (upper name.toList)
  let environment ← names.filterMapM fun name => do
    return (← IO.getEnv name).map fun value => (name.toList, value.toList)
  let file := ((← readFile? ".env").bind decode?)
  return Settings.load environment file

/-- The input, which only a question needs. -/
def readInput (args : List String) : IO String := do
  if args.contains Verb.resetSchema.name then (← IO.getStdin).readToEnd else return ""

def showReport (r : Report) : IO UInt32 := do
  for record in r.effect.logs do
    IO.eprintln (record.level.name ++ ": " ++ record.message)
  IO.print (String.ofList r.effect.output.printed)
  if let some misuse := r.misuse then IO.eprintln ("Error: " ++ misuse.message)
  match r.effect.output.ending with
  | .exit code => return code.toUInt32
  | .escape e =>
    IO.eprintln e.message
    return 1

def main (args : List String) : IO UInt32 := do
  match ← readSettings with
  | .error r =>
    IO.eprintln (rejectionText r)
    return 1
  | .ok settings =>
    let surroundings : Surroundings :=
      { logLevel := settings.logLevel
        input := ← readInput args
        files := ← readFiles args
        store := { now := stamp 1 }
        fault := none }
    showReport (surroundings.run .empty args)
