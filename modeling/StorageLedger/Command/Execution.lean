import StorageLedger.Command.Request
import StorageLedger.Command.Wording
import StorageLedger.Console.Prompt

namespace StorageLedger.Command
open StorageLedger.Console StorageLedger.Ledger StorageLedger.Store StorageLedger.Text

/-- What a command finds when it starts. -/
structure Surroundings where
  logLevel : String
  /-- The text that can be read from the input. -/
  input : String
  files : List File
  store : Store
  /-- The failure that the store is made to show, if any. -/
  fault : Option Fault

/-- Why a command breaks off without a report of its own. -/
inductive Escape where
  | ledger (e : LedgerError)
  | markup (f : Markup.Fault)
  | unknownLevel (name : String)
deriving Repr

/-- How a command ends: with an exit code, or with an error that it does not handle. -/
inductive Ending where
  | exit (code : Nat)
  | escape (e : Escape)
deriving Repr

structure Output where
  printed : List Char
  ending : Ending

namespace Output

/-- A text that is laid out already, with a successful end, or the fault of its markup. -/
def ofText : Except Markup.Fault (List Char) → Output
  | .ok cs => ⟨cs, .exit 0⟩
  | .error f => ⟨[], .escape (.markup f)⟩

def say (code : Nat) (text : String) : Output :=
  match print text.toList with
  | .ok cs => ⟨cs, .exit code⟩
  | .error f => ⟨[], .escape (.markup f)⟩

def after (cs : List Char) (o : Output) : Output := { o with printed := cs ++ o.printed }

end Output

structure Effect where
  output : Output
  events : List Event
  logs : List LogRecord
  table : Table

def Effect.idle (t : Table) (o : Output) : Effect := ⟨o, [], [], t⟩

/-- Work on a store that is opened for it and closed behind it. -/
def Effect.ofRun (run : Run LedgerError α) (conclude : Except LedgerError α → Output) : Effect :=
  ⟨conclude run.result, run.events ++ [.dispose], run.logs, run.table⟩

/-- The report about an error. Only failures of the store are handled. -/
def failed (e : LedgerError) : Output :=
  match e with
  | .storeFailure _ _ => .say 1 (storeErrorText e.message)
  | _ => ⟨[], .escape (.ledger e)⟩

def concluded (succeeded : α → Output) : Except LedgerError α → Output
  | .ok a => succeeded a
  | .error e => failed e

/-- Identifiers, each on a line of its own. A fault ends the list. -/
def sayIds : List Value → Output
  | [] => ⟨[], .exit 0⟩
  | v :: vs =>
    let line := match v with
      | .text s => print s.toList
      | v => .ok (layOut v.written)
    match line with
    | .ok cs => (sayIds vs).after cs
    | .error f => ⟨[], .escape (.markup f)⟩

def sayRecords (w : WorkspaceId) (rs : List Record) : Output :=
  match rs with
  | [] => .say 0 "[yellow]No blobs found.[/yellow]"
  | rs => .ofText (recordsGrid w (sortedRecords rs))

def resetQuestion : String := "This will DELETE ALL LEDGER DATA. Are you sure? [y/N]: "

def Surroundings.call (s : Surroundings) (t : Table) (c : Call) : Run LedgerError Outcome :=
  c.run s.store .engine s.fault t

/-- A removal: a transaction on a connection, around the call. -/
def Surroundings.remove (s : Surroundings) (t : Table) (w : WorkspaceId) (fileId : String) :
    Run LedgerError Outcome :=
  let escaping (point : FaultPoint) := (faultAt s.fault point).map LedgerError.passedOn
  ownTransaction (escaping .connect) (escaping .commit)
    ((Call.delete w fileId).run s.store .connection s.fault) t

def Surroundings.reset (s : Surroundings) (t : Table) : Effect :=
  .ofRun (s.call t .resetSchema) <| concluded fun _ =>
    .say 0 "[green]Ledger reset successfully.[/green]"

/-- Resets the schema if the answer to a question is yes. -/
def Surroundings.confirmReset (s : Surroundings) (t : Table) : Effect :=
  let prompted := confirm resetQuestion.toList (inputLines s.input.toList)
  match prompted.answer with
  | none => .idle t ⟨prompted.shown, .exit 1⟩
  | some false =>
    .idle t ((Output.say 0 "[yellow]Aborted.[/yellow]").after prompted.shown)
  | some true =>
    let effect := s.reset t
    { effect with output := effect.output.after prompted.shown }

def Surroundings.load (s : Surroundings) (t : Table) (w : WorkspaceId) (manifest : File) : Effect :=
  match Entry.ofManifest manifest.content with
  | .error r => .idle t (.say 1 (invalidManifestText manifest.name r))
  | .ok es =>
    .ofRun (s.call t (.insertBulk w (.entries es))) <| concluded fun outcome =>
      match outcome with
      | .count inserted => .say 0 (insertedText inserted (es.length - inserted))
      | _ => ⟨[], .exit 0⟩

def inWorkspace (t : Table) (text : String) (work : WorkspaceId → Effect) : Effect :=
  match WorkspaceId.ofSpelling? text.toList with
  | some w => work w
  | none => .idle t (.say 1 (invalidWorkspaceText text))

def Surroundings.perform (s : Surroundings) (t : Table) : Request → Effect
  | .help => .idle t ⟨helpText.toList, .exit 0⟩
  | .createSchema =>
    .ofRun (s.call t .createSchema) <| concluded fun _ =>
      .say 0 "[green]Ledger initialized successfully.[/green]"
  | .resetSchema force => if force then s.reset t else s.confirmReset t
  | .usage workspace =>
    inWorkspace t workspace fun w =>
      .ofRun (s.call t (.usage w)) <| concluded fun outcome =>
        match outcome with
        | .count total => .say 0 (usageText w total)
        | _ => ⟨[], .exit 0⟩
  | .list workspace idsOnly =>
    inWorkspace t workspace fun w =>
      .ofRun (s.call t (if idsOnly then .listIds w else .listRecords w)) <| concluded fun outcome =>
        match outcome with
        | .ids vs => sayIds (sortedIds vs)
        | .records rs => sayRecords w rs
        | _ => ⟨[], .exit 0⟩
  | .inspect workspace fileId =>
    inWorkspace t workspace fun w =>
      .ofRun (s.call t (.get w fileId)) fun
        | .error (.notFound _ _) => .say 1 (blobNotFoundText fileId)
        | result => concluded (fun outcome =>
          match outcome with
          | .record r => .ofText (recordPanel r)
          | _ => ⟨[], .exit 0⟩) result
  | .put workspace fileId fileType fileSize =>
    inWorkspace t workspace fun w =>
      .ofRun (s.call t (.upsert w fileId fileType (.int fileSize))) <| concluded fun _ =>
        .say 0 (recordedText fileId fileSize)
  | .remove workspace fileId =>
    inWorkspace t workspace fun w =>
      .ofRun (s.remove t w fileId) <| concluded fun _ => .say 0 (removedText fileId)
  | .load workspace manifest => inWorkspace t workspace fun w => s.load t w manifest

structure Report where
  /-- What is printed, how it ends, and what happens in the store. -/
  effect : Effect
  /-- What is wrong with the command line, if that is why it ends. -/
  misuse : Option Misuse
  /-- The log level that is in force at the end. -/
  level : Level

/-- The log level before any command sets it. -/
def defaultLevel : Level := .warning

def Report.ofMisuse (t : Table) (level : Level) (m : Misuse) : Report :=
  ⟨.idle t ⟨[], .exit 2⟩, some m, level⟩

def Report.ofEffect (level : Level) (e : Effect) : Report :=
  ⟨{ e with logs := logged level e.logs }, none, level⟩

/-- The log level of a command line, or the name that denotes none. -/
def Surroundings.level (s : Surroundings) (verbose : Bool) : Except String Level :=
  let name := String.ofList (upper s.logLevel.toList)
  if verbose then .ok .debug
  else match Level.ofName? name with
    | some level => .ok level
    | none => .error name

/-- What a command does. Its log level is set before its words are read. -/
def Surroundings.runCommand (s : Surroundings) (t : Table) (v : Verb) (verbose : Bool)
    (args : List String) : Report :=
  match s.level verbose with
  | .error name => .ofEffect defaultLevel (.idle t ⟨[], .escape (.unknownLevel name)⟩)
  | .ok level =>
    match v.read s.files args with
    | .error m => .ofMisuse t level m
    | .ok request => .ofEffect level (s.perform t request)

def Surroundings.run (s : Surroundings) (t : Table) (args : List String) : Report :=
  match Opening.read args with
  | .error m => .ofMisuse t defaultLevel m
  | .ok .bare => .ofEffect defaultLevel (.idle t ⟨[], .exit 2⟩)
  | .ok .help => .ofEffect defaultLevel (.idle t ⟨helpText.toList, .exit 0⟩)
  | .ok (.command v verbose rest) => s.runCommand t v verbose rest

def Escape.message : Escape → String
  | .ledger e => e.message
  | .markup f => f.message
  | .unknownLevel name => "Unknown level: " ++ inQuotes name

end StorageLedger.Command
