import StorageLedger.Command.Arguments
import StorageLedger.Command.Files
import StorageLedger.Validation.Integer

namespace StorageLedger.Command
open StorageLedger.Validation

/-- What a command is asked to do. Workspaces are not read yet. -/
inductive Request where
  | help
  | createSchema
  | resetSchema (force : Bool)
  | usage (workspace : String)
  | list (workspace : String) (idsOnly : Bool)
  | inspect (workspace fileId : String)
  | put (workspace fileId fileType : String) (fileSize : Int)
  | remove (workspace fileId : String)
  | load (workspace : String) (manifest : File)
deriving Repr

/-- The size that the value of an option denotes. It may not be negative; how large it may be is the
ledger's concern. -/
def readSize (value : String) : Except Misuse Int :=
  match integerOfText value.toList with
  | .error complaint => .error (.badSize complaint)
  | .ok n => if n < 0 then .error (.badSize (.atLeast 0)) else .ok n

def Arguments.operand (a : Arguments) (i : Nat) (o : Operand) : Except Misuse String :=
  match a.operands[i]? with
  | some text => .ok text
  | none => .error (.missingOperand o)

def Arguments.file (a : Arguments) (files : List File) (i : Nat) : Except Misuse File := do
  let path ← a.operand i .manifest
  (findFile files path).mapError (.badPath path)

def Arguments.noMore (a : Arguments) (v : Verb) : Except Misuse Unit :=
  match a.operands.drop v.operands.length with
  | [] => .ok ()
  | extra => .error (.extraOperands extra)

def Arguments.size? (a : Arguments) : Except Misuse (Option Int) :=
  match a.value? .fileSize with
  | some value => (readSize value).map some
  | none => .ok none

def needed (s : Switch) : Option α → Except Misuse α
  | some a => .ok a
  | none => .error (.missingSwitch s)

def Verb.request (files : List File) (a : Arguments) : Verb → Except Misuse Request
  | .createSchema => do
    a.noMore .createSchema
    return .createSchema
  | .resetSchema => do
    a.noMore .resetSchema
    return .resetSchema (a.has .force)
  | .usage => do
    let workspace ← a.operand 0 .workspace
    a.noMore .usage
    return .usage workspace
  | .list => do
    let workspace ← a.operand 0 .workspace
    a.noMore .list
    return .list workspace (a.has .idsOnly)
  | .inspect => do
    let workspace ← a.operand 0 .workspace
    let fileId ← a.operand 1 .fileId
    a.noMore .inspect
    return .inspect workspace fileId
  | .put => do
    let size ← a.size?
    let workspace ← a.operand 0 .workspace
    let fileId ← a.operand 1 .fileId
    let fileType ← needed .fileType (a.value? .fileType)
    let size ← needed .fileSize size
    a.noMore .put
    return .put workspace fileId fileType size
  | .remove => do
    let workspace ← a.operand 0 .workspace
    let fileId ← a.operand 1 .fileId
    a.noMore .remove
    return .remove workspace fileId
  | .load => do
    let workspace ← a.operand 0 .workspace
    let manifest ← a.file files 1
    a.noMore .load
    return .load workspace manifest

def Verb.read (files : List File) (v : Verb) (args : List String) : Except Misuse Request := do
  let a ← readArguments v.switches true args
  if a.has .help then return .help
  v.request files a

inductive Opening where
  | bare
  | help
  | command (v : Verb) (verbose : Bool) (args : List String)

/-- The command of a name that is none. A name that looks like an option is read as one. -/
def unknownCommand (name : String) (rest : List String) : Except Misuse Opening := do
  let a ← readArguments commonSwitches false (name :: rest)
  if a.has .help then return .help
  .error (.unknownCommand name (closeNames name (Verb.all.map Verb.name)))

def Opening.read (args : List String) : Except Misuse Opening :=
  if args.isEmpty then .ok .bare
  else do
    let a ← readArguments commonSwitches false args
    if a.has .help then return .help
    match a.operands with
    | [] => .error .missingCommand
    | name :: rest =>
      match Verb.ofName? name with
      | some v => return .command v (a.has .verbose) rest
      | none => unknownCommand name rest

end StorageLedger.Command
