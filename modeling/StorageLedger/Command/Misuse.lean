import StorageLedger.Command.Form
import StorageLedger.Text.Quoted
import StorageLedger.Validation.Issue

namespace StorageLedger.Command
open StorageLedger.Text

inductive PathFault where
  | missing
  | directory
deriving DecidableEq, Repr

inductive Misuse where
  | unknownSwitch (name : String) (close : List String)
  | missingValue (name : String)
  | unexpectedValue (s : Switch)
  | missingSwitch (s : Switch)
  | missingOperand (o : Operand)
  | extraOperands (texts : List String)
  | missingCommand
  | unknownCommand (name : String) (close : List String)
  | badSize (complaint : Validation.Complaint)
  | badPath (path : String) (fault : PathFault)
deriving Repr

def inQuotes (s : String) : String := String.ofList (quoted s.toList)

def switchSuggestion : List String → String
  | [] => ""
  | [name] => " Did you mean " ++ name ++ "?"
  | names => " (Possible options: " ++ ", ".intercalate (names.mergeSort (· ≤ ·)) ++ ")"

def Misuse.message : Misuse → String
  | .unknownSwitch name close => "No such option: " ++ name ++ switchSuggestion close
  | .missingValue name => "Option " ++ inQuotes name ++ " requires an argument."
  | .unexpectedValue s => "Option " ++ inQuotes s.long ++ " does not take a value."
  | .missingSwitch s => "Missing option " ++ s.hint ++ "."
  | .missingOperand o => "Missing argument '" ++ o.name ++ "'."
  | .extraOperands texts => "Got unexpected extra argument(s) (" ++ " ".intercalate texts ++ ")"
  | .missingCommand => "Missing command."
  | .unknownCommand name close =>
    "No such command " ++ inQuotes name ++ "." ++
      match close with
      | [] => ""
      | _ => " Did you mean " ++ ", ".intercalate (close.map inQuotes) ++ "?"
  | .badSize complaint => "Invalid value for " ++ Switch.fileSize.hint ++ ": " ++ complaint.message
  | .badPath path fault =>
    "Invalid value for '" ++ Operand.manifest.name ++ "': File " ++ inQuotes path ++
      match fault with
      | .missing => " does not exist."
      | .directory => " is a directory."

end StorageLedger.Command
