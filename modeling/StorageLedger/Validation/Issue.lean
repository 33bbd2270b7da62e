import StorageLedger.Calendar.Reader
import StorageLedger.Value
import StorageLedger.WorkspaceId.Strict

namespace StorageLedger.Validation
open StorageLedger.Calendar

/-- One step on the way to a part of a value. -/
inductive Step where
  | field (name : String)
  | index (i : Nat)
deriving DecidableEq, Repr

inductive Subject where
  | fileSize
  | entry
  | record
  | manifest
  | settings
deriving DecidableEq, Repr

def Subject.title : Subject → String
  | .fileSize => "constrained-int"
  | .entry => "BulkInsertMeta"
  | .record => "BlobMetadataRecord"
  | .manifest => "list[BulkInsertMeta]"
  | .settings => "Settings"

/-- Why a number is no timestamp. -/
inductive TimestampFault where
  | notANumber
  | yearZero
  | outOfRange (fault : RangeFault)
deriving DecidableEq, Repr

/-- What is wrong with a value. -/
inductive Complaint where
  | missing
  | frozen
  | textType
  | textEncoding
  | integerType
  | integerText
  | integerSize
  | integerFraction
  | notFinite
  | atLeast (bound : Int)
  | atMost (bound : Int)
  | booleanText
  | workspaceIdType
  | workspaceIdText (fault : WorkspaceId.Fault)
  | timestampType
  | timestampNumber (fault : TimestampFault)
  | timestampText (fault : TextFault)
  | notInstance (subject : Subject)
  | notObject
  | notList
  | notJson (fault : Json.Fault) (line column : Nat)
deriving DecidableEq, Repr

def Complaint.name : Complaint → String
  | .missing => "missing"
  | .frozen => "frozen_instance"
  | .textType => "string_type"
  | .textEncoding => "string_unicode"
  | .integerType => "int_type"
  | .integerText => "int_parsing"
  | .integerSize => "int_parsing_size"
  | .integerFraction => "int_from_float"
  | .notFinite => "finite_number"
  | .atLeast _ => "greater_than_equal"
  | .atMost _ => "less_than_equal"
  | .booleanText => "bool_parsing"
  | .workspaceIdType => "uuid_type"
  | .workspaceIdText _ => "uuid_parsing"
  | .timestampType => "datetime_type"
  | .timestampNumber _ => "datetime_parsing"
  | .timestampText _ => "datetime_from_date_parsing"
  | .notInstance _ => "model_type"
  | .notObject => "model_type"
  | .notList => "list_type"
  | .notJson _ _ _ => "json_invalid"

/-- The wording of a timestamp that is out of range. -/
def rangeMessage : RangeFault → String
  | .beforeYearZero => "dates before 0000 are not supported as unix timestamps"
  | .afterYear9999 => "dates after 9999 are not supported as unix timestamps"

def TimestampFault.message : TimestampFault → String
  | .notANumber => "NaN values not permitted"
  | .yearZero => "year 0 is out of range"
  | .outOfRange fault => rangeMessage fault

def textFaultMessage : TextFault → String
  | .tooShort => "input is too short"
  | .yearCharacter => "invalid character in year"
  | .monthCharacter => "invalid character in month"
  | .dayCharacter => "invalid character in day"
  | .dateSeparator => "invalid date separator, expected `-`"
  | .monthRange => "month value is outside expected range of 1-12"
  | .dayRange => "day value is outside expected range"
  | .extraCharacters => "unexpected extra characters at the end of the input"
  | .outOfRange fault => rangeMessage fault

def Complaint.message : Complaint → String
  | .missing => "Field required"
  | .frozen => "Instance is frozen"
  | .textType => "Input should be a valid string"
  | .textEncoding =>
    "Input should be a valid string, unable to parse raw data as a unicode string"
  | .integerType => "Input should be a valid integer"
  | .integerText => "Input should be a valid integer, unable to parse string as an integer"
  | .integerSize => "Unable to parse input string as an integer, exceeded maximum size"
  | .integerFraction => "Input should be a valid integer, got a number with a fractional part"
  | .notFinite => "Input should be a finite number"
  | .atLeast bound => "Input should be greater than or equal to " ++ bound.repr
  | .atMost bound => "Input should be less than or equal to " ++ bound.repr
  | .booleanText => "Input should be a valid boolean, unable to interpret input"
  | .workspaceIdType => "UUID input should be a string, bytes or UUID object"
  | .workspaceIdText fault => "Input should be a valid UUID, " ++ fault.message
  | .timestampType => "Input should be a valid datetime"
  | .timestampNumber fault => "Input should be a valid datetime, " ++ fault.message
  | .timestampText fault => "Input should be a valid datetime or date, " ++ textFaultMessage fault
  | .notInstance subject =>
    "Input should be a valid dictionary or instance of " ++ subject.title
  | .notObject => "Input should be an object"
  | .notList => "Input should be a valid array"
  | .notJson fault line column =>
    "Invalid JSON: " ++ fault.message ++ " at line " ++ line.repr ++ " column " ++ column.repr

structure Issue where
  path : List Step
  complaint : Complaint
  /-- The part itself, or the whole if the part is missing. -/
  input : Value
deriving Repr

/-- An issue one step further down. -/
def Issue.under (step : Step) (i : Issue) : Issue := { i with path := step :: i.path }

/-- The issues of a subject, at least one. -/
structure Rejection where
  subject : Subject
  issues : List Issue
deriving Repr

end StorageLedger.Validation
