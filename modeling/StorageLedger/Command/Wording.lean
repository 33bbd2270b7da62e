import StorageLedger.Console.Grid
import StorageLedger.Console.Output
import StorageLedger.Console.Panel
import StorageLedger.Ledger.Call
import StorageLedger.SizeText
import StorageLedger.Value.Written

namespace StorageLedger.Command
open StorageLedger.Console StorageLedger.Ledger StorageLedger.Validation

def sizeText (n : Int) : String := SizeText.ofInt n

def bytesText (n : Int) : String := n.repr ++ " bytes (" ++ sizeText n ++ ")"

def invalidWorkspaceText (value : String) : String := "[red]Error:[/red] Invalid UUID: " ++ value

def storeErrorText (message : String) : String := "[red]Store error:[/red] " ++ message

def blobNotFoundText (fileId : String) : String := "[red]Error:[/red] Blob not found: " ++ fileId

def usageText (w : WorkspaceId) (total : Int) : String :=
  "[bold]" ++ w.toString ++ "[/bold]: " ++ bytesText total

def recordedText (fileId : String) (size : Int) : String :=
  "[green]Recorded[/green] " ++ fileId ++ " (" ++ sizeText size ++ ")"

def removedText (fileId : String) : String := "[green]Removed[/green] " ++ fileId

def insertedText (inserted skipped : Int) : String :=
  "[green]Inserted:[/green] " ++ inserted.repr ++ "  [yellow]Skipped:[/yellow] " ++ skipped.repr

def stepText : Step → String
  | .field name => name
  | .index i => i.repr

/-- The page about a kind of issue. -/
def helpPage (name : String) : String := "https:" ++ "//errors.pydantic.dev/2.14/v/" ++ name

/-- The lines about an issue: its path if it has one, what is wrong with which value, and a page
about it. -/
def issueText (i : Issue) : String :=
  (if i.path.isEmpty then "" else ".".intercalate (i.path.map stepText) ++ "\n") ++
    "  " ++ i.complaint.message ++ " [type=" ++ i.complaint.name ++ ", input_value=" ++
    String.ofList (Value.excerpt i.input.written) ++ ", input_type=" ++ i.input.kind ++ "]\n" ++
    "    For further information visit " ++ helpPage i.complaint.name

def rejectionText (r : Rejection) : String :=
  let count := r.issues.length
  count.repr ++ " validation error" ++ (if count = 1 then "" else "s") ++ " for " ++
    r.subject.title ++ "\n" ++ "\n".intercalate (r.issues.map issueText)

def invalidManifestText (name : String) (r : Rejection) : String :=
  "[red]Error:[/red] Invalid manifest " ++ name ++ ":\n" ++ rejectionText r

def timeText : Option Calendar.Timestamp → List Char
  | some t => t.text
  | none => []

def markupColumn (heading : String) (texts : List String) : Except Markup.Fault Column := do
  return ⟨heading.toList, .left, ← texts.mapM fun s => Markup.render s.toList⟩

def recordsGrid (w : WorkspaceId) (rs : List Record) : Except Markup.Fault (List Char) := do
  let ids ← markupColumn "File ID" (rs.map Record.fileId)
  let types ← markupColumn "Type" (rs.map Record.fileType)
  let sizes : Column := ⟨"Size".toList, .right, rs.map fun r => (sizeText r.fileSize).toList⟩
  let times : Column := ⟨"Modified".toList, .left, rs.map fun r => timeText r.modifiedAt⟩
  let title := "Blobs in ".toList ++ w.toString.toList
  let count ← print ("[dim]" ++ rs.length.repr ++ " blobs[/dim]").toList
  return unlines (gridLines consoleWidth title [ids, types, sizes, times]) ++ count

def recordText (r : Record) : String :=
  "\n".intercalate <|
    ["[bold]Workspace:[/bold] " ++ r.workspaceId.toString, "[bold]File ID:[/bold] " ++ r.fileId,
      "[bold]Type:[/bold] " ++ r.fileType, "[bold]Size:[/bold] " ++ bytesText r.fileSize] ++
      match r.modifiedAt with
      | some t => ["[bold]Modified:[/bold] " ++ String.ofList t.text]
      | none => []

def recordPanel (r : Record) : Except Markup.Fault (List Char) := do
  let text ← Markup.render (recordText r).toList
  return unlines (panelLines consoleWidth "Blob Metadata".toList text)

def helpText : String :=
  "Usage: blob-ledger [--verbose] COMMAND [ARGS]\n\n" ++
  "Commands:\n" ++
  "  init-db                         create the ledger table\n" ++
  "  reset-db [--force]              drop and recreate the ledger table\n" ++
  "  usage WORKSPACE                 total bytes used by a workspace\n" ++
  "  ls WORKSPACE [--ids-only]       list the blobs of a workspace\n" ++
  "  show WORKSPACE FILE_ID          show one record\n" ++
  "  put WORKSPACE FILE_ID --type TYPE --size SIZE\n" ++
  "                                  insert or overwrite one record\n" ++
  "  rm WORKSPACE FILE_ID            delete one record\n" ++
  "  import WORKSPACE MANIFEST       bulk insert records from a JSON manifest\n"

end StorageLedger.Command
