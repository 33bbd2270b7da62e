import StorageLedger.Text.Blank
import StorageLedger.Text.Case

namespace StorageLedger.Console
open StorageLedger.Text

/-- The text with every line break written as a line feed. -/
def plainBreaks : List Char → List Char
  | [] => []
  | '\r' :: '\n' :: r => '\n' :: plainBreaks r
  | '\r' :: r => '\n' :: plainBreaks r
  | c :: r => c :: plainBreaks r

/-- The lines of an input. What is left behind the last line break is a line if it is not empty. -/
def inputLines (cs : List Char) : List (List Char) :=
  let lines := splitAtChar '\n' (plainBreaks cs)
  if lines.getLast? = some [] then lines.dropLast else lines

/-- The answer that a line gives, in any case and with blanks around it. -/
def answer? (line : List Char) : Option Bool :=
  let word := trim isBlank (lower line)
  if ["y", "yes"].any (·.toList = word) then some true
  else if ["n", "no", ""].any (·.toList = word) then some false
  else none

/-- What a prompt showed, with the answers typed in, and the answer that it got. -/
structure Prompted where
  shown : List Char
  /-- The answer, if the input did not end before one. -/
  answer : Option Bool
deriving DecidableEq, Repr

def confirm (question : List Char) : List (List Char) → Prompted
  | [] => ⟨question, none⟩
  | line :: rest =>
    let asked := question ++ line ++ ['\n']
    match answer? line with
    | some b => ⟨asked, some b⟩
    | none =>
      let again := confirm question rest
      ⟨asked ++ "Error: invalid input\n".toList ++ again.shown, again.answer⟩

end StorageLedger.Console
