import StorageLedger.Text.Digit

namespace StorageLedger.Console.Literal
open StorageLedger.Text

inductive Token where
  | number (imaginary : Bool)
  | quoted (octets : Bool)
  /-- One of the words and marks that stand for a value of their own. -/
  | constant
  /-- The name of the function that makes an empty set. -/
  | emptySet
  | sign
  | comma
  | colon
  | parenthesis (opens : Bool)
  | brace (opens : Bool)
  | lineEnd
  /-- The blanks in front of what stands on a line. -/
  | indent
deriving DecidableEq, Repr

/-- A character that may belong to a name. None may stand right behind a number. -/
def isNameChar (c : Char) : Bool := c.isAlphanum || c == '_' || 0x80 ≤ c.toNat

section Numbers

/-- Digits of a class at the start of a text and the rest. Single underscores may stand between
them. -/
def takeDigits? (p : Char → Bool) : List Char → Option (List Char × List Char)
  | c :: '_' :: r =>
    if p c then (takeDigits? p r).map fun (ds, rest) => (c :: ds, rest) else none
  | c :: r =>
    if p c then
      match takeDigits? p r with
      | some (ds, rest) => some (c :: ds, rest)
      | none => some ([c], r)
    else none
  | [] => none

/-- What a digit may be behind a zero and the mark of a base. -/
def baseDigit? (mark : Char) : Option (Char → Bool) :=
  match mark.toLower with
  | 'x' => some fun c => (hexDigit? c).isSome
  | 'o' => some fun c => 0x30 ≤ c.toNat && c.toNat ≤ 0x37
  | 'b' => some fun c => c == '0' || c == '1'
  | _ => none

/-- The power of ten at the start of a text: the rest, and whether there was one. -/
def takePower? : List Char → Option (Bool × List Char)
  | e :: r =>
    if e.toLower = 'e' then
      let digits := match r with
        | '+' :: more => more
        | '-' :: more => more
        | _ => r
      (takeDigits? isDigit digits).map fun (_, rest) => (true, rest)
    else some (false, e :: r)
  | [] => some (false, [])

def integerDigitLimit : Nat := 4300

/-- Digits that are an integer on their own. Zeros in front are none of one. -/
def isInteger (ds : List Char) : Bool :=
  if ds.head? = some '0' then ds.all (· == '0') else ds.length ≤ integerDigitLimit

def takeDecimal? (cs : List Char) : Option (Token × List Char) := do
  let (whole, r) := (takeDigits? isDigit cs).getD ([], cs)
  let (pointed, r) := match r with
    | '.' :: r => (true, ((takeDigits? isDigit r).map (·.2)).getD r)
    | _ => (false, r)
  let (powered, r) ← takePower? r
  match r with
  | j :: rest =>
    if j.toLower = 'j' then return (.number true, rest)
    else if pointed || powered || isInteger whole then return (.number false, r) else none
  | [] => if pointed || powered || isInteger whole then return (.number false, []) else none

def takeNumber? (cs : List Char) : Option (Token × List Char) := do
  let (token, rest) ← match cs with
    | '0' :: mark :: r =>
      match baseDigit? mark with
      | some p =>
        (takeDigits? p (if r.head? = some '_' then r.tail else r)).map fun (_, rest) =>
          (.number false, rest)
      | none => takeDecimal? cs
    | _ => takeDecimal? cs
  if rest.head?.any isNameChar then none else return (token, rest)

end Numbers

section Quoted

/-- How a text stands in quotes. -/
structure Quote where
  mark : Char
  /-- There are three marks at either end. -/
  long : Bool
  /-- A backslash only takes the character behind it literally. -/
  raw : Bool
  /-- The text is one of octets. -/
  octets : Bool

/-- How the next character of a quoted text is read. -/
inductive Reading where
  | plain
  | escape
  /-- So many hexadecimal digits are left of an escape. -/
  | digits (left value : Nat)
  | nameStart
  | name (nonempty : Bool)

/-- The number of digits of an escape. -/
def Quote.escapeLength? (q : Quote) (c : Char) : Option Nat :=
  match c with
  | 'x' => some 2
  | 'u' => if q.octets then none else some 4
  | 'U' => if q.octets then none else some 8
  | _ => none

/-- The text behind the closing quotes, if all before them can be read. -/
def Quote.skip? (q : Quote) : Reading → List Char → Option (List Char)
  | _, [] => none
  | .plain, c :: r =>
    if c = q.mark && (!q.long || r.take 2 == [q.mark, q.mark]) then
      some (if q.long then r.drop 2 else r)
    else if c = '\n' && !q.long || q.octets && 0x80 ≤ c.toNat then none
    else q.skip? (if c = '\\' then .escape else .plain) r
  | .escape, c :: r =>
    if q.octets && 0x80 ≤ c.toNat then none
    else if q.raw then q.skip? .plain r
    else
      match q.escapeLength? c with
      | some k => q.skip? (.digits k 0) r
      | none => q.skip? (if c = 'N' && !q.octets then .nameStart else .plain) r
  | .digits left value, c :: r =>
    match hexDigit? c with
    | some d =>
      if 1 < left then q.skip? (.digits (left - 1) (value * 16 + d)) r
      else if value * 16 + d < 0x110000 then q.skip? .plain r
      else none
    | none => none
  | .nameStart, c :: r => if c = '\x7b' then q.skip? (.name false) r else none
  | .name nonempty, c :: r =>
    if c = '\x7d' then if nonempty then q.skip? .plain r else none
    else if c.isAlphanum || c == ' ' || c == '-' then q.skip? (.name true) r
    else none

/-- A quoted text behind letters that tell how it is to be read, and the rest. -/
def takeQuoted? (letters : List Char) (mark : Char) (r : List Char) :
    Option (Token × List Char) := do
  let word := letters.map Char.toLower
  if ["", "u", "r", "b", "br", "rb"].all (·.toList ≠ word) then none
  else
    let long := r.take 2 == [mark, mark]
    let q : Quote := ⟨mark, long, word.contains 'r', word.contains 'b'⟩
    let rest ← q.skip? .plain (if long then r.drop 2 else r)
    return (.quoted q.octets, rest)

end Quoted

/-- Whether what stands at the start of a line is indented, and the text from there on. -/
def lineStart (indented : Bool) : List Char → Bool × List Char
  | ' ' :: r => lineStart true r
  | '\t' :: r => lineStart true r
  | '\x0C' :: r => lineStart false r
  | '\\' :: '\n' :: r => lineStart indented r
  | cs => (indented && cs.head?.any fun c => c != '\n' && c != '#', cs)

/-- A word, or a quoted text that starts with letters, at the start of a text. -/
def takeWord? (cs : List Char) : Option (Token × List Char) :=
  let word := cs.takeWhile isNameChar
  match cs.dropWhile isNameChar with
  | '\'' :: r => takeQuoted? word '\'' r
  | '"' :: r => takeQuoted? word '"' r
  | rest =>
    if ["None", "True", "False"].any (·.toList = word) then some (.constant, rest)
    else if word = "set".toList then some (.emptySet, rest)
    else none

/-- The tokens at the start of a text, at most two, and the rest. -/
def takeTokens? : List Char → Option (List Token × List Char)
  | [] => some ([], [])
  | ' ' :: r => some ([], r)
  | '\t' :: r => some ([], r)
  | '\x0C' :: r => some ([], r)
  | '\\' :: '\n' :: r => some ([], r)
  | '#' :: r => some ([], r.dropWhile (· ≠ '\n'))
  | '\n' :: r =>
    let (indented, rest) := lineStart false r
    some (.lineEnd :: if indented then [.indent] else [], rest)
  | '+' :: r => some ([.sign], r)
  | '-' :: r => some ([.sign], r)
  | ',' :: r => some ([.comma], r)
  | ':' :: r => some ([.colon], r)
  | '(' :: r => some ([.parenthesis true], r)
  | ')' :: r => some ([.parenthesis false], r)
  | '\x7b' :: r => some ([.brace true], r)
  | '\x7d' :: r => some ([.brace false], r)
  | '.' :: '.' :: '.' :: r => some ([.constant], r)
  | c :: r =>
    let numeric := isDigit c || c == '.' && r.head?.any isDigit
    (if numeric then takeNumber? (c :: r) else takeWord? (c :: r)).map fun (t, rest) => ([t], rest)

/-- The tokens of a text, each of which takes a character at least. -/
def tokensWithin : (bound : Nat) → List Char → Option (List Token)
  | _, [] => some []
  | 0, _ :: _ => none
  | bound + 1, cs => do
    let (ts, rest) ← takeTokens? cs
    return ts ++ (← tokensWithin bound rest)

/-- The tokens of a text whose lines end at line feeds. What stands on its first line is not
indented but behind a line that is continued. -/
def tokens? (cs : List Char) : Option (List Token) := do
  if '\x00' ∈ cs then none
  else
    let (indented, rest) := lineStart false cs
    let ts ← tokensWithin rest.length rest
    return if indented then .indent :: ts else ts

end StorageLedger.Console.Literal
