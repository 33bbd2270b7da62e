import StorageLedger.Text.Blank

namespace StorageLedger.Settings.EnvFile
open StorageLedger.Text

/-- The text with every line end as a line feed, and without a byte-order mark in front. -/
def normalize : List Char → List Char
  | '\uFEFF' :: cs => lineFeeds cs
  | cs => lineFeeds cs
where
  lineFeeds : List Char → List Char
    | '\r' :: '\n' :: r => '\n' :: lineFeeds r
    | '\r' :: r => '\n' :: lineFeeds r
    | c :: r => c :: lineFeeds r
    | [] => []

/-- A blank that does not end a line. -/
def isInline (c : Char) : Bool := isBlank c && c != '\n'

def skipInline (cs : List Char) : List Char := cs.dropWhile isInline

/-- What follows the current line. -/
def skipLine (cs : List Char) : List Char := (cs.dropWhile (· ≠ '\n')).drop 1

/-- What follows the word that may introduce a binding. -/
def skipExport (cs : List Char) : List Char :=
  let word := "export".toList
  if word.isPrefixOf cs ∧ (cs.drop word.length).head?.any isInline then
    skipInline (cs.drop word.length)
  else cs

def isNameChar (c : Char) : Bool := c != '=' && c != '#' && !isBlank c

/-- The name at the start of a text, none in front of a comment, and the rest. -/
def name? : List Char → Option (Option (List Char) × List Char)
  | '#' :: r => some (none, '#' :: r)
  | '\'' :: r =>
    let name := r.takeWhile (· ≠ '\'')
    match r.dropWhile (· ≠ '\'') with
    | _ :: rest => if name = [] then none else some (some name, rest)
    | [] => none
  | cs =>
    let name := cs.takeWhile isNameChar
    if name = [] then none else some (some name, cs.dropWhile isNameChar)

/-- A text split at the first quote that no backslash stands in front of. -/
def splitAtQuote (quote : Char) : (afterBackslash : Bool) → List Char →
    Option (List Char × List Char)
  | _, [] => none
  | afterBackslash, c :: r =>
    if c = quote ∧ ¬ afterBackslash then some ([], r)
    else (splitAtQuote quote (c == '\\') r).map fun (value, rest) => (c :: value, rest)

def splitAtLastQuote (quote : Char) (cs : List Char) : Option (List Char × List Char) :=
  match cs.reverse.dropWhile (· ≠ quote) with
  | [] => none
  | _ :: before => some (before.reverse, cs.drop (before.length + 1))

def unescape (escapes : List (Char × Char)) : List Char → List Char
  | '\\' :: c :: r =>
    match escapes.lookup c with
    | some x => x :: unescape escapes r
    | none => '\\' :: unescape escapes (c :: r)
  | c :: r => c :: unescape escapes r
  | [] => []
termination_by cs => cs.length

def singleEscapes : List (Char × Char) := [('\\', '\\'), ('\'', '\'')]

def doubleEscapes : List (Char × Char) :=
  singleEscapes ++ [('"', '"'), ('a', '\x07'), ('b', '\x08'), ('f', '\x0C'), ('n', '\n'),
    ('r', '\r'), ('t', '\t'), ('v', '\x0B')]

/-- A value behind its opening quote, and the rest. -/
def quotedValue? (quote : Char) (escapes : List (Char × Char)) (cs : List Char) :
    Option (List Char × List Char) :=
  -- If every further quote stands behind a backslash, the last one closes the value.
  ((splitAtQuote quote false cs).or (splitAtLastQuote quote cs)).map fun (value, rest) =>
    (unescape escapes value, rest)

/-- A line up to a comment that stands behind a blank. -/
def cutComment : (afterBlank : Bool) → List Char → List Char
  | true, '#' :: _ => []
  | _, c :: r => c :: cutComment (isBlank c) r
  | _, [] => []

/-- The value at the start of a text, and the rest. -/
def value? : List Char → Option (List Char × List Char)
  | '\'' :: r => quotedValue? '\'' singleEscapes r
  | '"' :: r => quotedValue? '"' doubleEscapes r
  | cs =>
    some (trimEnd isBlank (cutComment false (cs.takeWhile (· ≠ '\n'))), cs.dropWhile (· ≠ '\n'))

/-- What follows the end of a line, which only a comment may precede. -/
def lineEnd? (cs : List Char) : Option (List Char) :=
  let rest := match skipInline cs with
    | '#' :: r => r.dropWhile (· ≠ '\n')
    | r => r
  match rest with
  | [] => some []
  | c :: r => if c = '\n' then some r else none

/-- What is bound at the start of a text, and what follows; a malformed binding binds nothing, and
what follows is the next line. -/
def bindingAt (cs : List Char) : Option (List Char × Option (List Char)) × List Char :=
  let cs := skipExport cs
  match name? cs with
  | none => (none, skipLine cs)
  | some (name, rest) =>
    match skipInline rest with
    | '=' :: r =>
      let r := skipInline r
      match value? r with
      | none => (none, skipLine r)
      | some (value, rest) =>
        match lineEnd? rest with
        | some rest => (name.map (·, some value), rest)
        | none => (none, skipLine rest)
    | rest =>
      match lineEnd? rest with
      | some rest => (name.map (·, none), rest)
      | none => (none, skipLine rest)

/-- The bindings of a text, in order. A binding takes at least a character, so there are no more of
them than characters. -/
def bindingsWithin : (bound : Nat) → List Char → List (List Char × Option (List Char))
  | 0, _ => []
  | bound + 1, cs =>
    match trimStart isBlank cs with
    | [] => []
    | cs =>
      let (binding, rest) := bindingAt cs
      binding.toList ++ bindingsWithin bound rest

def bindings (cs : List Char) : List (List Char × Option (List Char)) :=
  bindingsWithin cs.length cs

/-- A reference at the start of a text, behind the dollar sign and the brace: the name, the value to
use when it is not bound, and the rest. -/
def reference? (cs : List Char) : Option (List Char × List Char × List Char) :=
  let name := cs.takeWhile fun c => c != '\x7d' && c != ':'
  match cs.drop name.length with
  | '\x7d' :: rest => some (name, [], rest)
  | ':' :: '-' :: r =>
    let value := r.takeWhile (· ≠ '\x7d')
    match r.drop value.length with
    | _ :: rest => some (name, value, rest)
    | [] => none
  | _ => none

/-- The value bound to a name: the last one. -/
def bound? (name : List Char) (table : List (List Char × α)) : Option α := table.reverse.lookup name

/-- A value with its references resolved. A name that is bound to nothing gives nothing. -/
def resolveWithin (table : List (List Char × Option (List Char))) : (bound : Nat) → List Char →
    List Char
  | bound + 1, '$' :: '\x7b' :: r =>
    match reference? r with
    | some (name, absent, rest) =>
      ((bound? name table).getD (some absent)).getD [] ++ resolveWithin table bound rest
    | none => '$' :: resolveWithin table bound ('\x7b' :: r)
  | bound + 1, c :: r => c :: resolveWithin table bound r
  | _, cs => cs

/-- The bindings with their references resolved, in order, each by the bindings before it and then
by the environment. -/
def resolved (environment : List (List Char × Option (List Char))) :
    List (List Char × Option (List Char)) → List (List Char × Option (List Char)) →
    List (List Char × Option (List Char))
  | done, [] => done
  | done, (name, value) :: rest =>
    let value := value.map fun cs => resolveWithin (environment ++ done) cs.length cs
    resolved environment (done ++ [(name, value)]) rest

/-- The names of a file with their values: a name stands where it was bound first, and has the value
that it was bound to last. -/
def values (environment : List (List Char × List Char)) (cs : List Char) :
    List (List Char × Option (List Char)) :=
  let environment := environment.map fun (name, value) => (name, some value)
  let table := resolved environment [] (bindings (normalize cs))
  (table.map (·.1)).eraseDups.map fun name => (name, (bound? name table).getD none)

end StorageLedger.Settings.EnvFile
