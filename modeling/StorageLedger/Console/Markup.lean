import StorageLedger.Console.Emoji
import StorageLedger.Console.Literal
import StorageLedger.Console.Style
import StorageLedger.Text.WordCharacter

namespace StorageLedger.Console.Markup
open StorageLedger.Text

structure Tag where
  /-- The name, a slash in front if it closes. -/
  name : List Char
  /-- What stands behind the first equals sign. -/
  parameters : Option (List Char)
deriving DecidableEq, Repr

def Tag.ofBody (body : List Char) : Tag :=
  match body.span (· ≠ '=') with
  | (name, _ :: parameters) => ⟨name, some parameters⟩
  | (name, []) => ⟨name, none⟩

def Tag.write (t : Tag) : List Char :=
  '[' :: t.name ++
    (match t.parameters with
    | some parameters => '=' :: parameters
    | none => []) ++ [']']

inductive Fault where
  | noMatch (tag : Tag) (position : Nat)
  | nothingToClose (position : Nat)
  | action (parameters given : List Char)
  | component (fault : IntegerText.Fault)
deriving DecidableEq, Repr

def Fault.message : Fault → String
  | .noMatch tag position =>
    "closing tag '" ++ String.ofList tag.write ++ "' at position " ++ position.repr ++
      " doesn't match any open tag"
  | .nothingToClose position =>
    "closing tag '[/]' at position " ++ position.repr ++ " has nothing to close"
  | .action parameters given =>
    "error parsing " ++ String.ofList (quoted parameters) ++ " in " ++
      String.ofList (quoted given) ++ "; invalid syntax"
  | .component fault => fault.message

/-- The characters that the body of a tag may start with. -/
def startsTag (c : Char) : Bool :=
  (0x61 ≤ c.toNat && c.toNat ≤ 0x7A) || c == '#' || c == '/' || c == '@'

/-- The text up to the next closing bracket and the rest behind it, if no bracket opens before. -/
def closedBody? : List Char → Option (List Char × List Char)
  | [] => none
  | c :: r =>
    if c = ']' then some ([], r)
    else if c = '[' then none
    else (closedBody? r).map fun (body, rest) => (c :: body, rest)

def tagBody? : List Char → Option (List Char × List Char)
  | '[' :: c :: r =>
    if startsTag c then (closedBody? r).map fun (body, rest) => (c :: body, rest) else none
  | _ => none

/-- The first tag in a text and what stands around it. -/
structure Find where
  /-- The text before the tag and its backslashes. -/
  before : List Char
  /-- The number of backslashes in front of the tag. -/
  backslashes : Nat
  body : List Char
  rest : List Char

def firstTag? : List Char → Option Find
  | [] => none
  | c :: r =>
    let run := (c :: r).takeWhile (· = '\\')
    match tagBody? ((c :: r).drop run.length) with
    | some (body, rest) => some ⟨[], run.length, body, rest⟩
    | none => (firstTag? r).map fun f => { f with before := c :: f.before }

theorem closedBody?_length {cs body rest : List Char} (h : closedBody? cs = some (body, rest)) :
    rest.length < cs.length := by
  induction cs generalizing body with
  | nil => cases h
  | cons c r ih =>
    rw [closedBody?] at h
    split at h
    · obtain ⟨rfl, rfl⟩ := h
      simp
    · split at h
      · cases h
      · obtain ⟨⟨body', rest'⟩, h', he⟩ := Option.map_eq_some_iff.mp h
        obtain ⟨rfl, rfl⟩ := he
        simpa using Nat.lt_succ_of_lt (ih h')

theorem tagBody?_length {cs body rest : List Char} (h : tagBody? cs = some (body, rest)) :
    rest.length < cs.length := by
  unfold tagBody? at h
  split at h
  · split at h
    · obtain ⟨⟨body', rest'⟩, h', he⟩ := Option.map_eq_some_iff.mp h
      obtain ⟨rfl, rfl⟩ := he
      have := closedBody?_length h'
      simp only [List.length_cons]
      omega
    · cases h
  · cases h

theorem firstTag?_length {cs : List Char} {f : Find} (h : firstTag? cs = some f) :
    f.rest.length < cs.length := by
  induction cs generalizing f with
  | nil => cases h
  | cons c r ih =>
    rw [firstTag?] at h
    split at h
    · next h' =>
      obtain rfl := Option.some.inj h
      have := tagBody?_length h'
      rw [List.length_drop] at this
      exact Nat.lt_of_lt_of_le this (Nat.sub_le _ _)
    · obtain ⟨f', h', rfl⟩ := Option.map_eq_some_iff.mp h
      simpa using Nat.lt_succ_of_lt (ih h')

inductive Piece where
  | plain (cs : List Char)
  | tag (t : Tag) (position : Nat)

/-- The pieces that a tag and the text before it make, at a position of the whole text. -/
def Find.pieces (f : Find) (position : Nat) : List Piece :=
  -- Two backslashes stand for one. One that is left over makes a text of the tag.
  let escaped := f.backslashes / 2
  let start := position + f.before.length + 2 * escaped
  [.plain f.before, .plain (List.replicate escaped '\\'),
    if f.backslashes % 2 = 1 then .plain ('[' :: f.body ++ [']']) else .tag (.ofBody f.body) start]

def Find.length (f : Find) : Nat := f.before.length + f.backslashes + f.body.length + 2

/-- The pieces of a text that starts at a position. -/
def pieces (position : Nat) (cs : List Char) : List Piece :=
  match h : firstTag? cs with
  | some f =>
    have := firstTag?_length h
    f.pieces position ++ pieces (position + f.length) f.rest
  | none => [.plain cs]
termination_by cs.length

/-- The text with a backslash taken away before each bracket. -/
def unescape : List Char → List Char
  | [] => []
  | '\\' :: '[' :: r => '[' :: unescape r
  | c :: r => c :: unescape r

/-- Control characters that are never shown. -/
def isHidden (c : Char) : Bool := [7, 8, 11, 12, 13].contains c.toNat

def shown (cs : List Char) : List Char := (expandEmoji (unescape cs)).filter (!isHidden ·)

/-- A character of the name in front of the arguments of a call. -/
def isHandlerChar (c : Char) : Bool := isWordCharacter c || c == '.'

/-- Parameters that can be read: a name, perhaps with literal arguments in parentheses on the same
line, or else a literal. -/
def isReadable (parameters : List Char) : Bool :=
  match parameters.dropWhile isHandlerChar with
  | [] => true
  | '(' :: r =>
    if r.getLast? = some ')' ∧ '\n' ∉ r then Literal.isLiteral ('(' :: r)
    else Literal.isLiteral parameters
  | _ => Literal.isLiteral parameters

/-- An action tag may be closed only if its parameters can be read. -/
def Tag.check (t : Tag) : Except Fault Unit :=
  match t.name, t.parameters with
  | '@' :: _, some given =>
    let parameters := trim isBlank given
    if given.isEmpty || isReadable parameters then .ok () else .error (.action parameters given)
  | _, _ => .ok ()

/-- The open tags after a tag, the innermost first. -/
def nest (open_ : List Tag) (t : Tag) (position : Nat) : Except Fault (List Tag) :=
  match t.name with
  | '/' :: name =>
    match trim isBlank name, open_ with
    | [], [] => .error (.nothingToClose position)
    | [], closed :: rest => closed.check.map fun _ => rest
    | name, _ => do
      let name ← (Style.normalize name).mapError .component
      match open_.find? (·.name = name) with
      | some closed => closed.check.map fun _ => open_.eraseP (·.name = name)
      | none => .error (.noMatch t position)
  | name => do return ⟨← (Style.normalize name).mapError .component, t.parameters⟩ :: open_

/-- What is shown of pieces inside open tags. -/
def showPieces (open_ : List Tag) : List Piece → Except Fault (List Char)
  | [] => .ok []
  | .plain cs :: rest => do return shown cs ++ (← showPieces open_ rest)
  | .tag t position :: rest => do showPieces (← nest open_ t position) rest

/-- The style that a tag asks for: its name in written form, and its parameters. -/
def Tag.style (t : Tag) : Except Fault (List Char) := do
  let name ← (Style.normalize t.name).mapError .component
  return name ++
    match t.parameters with
    | some parameters => ' ' :: parameters
    | none => []

/-- What no style is has no effect, but a colour whose components cannot be read is a fault. -/
def Tag.checkStyle (t : Tag) : Except Fault Unit :=
  match t.name with
  | '/' :: _ => .ok ()
  | _ => do
    let style ← t.style
    ((Style.read style).mapError .component).map fun _ => ()

def checkStyles : List Piece → Except Fault Unit
  | [] => .ok ()
  | .plain _ :: rest => checkStyles rest
  | .tag t _ :: rest => do
    t.checkStyle
    checkStyles rest

/-- What is shown of pieces. Their styles are read once all tags are known to match. -/
def showStyled (ps : List Piece) : Except Fault (List Char) := do
  let cs ← showPieces [] ps
  checkStyles ps
  return cs

def render (cs : List Char) : Except Fault (List Char) := showStyled (pieces 0 cs)

/-- A text without an opening bracket holds no tag. -/
theorem firstTag?_eq_none {cs : List Char} (h : '[' ∉ cs) : firstTag? cs = none := by
  induction cs with
  | nil => rfl
  | cons c r ih =>
    have hr : '[' ∉ r := fun hm => h (List.mem_cons_of_mem c hm)
    have hnone : ∀ ds : List Char, '[' ∉ ds → tagBody? ds = none := by
      intro ds hd
      unfold tagBody?
      split
      · exact absurd List.mem_cons_self hd
      · rfl
    rw [firstTag?, hnone _ fun hm => h (List.mem_of_mem_drop hm), ih hr]
    rfl

/-- A text without an opening bracket is shown as it is, its emoji and hidden characters apart. -/
theorem render_of_no_bracket {cs : List Char} (h : '[' ∉ cs) : render cs = .ok (shown cs) := by
  rw [render, pieces]
  split
  · next hf => rw [firstTag?_eq_none h] at hf; cases hf
  · simp [showStyled, showPieces, checkStyles, pure, Except.pure, bind, Except.bind]

end StorageLedger.Console.Markup
