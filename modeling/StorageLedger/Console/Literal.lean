import StorageLedger.Console.LiteralToken
import StorageLedger.Console.Prompt

namespace StorageLedger.Console.Literal

/-- What an operand is, as far as it matters to what may stand around it. -/
inductive Shape where
  | real
  | imaginary
  | signedReal
  | signedImaginary
  /-- Texts in quotes, to which others of their kind may be added. -/
  | quoted (octets : Bool)
  | hashable
  /-- A set, a map, or a tuple that holds one. -/
  | unhashable
  /-- The name of a function, which is no value. -/
  | function
deriving DecidableEq, Repr

def Shape.isValue (s : Shape) : Bool := s ≠ .function

def Shape.isHashable (s : Shape) : Bool := s ≠ .unhashable && s ≠ .function

/-- What stands in front of an operand: nothing, a sign, or a real number and a sign. -/
inductive Before where
  | nothing
  | sign
  | sum
deriving DecidableEq, Repr

def Before.apply : Before → Shape → Option Shape
  | .nothing, s => some s
  | .sign, .real => some .signedReal
  | .sign, .imaginary => some .signedImaginary
  | .sum, .imaginary => some .hashable
  | _, _ => none

inductive Place where
  | whole
  /-- Behind the end of a line outside of all brackets. -/
  | done
  | group
  | tuple
  | call
  /-- Behind an opening brace. -/
  | braces
  | set
  | key
  | member
deriving DecidableEq, Repr

/-- How far the reading between two brackets is. -/
structure Level where
  place : Place
  before : Before := .nothing
  operand : Option Shape := none
  /-- The members read so far are hashable. -/
  hashable : Bool := true

namespace Level

def isEmpty (l : Level) : Bool := l.before = .nothing && l.operand = none

/-- The level behind an operand. -/
def put (l : Level) (s : Shape) : Option Level := do
  return { l with before := .nothing, operand := some (← l.before.apply s) }

/-- The level behind an operand that stands on its own or, quoted, behind another. -/
def extend (l : Level) (s : Shape) : Option Level :=
  match l.operand, s with
  | none, _ => l.put s
  | some (.quoted k), .quoted k' => if k = k' then some l else none
  | _, _ => none

def sign (l : Level) : Option Level :=
  match l.operand with
  | none => if l.before = .nothing then some { l with before := .sign } else none
  | some .real => some { l with before := .sum, operand := none }
  | some .signedReal => some { l with before := .sum, operand := none }
  | _ => none

/-- The level behind a member and what separates it from the next. -/
def next (l : Level) (s : Shape) (place : Place) : Level :=
  ⟨place, .nothing, none, l.hashable && s.isHashable⟩

def comma (l : Level) : Option Level :=
  match l.operand with
  | none => none
  | some s =>
    match l.place with
    | .whole => if s.isValue then some (l.next s .tuple) else none
    | .group => if s.isValue then some (l.next s .tuple) else none
    | .tuple => if s.isValue then some (l.next s .tuple) else none
    | .braces => if s.isHashable then some (l.next s .set) else none
    | .set => if s.isHashable then some (l.next s .set) else none
    | .member => if s.isValue then some (l.next s .key) else none
    | _ => none

def colon (l : Level) : Option Level :=
  match l.place, l.operand with
  | .braces, some s => if s.isHashable then some (l.next s .member) else none
  | .key, some s => if s.isHashable then some (l.next s .member) else none
  | _, _ => none

/-- What parentheses hold. -/
def closeParenthesis (l : Level) : Option Shape :=
  match l.place, l.operand with
  | .group, none => if l.isEmpty then some .hashable else none
  | .group, some (.quoted _) => some .hashable
  | .group, some s => some s
  | .tuple, none => if l.isEmpty then some (if l.hashable then .hashable else .unhashable) else none
  | .tuple, some s =>
    if s.isValue then some (if l.hashable && s.isHashable then .hashable else .unhashable)
    else none
  | .call, none => if l.isEmpty then some .unhashable else none
  | _, _ => none

/-- Braces hold a set or a map. -/
def closeBrace (l : Level) : Option Shape :=
  match l.place, l.operand with
  | .braces, none => if l.isEmpty then some .unhashable else none
  | .key, none => if l.isEmpty then some .unhashable else none
  | .set, none => if l.isEmpty then some .unhashable else none
  | .braces, some s => if s.isHashable then some .unhashable else none
  | .set, some s => if s.isHashable then some .unhashable else none
  | .member, some s => if s.isValue then some .unhashable else none
  | _, _ => none

end Level

/-- The greatest number of brackets that may be open. -/
def depthLimit : Nat := 200

/-- How far the reading of a literal is: the brackets that are open, the innermost first, and what
is outside of all. -/
structure State where
  open_ : List Level
  outermost : Level

namespace State

def start : State := ⟨[], { place := .whole }⟩

def innermost (s : State) : Level := s.open_.headD s.outermost

def replace (s : State) (l : Level) : State :=
  match s.open_ with
  | [] => { s with outermost := l }
  | _ :: rest => { s with open_ := l :: rest }

def push (s : State) (l : Level) : Option State :=
  if s.open_.length < depthLimit then some { s with open_ := l :: s.open_ } else none

def pop (s : State) (held : Level → Option Shape) : Option State :=
  match s.open_ with
  | [] => none
  | l :: rest => do
    let outer : State := { s with open_ := rest }
    return outer.replace (← outer.innermost.put (← held l))

def isComplete (s : State) : Bool :=
  s.open_.isEmpty &&
    match s.outermost.place, s.outermost.operand with
    | .tuple, none => s.outermost.isEmpty
    | _, some shape => shape.isValue
    | _, none => false

/-- Ends of lines count outside of brackets only. There they may also stand in front. -/
def lineEnd (s : State) : Option State :=
  if !s.open_.isEmpty || s.outermost.place = .whole && s.outermost.isEmpty then some s
  else if s.isComplete then some ⟨[], { place := .done, operand := some .hashable }⟩
  else none

/-- Parentheses hold a value, or nothing behind the name of a function. -/
def openParenthesis (s : State) : Option State :=
  match s.innermost.operand with
  | none => s.push { place := .group }
  | some .function => (s.replace { s.innermost with operand := none }).push { place := .call }
  | _ => none

def openBrace (s : State) : Option State :=
  match s.innermost.operand with
  | none => s.push { place := .braces }
  | _ => none

def step (s : State) : Token → Option State
  | .number imaginary =>
      (s.innermost.extend (if imaginary then .imaginary else .real)).map s.replace
  | .quoted octets => (s.innermost.extend (.quoted octets)).map s.replace
  | .constant => (s.innermost.extend .hashable).map s.replace
  | .emptySet => (s.innermost.extend .function).map s.replace
  | .sign => s.innermost.sign.map s.replace
  | .comma => s.innermost.comma.map s.replace
  | .colon => s.innermost.colon.map s.replace
  | .parenthesis opens => if opens then s.openParenthesis else s.pop (·.closeParenthesis)
  | .brace opens => if opens then s.openBrace else s.pop (·.closeBrace)
  | .lineEnd => s.lineEnd
  | .indent => if s.open_.isEmpty then none else some s

end State

/-- A text is a literal: a number, a sum of a real and an imaginary one, quoted texts, one of the
words for a value, or a tuple, a set or a map of literals. -/
def isLiteral (cs : List Char) : Bool :=
  match tokens? (plainBreaks cs) with
  | some ts => (ts.foldlM State.step .start).any (·.isComplete)
  | none => false

end StorageLedger.Console.Literal
