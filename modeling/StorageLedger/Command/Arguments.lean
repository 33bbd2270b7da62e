import StorageLedger.Command.Misuse
import StorageLedger.Command.Similarity

namespace StorageLedger.Command

structure Arguments where
  /-- The options in the order in which they are given, each with its value if it takes one. -/
  given : List (Switch × String)
  operands : List String

def Arguments.prepend (more : List (Switch × String)) (a : Arguments) : Arguments :=
  { a with given := more ++ a.given }

/-- What an argument that starts with a dash holds: options, of which the last may still need a
value. -/
structure Reading where
  complete : List (Switch × String)
  /-- The option that needs a value, under the name by which it was given. -/
  open_ : Option (Switch × String)

def readLetters (switches : List Switch) : List Char → Except Misuse Reading
  | [] => .ok ⟨[], none⟩
  | c :: r =>
    let name := "-" ++ c.toString
    match switches.find? fun s => s.letter? = some c with
    | none => .error (.unknownSwitch name [])
    | some s =>
      if s.takesValue then
        .ok (if r.isEmpty then ⟨[], some (s, name)⟩ else ⟨[(s, String.ofList r)], none⟩)
      else
        (readLetters switches r).map fun more =>
          { more with complete := (s, "") :: more.complete }

def splitValue (cs : List Char) : String × Option String :=
  match cs.span (· ≠ '=') with
  | (name, _ :: value) => (String.ofList name, some (String.ofList value))
  | (name, []) => (String.ofList name, none)

def readSwitch (switches : List Switch) (arg : String) : Except Misuse Reading :=
  let (name, value) := splitValue arg.toList
  match switches.find? fun s => s.long == name with
  | some s =>
    match s.takesValue, value with
    | true, some value => .ok ⟨[(s, value)], none⟩
    | true, none => .ok ⟨[], some (s, name)⟩
    | false, none => .ok ⟨[(s, "")], none⟩
    | false, some _ => .error (.unexpectedValue s)
  | none =>
    if "--".toList.isPrefixOf arg.toList then
      .error (.unknownSwitch name (closeNames name (switches.map Switch.long)))
    else readLetters switches (arg.toList.drop 1)

def isSwitch (arg : String) : Bool :=
  match arg.toList with
  | '-' :: _ :: _ => true
  | _ => false

/-- The arguments of a command line. Unless options may follow operands, the first operand ends
them. -/
def readArguments (switches : List Switch) (mixed : Bool) : List String → Except Misuse Arguments
  | [] => .ok ⟨[], []⟩
  | arg :: rest =>
    if arg == "--" then .ok ⟨[], rest⟩
    else if isSwitch arg then
      match readSwitch switches arg with
      | .error e => .error e
      | .ok ⟨complete, none⟩ => (readArguments switches mixed rest).map (.prepend complete)
      | .ok ⟨complete, some (s, name)⟩ =>
        match rest with
        | [] => .error (.missingValue name)
        | value :: rest =>
          (readArguments switches mixed rest).map (.prepend (complete ++ [(s, value)]))
    else if mixed then
      (readArguments switches mixed rest).map fun a => { a with operands := arg :: a.operands }
    else .ok ⟨[], arg :: rest⟩

def Arguments.has (a : Arguments) (s : Switch) : Bool := a.given.any (·.1 = s)

def Arguments.value? (a : Arguments) (s : Switch) : Option String :=
  (a.given.reverse.find? (·.1 = s)).map (·.2)

end StorageLedger.Command
