import StorageLedger.Console.ColorNames
import StorageLedger.Text.Blank
import StorageLedger.Text.Case
import StorageLedger.Text.IntegerText
import StorageLedger.Text.Quoted

namespace StorageLedger.Console
open StorageLedger.Text

inductive Attribute where
  | bold
  | dim
  | italic
  | underline
  | blink
  | blink2
  | reverse
  | conceal
  | strike
  | underline2
  | frame
  | encircle
  | overline
deriving DecidableEq, Repr

namespace Attribute

def all : List Attribute :=
  [bold, dim, italic, underline, blink, blink2, reverse, conceal, strike, underline2, frame,
   encircle, overline]

def name : Attribute → String
  | bold => "bold"
  | dim => "dim"
  | italic => "italic"
  | underline => "underline"
  | blink => "blink"
  | blink2 => "blink2"
  | reverse => "reverse"
  | conceal => "conceal"
  | strike => "strike"
  | underline2 => "underline2"
  | frame => "frame"
  | encircle => "encircle"
  | overline => "overline"

def shortName? : Attribute → Option String
  | bold => some "b"
  | dim => some "d"
  | italic => some "i"
  | underline => some "u"
  | reverse => some "r"
  | conceal => some "c"
  | strike => some "s"
  | underline2 => some "uu"
  | overline => some "o"
  | _ => none

def ofWord? (word : List Char) : Option Attribute :=
  all.find? fun a => a.name.toList = word || a.shortName?.any (·.toList = word)

end Attribute

/-- What stands between the opening of a function and the closing parenthesis at the end. -/
def argumentsOf? (opening word : List Char) : Option (List Char) :=
  if opening.isPrefixOf word && word.getLast? == some ')' then
    some ((word.drop opening.length).dropLast)
  else none

def isHexColor : List Char → Bool
  | '#' :: digits => digits.length == 6 && digits.all fun c => (hexDigit? c).isSome
  | _ => false

def isNumberedColor (word : List Char) : Bool :=
  match argumentsOf? "color(".toList word with
  | some digits =>
    digits != [] && digits.length ≤ 3 && digits.all isDigit && digitsValue digits ≤ 255
  | none => false

/-- A colour given by its three components. A component that is no number is an error. -/
def isMixedColor (word : List Char) : Except IntegerText.Fault Bool :=
  match argumentsOf? "rgb(".toList word with
  | some text =>
    let components := splitAtChar ',' text
    if text != [] && (text.all fun c => (decimalDigit? c).isSome || c == ',') &&
        components.length == 3 then
      (components.mapM fun c => IntegerText.read c (quoted c)).map (·.all (· ≤ 255))
    else .ok false
  | none => .ok false

/-- A word in lower case that stands for a colour. -/
def isColor (word : List Char) : Except IntegerText.Fault Bool :=
  if word = "default".toList ∨ colorNames.any (·.toList = word) ∨ isHexColor word ∨
      isNumberedColor word then .ok true
  else isMixedColor word

/-- A style: attributes that are set or unset, colours and a link. -/
structure Style where
  /-- The attributes, the latest first. -/
  attributes : List (Attribute × Bool) := []
  /-- The colour of the text. -/
  color : Option (List Char) := none
  /-- The colour of the ground. -/
  ground : Option (List Char) := none
  /-- The target of the link. -/
  link : Option (List Char) := none

namespace Style

def attributeWords (s : Style) (a : Attribute) : List (List Char) :=
  match s.attributes.lookup a with
  | some true => [a.name.toList]
  | some false => ["not".toList, a.name.toList]
  | none => []

def words (s : Style) : List (List Char) :=
  Attribute.all.flatMap s.attributeWords ++ s.color.toList ++
    (match s.ground with
    | some color => ["on".toList, color]
    | none => []) ++
    match s.link with
    | some target => ["link".toList, target]
    | none => []

def write (s : Style) : List Char :=
  match s.words with
  | [] => "none".toList
  | ws => [' '].intercalate ws

/-- The style that words ask for after a style. -/
def extend (s : Style) : List (List Char) → Except IntegerText.Fault (Option Style)
  | [] => .ok (some s)
  | w :: rest =>
    let word := lower w
    if word = "on".toList then
      match rest with
      | [] => .ok none
      | color :: rest => do
        let color := lower color
        if ← isColor color then Style.extend { s with ground := some color } rest else .ok none
    else if word = "not".toList then
      match rest with
      | [] => .ok none
      | name :: rest =>
        match Attribute.ofWord? name with
        | some a => Style.extend { s with attributes := (a, false) :: s.attributes } rest
        | none => .ok none
    else if word = "link".toList then
      match rest with
      | [] => .ok none
      | target :: rest => Style.extend { s with link := some target } rest
    else
      match Attribute.ofWord? word with
      | some a => Style.extend { s with attributes := (a, true) :: s.attributes } rest
      | none => do
        if ← isColor word then Style.extend { s with color := some word } rest else .ok none

def read (cs : List Char) : Except IntegerText.Fault (Option Style) :=
  if trim isBlank cs = "none".toList then .ok (some {}) else Style.extend {} (Text.words isBlank cs)

/-- The written form of the style that a text asks for. What is no style is trimmed and put into
lower case. -/
def normalize (cs : List Char) : Except IntegerText.Fault (List Char) := do
  match ← read cs with
  | some s => .ok s.write
  | none => .ok (lower (trim isBlank cs))

end Style
end StorageLedger.Console
