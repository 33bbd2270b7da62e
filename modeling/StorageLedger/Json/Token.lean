import StorageLedger.Json.Basic
import StorageLedger.Number.Decimal
import StorageLedger.Text.Utf8

namespace StorageLedger.Json
open StorageLedger.Text StorageLedger.Number

/-- A token. A faulty one tells whether it started as a text. -/
inductive Token where
  | listStart
  | listEnd
  | objectStart
  | objectEnd
  | comma
  | colon
  | text (s : String)
  | scalar (v : Json)
  | faulty (stop : Stop) (opensText : Bool)

def octet (c : Char) : UInt8 := c.toNat.toUInt8

def isSpace (b : UInt8) : Bool := b == 0x20 || b == 0x09 || b == 0x0A || b == 0x0D

def isDigitOctet (b : UInt8) : Bool := 0x30 ≤ b.toNat && b.toNat ≤ 0x39

/-- The value of an octet that is a hexadecimal digit. -/
def hexOctet? (b : UInt8) : Option Nat := hexDigit? (Char.ofNat b.toNat)

/-- The rest of a word must follow. Gives the number of its octets. -/
def word (index : Nat) : (expected : List Char) → List UInt8 → Except Stop Nat
  | [], _ => .ok 0
  | _ :: _, [] => .error ⟨.endInValue, index⟩
  | e :: es, b :: r =>
    if b = octet e then (word (index + 1) es r).map (· + 1)
    else .error ⟨.expectedWord, index⟩

/-- A hexadecimal digit at `index` behind digits with a value. -/
def hexStep (index : Nat) (value : Nat) (b : UInt8) : Except Stop Nat :=
  match hexOctet? b with
  | some d => .ok (value * 16 + d)
  | none => .error ⟨.invalidEscape, index⟩

def fourDigits (index : Nat) : List UInt8 → Except Stop Nat
  | a :: b :: c :: d :: _ => do
    let n ← hexStep (index + 1) 0 a
    let n ← hexStep (index + 2) n b
    let n ← hexStep (index + 3) n c
    hexStep (index + 4) n d
  | bs => .error ⟨.endInText, index + 1 + bs.length⟩

/-- A number in the range of leading or of trailing surrogates. -/
def isSurrogate (low : Nat) (n : Nat) : Bool := low ≤ n && n < low + 0x400

/-- A character given by its code point, from the mark at `index` on: the octets it stands for, and
the number of octets read behind the mark. A leading surrogate takes a trailing one with it. -/
def codePoint (index : Nat) (bs : List UInt8) : Except Stop (List UInt8 × Nat) := do
  let n ← fourDigits index bs
  if isSurrogate 0xDC00 n then .error ⟨.loneSurrogate, index + 4⟩
  else if isSurrogate 0xD800 n then
    match bs[4]?, bs[5]? with
    | none, _ => .error ⟨.endInText, index + 5⟩
    | some b, second =>
      if b ≠ octet '\\' then .error ⟨.escapeEnd, index + 5⟩
      else match second with
        | none => .error ⟨.endInText, index + 6⟩
        | some u =>
          if u ≠ octet 'u' then .error ⟨.escapeEnd, index + 6⟩
          else
            let m ← fourDigits (index + 6) (bs.drop 6)
            if isSurrogate 0xDC00 m then
              let c := Char.ofNat (0x10000 + (n - 0xD800) * 0x400 + (m - 0xDC00))
              .ok (String.utf8EncodeChar c, 10)
            else .error ⟨.loneSurrogate, index + 10⟩
  else .ok (String.utf8EncodeChar (Char.ofNat n), 4)

/-- The short escapes, each with the octet it stands for. -/
def shortEscapes : List (Char × UInt8) :=
  [('"', 0x22), ('\\', 0x5C), ('/', 0x2F), ('b', 0x08), ('f', 0x0C), ('n', 0x0A), ('r', 0x0D),
    ('t', 0x09)]

/-- One character of a text at `index`: the octets it stands for, and the number of octets that it
takes behind the first. -/
def textPiece (index : Nat) (b : UInt8) (r : List UInt8) : Except Stop (List UInt8 × Nat) :=
  if b = octet '\\' then
    match r with
    | [] => .error ⟨.endInText, index + 1⟩
    | e :: more =>
      if e = octet 'u' then (codePoint (index + 1) more).map fun (out, n) => (out, n + 1)
      else match shortEscapes.find? (fun s => octet s.1 == e) with
        | some s => .ok ([s.2], 1)
        | none => .error ⟨.invalidEscape, index + 1⟩
  else if b.toNat < 0x20 then .error ⟨.controlCharacter, index⟩
  else .ok ([b], 0)

/-- The characters of a text up to its closing quote: the octets they stand for, and the number of
octets up to and with the quote. What was read before is given last first. -/
def textBody (index : Nat) (read : List UInt8) (count : Nat) (bs : List UInt8) :
    Except Stop (List UInt8 × Nat) :=
  match bs with
  | [] => .error ⟨.endInText, index⟩
  | b :: r =>
    if b = octet '"' then .ok (read.reverse, count + 1)
    else match textPiece index b r with
      | .error stop => .error stop
      | .ok (out, more) =>
        textBody (index + 1 + more) (out.reverse ++ read) (count + 1 + more) (r.drop more)
termination_by bs.length
decreasing_by simp only [List.length_drop, List.length_cons]; omega

/-- The text whose quote stands in front of `index`, and the number of octets behind the quote. -/
def textToken (index : Nat) (bs : List UInt8) : Token × Nat :=
  match textBody index [] 0 bs with
  | .error stop => (.faulty stop true, 0)
  | .ok (out, count) =>
    let (cs, valid) := decodeStart out
    if valid = out.length then (.text (String.ofList cs), count)
    else (.faulty ⟨.invalidUnicode, index + valid⟩ true, 0)

/-- The number of digits at the start, of which there must be one. -/
def someDigits (index : Nat) (bs : List UInt8) : Except Stop Nat :=
  match bs with
  | [] => .error ⟨.endInValue, index⟩
  | b :: _ =>
    if isDigitOctet b then .ok (bs.takeWhile isDigitOctet).length
    else .error ⟨.invalidNumber, index⟩

/-- The number of octets of a power of ten at the start, if there is one. -/
def powerLength (index : Nat) : List UInt8 → Except Stop Nat
  | [] => .ok 0
  | e :: r =>
    if e = octet 'e' ∨ e = octet 'E' then
      match r with
      | s :: more =>
        if s = octet '+' ∨ s = octet '-' then (someDigits (index + 2) more).map (· + 2)
        else (someDigits (index + 1) r).map (· + 1)
      | [] => .error ⟨.endInValue, index + 1⟩
    else .ok 0

/-- The number of octets of a fraction at the start, if there is one. -/
def fractionLength (index : Nat) : List UInt8 → Except Stop Nat
  | [] => .ok 0
  | p :: r => if p = octet '.' then (someDigits (index + 1) r).map (· + 1) else .ok 0

/-- The number of digits in front of a fraction: a zero that no digit follows, or digits that do not
start with zero. -/
def wholeLength (index : Nat) : List UInt8 → Except Stop Nat
  | [] => .error ⟨.endInValue, index⟩
  | b :: r =>
    if b = octet '0' then
      if r.head?.any isDigitOctet then .error ⟨.invalidNumber, index + 1⟩ else .ok 1
    else if isDigitOctet b then .ok ((b :: r).takeWhile isDigitOctet).length
    else .error ⟨.invalidNumber, index⟩

def asciiText (bs : List UInt8) : List Char := bs.map fun b => Char.ofNat b.toNat

/-- The number at `index`, with the number of its octets. -/
def number (limits : Limits) (index : Nat) (bs : List UInt8) : Except Stop (Json × Nat) := do
  let negative := bs.head? == some (octet '-')
  let mark := if negative then 1 else 0
  let body := bs.drop mark
  if body.head? = some (octet 'I') then
    let n ← word (index + mark) "Infinity".toList body
    .ok (.float (.infinite negative), mark + n)
  else
    let whole ← wholeLength (index + mark) body
    if limits.integerLength < mark + whole then
      .error ⟨.numberRange, index + limits.integerLength + 1⟩
    else
      let rest := body.drop whole
      let fraction ← fractionLength (index + mark + whole) rest
      let power ← powerLength (index + mark + whole + fraction) (rest.drop fraction)
      let width := whole + fraction + power
      if fraction = 0 ∧ power = 0 then
        .ok (.int (signed negative (digitsValue (asciiText (body.take whole)))), mark + width)
      else
        match Decimal.finite? negative (asciiText (body.take width)) with
        | some d => .ok (.float d.toBinary64, mark + width)
        | none => .error ⟨.invalidNumber, index⟩

/-- A result as a token, with the number of octets it takes behind the first. -/
def scalarToken : Except Stop (Json × Nat) → Token × Nat
  | .ok (v, width) => (.scalar v, width - 1)
  | .error stop => (.faulty stop false, 0)

/-- The token that starts with an octet at `index`, and the number of octets it takes behind it. -/
def token (limits : Limits) (index : Nat) (b : UInt8) (r : List UInt8) : Token × Nat :=
  if b = octet '[' then (.listStart, 0)
  else if b = octet ']' then (.listEnd, 0)
  else if b.toNat = 0x7B then (.objectStart, 0)
  else if b.toNat = 0x7D then (.objectEnd, 0)
  else if b = octet ',' then (.comma, 0)
  else if b = octet ':' then (.colon, 0)
  else if b = octet '"' then textToken (index + 1) r
  else if b = octet 'n' then
    scalarToken ((word (index + 1) "ull".toList r).map fun n => (.null, n + 1))
  else if b = octet 't' then
    scalarToken ((word (index + 1) "rue".toList r).map fun n => (.bool true, n + 1))
  else if b = octet 'f' then
    scalarToken ((word (index + 1) "alse".toList r).map fun n => (.bool false, n + 1))
  else if b = octet 'N' then
    scalarToken ((word (index + 1) "aN".toList r).map fun n => (.float .nan, n + 1))
  else if b = octet '-' ∨ b = octet 'I' ∨ isDigitOctet b then
    scalarToken (number limits index (b :: r))
  else (.faulty ⟨.expectedValue, index⟩ false, 0)

end StorageLedger.Json
