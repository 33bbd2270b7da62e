import StorageLedger.Text.Digit
import StorageLedger.Text.Printable

namespace StorageLedger.Text

def quoteFor (cs : List Char) : Char :=
  if cs.contains '\'' && !cs.contains '"' then '"' else '\''

/-- A character inside quotes: the enclosing quote and the backslash take a backslash, line feeds,
carriage returns and tabs have names, and other characters that are not printable are written by
their code point in two, four or eight hexadecimal digits. -/
def escapeChar (quote c : Char) : List Char :=
  if c = quote ∨ c = '\\' then ['\\', c]
  else if c = '\n' then ['\\', 'n']
  else if c = '\r' then ['\\', 'r']
  else if c = '\t' then ['\\', 't']
  else if isPrintable c then [c]
  else if c.toNat < 0x100 then '\\' :: 'x' :: hexDigits 2 c.toNat
  else if c.toNat < 0x10000 then '\\' :: 'u' :: hexDigits 4 c.toNat
  else '\\' :: 'U' :: hexDigits 8 c.toNat

def quoted (cs : List Char) : List Char :=
  quoteFor cs :: cs.flatMap (escapeChar (quoteFor cs)) ++ [quoteFor cs]

/-- A byte inside quotes: as a character, but nothing above ASCII is printable. -/
def escapeByte (quote : Char) (b : UInt8) : List Char :=
  if 0x80 ≤ b.toNat then '\\' :: 'x' :: hexDigits 2 b.toNat
  else escapeChar quote (Char.ofNat b.toNat)

def quotedBytes (bs : List UInt8) : List Char :=
  let quote := quoteFor (bs.map fun b => Char.ofNat b.toNat)
  'b' :: quote :: bs.flatMap (escapeByte quote) ++ [quote]

end StorageLedger.Text
