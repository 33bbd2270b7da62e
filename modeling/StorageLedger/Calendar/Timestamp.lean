import StorageLedger.Calendar.Date

namespace StorageLedger.Calendar
open StorageLedger.Text

structure Clock where
  hour : Nat
  minute : Nat
  second : Nat
  micro : Nat
  hour_lt : hour < 24
  minute_lt : minute < 60
  second_lt : second < 60
  micro_lt : micro < 1000000
deriving DecidableEq, Repr

def Clock.midnight : Clock := ⟨0, 0, 0, 0, by decide, by decide, by decide, by decide⟩

def Clock.ofParts? (hour minute second micro : Nat) : Option Clock :=
  if h : hour < 24 ∧ minute < 60 ∧ second < 60 ∧ micro < 1000000 then
    some ⟨hour, minute, second, micro, h.1, h.2.1, h.2.2.1, h.2.2.2⟩
  else none

def Clock.ofSeconds? (seconds micro : Nat) : Option Clock :=
  Clock.ofParts? (seconds / 3600) (seconds / 60 % 60) (seconds % 60) micro

/-- The text of a time of day. Microseconds are left out when they are zero. -/
def Clock.text (c : Clock) : List Char :=
  paddedDigits 2 c.hour ++ ':' :: paddedDigits 2 c.minute ++ ':' :: paddedDigits 2 c.second ++
    if c.micro = 0 then [] else '.' :: paddedDigits 6 c.micro

/-- An offset from universal time, in seconds, of less than a day. -/
structure Offset where
  /-- The seconds ahead of universal time. -/
  seconds : Int
  lt_day : seconds.natAbs < 86400
deriving DecidableEq, Repr

def Offset.zero : Offset := ⟨0, by decide⟩

def Offset.ofSeconds? (seconds : Int) : Option Offset :=
  if h : seconds.natAbs < 86400 then some ⟨seconds, h⟩ else none

/-- The text of an offset: a sign, hours and minutes, and seconds when they are not zero. -/
def Offset.text (o : Offset) : List Char :=
  let n := o.seconds.natAbs
  (if o.seconds < 0 then '-' else '+') :: paddedDigits 2 (n / 3600) ++
    ':' :: paddedDigits 2 (n / 60 % 60) ++
    if n % 60 = 0 then [] else ':' :: paddedDigits 2 (n % 60)

/-- A point in time, known to the microsecond. Without an offset it is local to no place. -/
structure Timestamp where
  date : Date
  clock : Clock
  offset : Option Offset
deriving DecidableEq, Repr

def Timestamp.ofDate (d : Date) : Timestamp := ⟨d, .midnight, none⟩

def Timestamp.text (t : Timestamp) : List Char :=
  t.date.text ++ ' ' :: t.clock.text ++
    match t.offset with
    | some o => o.text
    | none => []

inductive RangeFault where
  | beforeYearZero
  | afterYear9999
deriving DecidableEq, Repr

def epochSeconds : Int := 62167219200

/-- The timestamp in universal time a number of seconds and microseconds after the start of 1970. -/
def Timestamp.ofUnix (seconds : Int) (micro : Nat) : Except RangeFault Timestamp :=
  let fromZero := seconds + (micro / 1000000 : Nat) + epochSeconds
  if fromZero < 0 then .error .beforeYearZero
  else
    let n := fromZero.toNat
    match Date.ofDayCount? (n / 86400), Clock.ofSeconds? (n % 86400) (micro % 1000000) with
    | some date, some clock => .ok ⟨date, clock, some .zero⟩
    | _, _ => .error .afterYear9999

end StorageLedger.Calendar
