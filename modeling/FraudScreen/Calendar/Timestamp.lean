import FraudScreen.Calendar.Date
import FraudScreen.Decimal.Reader
import FraudScreen.Text.Blank

/-!
# Timestamps

A moment on the time line, to the nanosecond, written in universal time. The sixtieth second of a
minute is a leap second: it counts as the second before it, with a whole second more in its fraction.
-/
namespace FraudScreen.Calendar

/-- Nanoseconds in a second. -/
def nanosPerSecond : Nat := 1000000000

/-- A moment: whole seconds since the start of 1970, and nanoseconds past them. -/
structure Timestamp where
  seconds : Int
  nanos : Nat
deriving DecidableEq, Repr

namespace Timestamp

/-- One moment is after another. -/
def isAfter (t u : Timestamp) : Bool :=
  u.seconds < t.seconds || (u.seconds == t.seconds && u.nanos < t.nanos)

/-- The moment some hours later. -/
def addHours (t : Timestamp) (hours : Int) : Timestamp := { t with seconds := t.seconds + 3600 * hours }

/-- The day number of the first of January 1970. -/
def epochDay : Int := 719162

/-! ## Writing -/

/-- A number in at least `width` digits. -/
def padded (width n : Nat) : List Char :=
  let ds := Nat.toDigits 10 n
  List.replicate (width - ds.length) '0' ++ ds

/-- A year: four digits, or a sign and more digits outside the first ten thousand years. -/
def writeYear (year : Int) : List Char :=
  if 0 ≤ year ∧ year ≤ 9999 then padded 4 year.toNat
  else (if year < 0 then '-' else '+') :: padded 4 year.natAbs

/-- A fraction of a second in three, six or nine digits, the fewest that lose nothing. -/
def writeFraction (nanos : Nat) : List Char :=
  if nanos = 0 then []
  else if nanos % 1000000 = 0 then '.' :: padded 3 (nanos / 1000000)
  else if nanos % 1000 = 0 then '.' :: padded 6 (nanos / 1000)
  else '.' :: padded 9 nanos

/-- The text of a timestamp. -/
def write (t : Timestamp) : String :=
  let date := Date.ofDayNumber (t.seconds / 86400 + epochDay)
  let second := (t.seconds % 86400).toNat
  String.ofList <|
    writeYear date.year ++ '-' :: padded 2 date.month ++ '-' :: padded 2 date.day ++ 'T' ::
      padded 2 (second / 3600) ++ ':' :: padded 2 (second / 60 % 60) ++ ':' ::
      padded 2 (second % 60 + t.nanos / nanosPerSecond) ++ writeFraction (t.nanos % nanosPerSecond) ++
      ['Z']

/-! ## Reading -/

/-- A number of one up to `most` digits, after blanks. -/
def readNumber (most : Nat) (cs : List Char) : Option (Nat × List Char) :=
  let cs := Text.trimStart cs
  let ds := (cs.take most).takeWhile Char.isDigit
  if ds.isEmpty then none else some (Decimal.digitsValue ds, cs.drop ds.length)

/-- A year of up to four digits, or of any number of digits after a sign. -/
def readYear (cs : List Char) : Option (Int × List Char) :=
  match Text.trimStart cs with
  | '-' :: rest =>
    if rest.head?.any Char.isDigit then
      (readNumber rest.length rest).map fun (n, more) => (-(n : Int), more)
    else none
  | '+' :: rest =>
    if rest.head?.any Char.isDigit then
      (readNumber rest.length rest).map fun (n, more) => ((n : Int), more)
    else none
  | rest => (readNumber 4 rest).map fun (n, more) => ((n : Int), more)

/-- The character `c`, after blanks. -/
def readMark (c : Char) (cs : List Char) : Option (List Char) :=
  match Text.trimStart cs with
  | [] => none
  | d :: rest => if d = c then some rest else none

def readDate (cs : List Char) : Option (Date × List Char) := do
  let (year, cs) ← readYear cs
  let cs ← readMark '-' cs
  let (month, cs) ← readNumber 2 cs
  let cs ← readMark '-' cs
  let (day, cs) ← readNumber 2 cs
  let date ← Date.of? year month day
  return (date, cs)

/-- What stands between date and time: a letter or a space. -/
def readSeparator (cs : List Char) : Option (List Char) :=
  match cs with
  | c :: rest => if c = 'T' ∨ c = 't' ∨ c = ' ' then some rest else none
  | [] => none

/-- A point with digits, of which the first nine count; no point is no fraction. -/
def readFraction (cs : List Char) : Option (Nat × List Char) :=
  match cs with
  | '.' :: rest =>
    let ds := rest.takeWhile Char.isDigit
    if ds.isEmpty then none
    else
      let kept := ds.take 9
      some (Decimal.digitsValue kept * Nat.pow 10 (9 - kept.length), rest.drop ds.length)
  | _ => some (0, cs)

/-- The seconds of a day and its nanoseconds. -/
def readTime (cs : List Char) : Option (Nat × Nat × List Char) := do
  let (hour, cs) ← readNumber 2 cs
  let cs ← readMark ':' cs
  let (minute, cs) ← readNumber 2 cs
  let cs ← readMark ':' cs
  let (second, cs) ← readNumber 2 cs
  let (nanos, cs) ← readFraction cs
  if 24 ≤ hour ∨ 60 ≤ minute ∨ 61 ≤ second then none
  else if second = 60 then some (3600 * hour + 60 * minute + 59, nanosPerSecond + nanos, cs)
  else some (3600 * hour + 60 * minute + second, nanos, cs)

/-- Exactly two digits. -/
def readPair (cs : List Char) : Option (Nat × List Char) :=
  match cs with
  | a :: b :: rest =>
    if a.isDigit && b.isDigit then some (Decimal.digitsValue [a, b], rest) else none
  | _ => none

/-- The offset from universal time in minutes: a letter or word for none, or signed hours and minutes,
with colons or blanks between them, less than a day. -/
def readZone (cs : List Char) : Option (Int × List Char) :=
  let isUtc := (cs.take 3).map Char.toUpper == ['U', 'T', 'C']
  match cs with
  | [] => none
  | c :: rest =>
    if isUtc then some (0, cs.drop 3)
    else if c = 'Z' ∨ c = 'z' then some (0, rest)
    else if c = '+' ∨ c = '-' ∨ c = Char.ofNat 0x2212 then do
      let (hours, more) ← readPair rest
      let (minutes, more) ← readPair (more.dropWhile fun d => d = ':' || Text.isBlank d)
      if 60 ≤ minutes ∨ 24 ≤ hours then none
      else
        let offset : Int := 60 * hours + minutes
        some (if c = '+' then offset else -offset, more)
    else none

/-- The day of the moment, by universal time, lies in a year for which dates are kept. -/
def isSupported (t : Timestamp) : Bool :=
  Date.isSupportedYear (Date.ofDayNumber (t.seconds / 86400 + epochDay)).year

/-- Reads a timestamp. -/
def read? (s : String) : Option Timestamp := do
  let (date, cs) ← readDate s.toList
  let cs ← readSeparator cs
  let (second, nanos, cs) ← readTime cs
  let (offset, cs) ← readZone (Text.trimStart cs)
  let t : Timestamp := ⟨86400 * (date.dayNumber - epochDay) + second - 60 * offset, nanos⟩
  if (Text.trimStart cs).isEmpty ∧ t.isSupported then some t else none

end Timestamp

end FraudScreen.Calendar
