/-!
# Dates

The Gregorian calendar, extended backwards without end. A day is counted from the first of January of
year one, which makes the leap-day rule one formula for all years.
-/
namespace FraudScreen.Calendar

/-- A year has a leap day if four divides it, except for centuries that four hundred does not divide. -/
def isLeap (year : Int) : Bool := year % 4 == 0 && (year % 100 != 0 || year % 400 == 0)

/-- The lengths of the months of a year. -/
def monthLengths (year : Int) : List Nat :=
  [31, if isLeap year then 29 else 28, 31, 30, 31, 30, 31, 31, 30, 31, 30, 31]

/-- A day of the calendar. -/
structure Date where
  year : Int
  month : Nat
  day : Nat
deriving DecidableEq, Repr

namespace Date

/-- The years for which dates are kept. -/
def isSupportedYear (year : Int) : Bool := -262143 ≤ year && year ≤ 262142

/-- The date with these numbers, if there is one. -/
def of? (year : Int) (month day : Nat) : Option Date :=
  if isSupportedYear year ∧ 1 ≤ month ∧ 1 ≤ day then
    match (monthLengths year)[month - 1]? with
    | some length => if day ≤ length then some ⟨year, month, day⟩ else none
    | none => none
  else none

/-- The number of days from the first of January of year one to that of `year`. -/
def daysBeforeYear (year : Int) : Int :=
  let y := year - 1
  365 * y + y / 4 - y / 100 + y / 400

/-- The number of days from the first of January of year one to this day. -/
def dayNumber (d : Date) : Int :=
  let before : Nat := ((monthLengths d.year).take (d.month - 1)).foldl (· + ·) 0
  daysBeforeYear d.year + before + (d.day - 1 : Nat)

/-- The month and day after `n` whole days, given the lengths of the months from `month` on. -/
def monthAndDay (month : Nat) : List Nat → Nat → Nat × Nat
  | [], n => (month, n + 1)
  | length :: rest, n =>
    if n < length then (month, n + 1) else monthAndDay (month + 1) rest (n - length)

/-- The date with a day number. Four centuries hold 146097 days, a century 36524 or one more, four
years 1461 or one less. -/
def ofDayNumber (n : Int) : Date :=
  let cycle := n / 146097
  let inCycle := (n % 146097).toNat
  let century := min 3 (inCycle / 36524)
  let inCentury := inCycle - 36524 * century
  let group := inCentury / 1461
  let inGroup := inCentury - 1461 * group
  let single := min 3 (inGroup / 365)
  let year := 400 * cycle + 100 * century + 4 * group + single + 1
  let (month, day) := monthAndDay 1 (monthLengths year) (inGroup - 365 * single)
  ⟨year, month, day⟩

end Date

end FraudScreen.Calendar
