/-!
# Dates

The proleptic Gregorian calendar on days counted from 1970-01-01.  A day number
is read as a date by finding its year, and the date is counted back by adding
the days before the year and the month.
-/

namespace SiteGuard
namespace Calendar

structure Date where
  year : Int
  month : Nat
  day : Nat
  deriving DecidableEq, Repr

namespace Date

/-! ## Years -/

def isLeap (year : Int) : Bool :=
  year % 4 == 0 && (year % 100 != 0 || year % 400 == 0)

/-- Days from 0001-01-01 to the first day of a year. -/
def daysBefore (year : Int) : Int :=
  365 * (year - 1) + (year - 1) / 4 - (year - 1) / 100 + (year - 1) / 400

/-- The number of 1970-01-01 when 0001-01-01 is day zero. -/
def epochDay : Int := 719162

/-- The year that holds a day counted from 0001-01-01; the estimate is at most one off. -/
def yearOf (n : Int) : Int :=
  let guess := n * 400 / 146097 + 1
  if n < daysBefore guess then guess - 1
  else if daysBefore (guess + 1) ≤ n then guess + 1
  else guess

/-! ## Months -/

def monthLengths (leap : Bool) : List Nat :=
  [31, if leap then 29 else 28, 31, 30, 31, 30, 31, 31, 30, 31, 30, 31]

def monthLength (year : Int) (month : Nat) : Nat :=
  (monthLengths (isLeap year)).getD (month - 1) 0

/-- Finds the month, counted from the given one, and the day in it for a day of the year. -/
def splitYear : List Nat → (month dayOfYear : Nat) → Nat × Nat
  | [], month, n => (month, n + 1)
  | length :: rest, month, n =>
    if n < length then (month, n + 1) else splitYear rest (month + 1) (n - length)

/-! ## Day numbers -/

def ofDay (n : Int) : Date :=
  let m := n + epochDay
  let year := yearOf m
  let (month, day) := splitYear (monthLengths (isLeap year)) 1 (m - daysBefore year).toNat
  ⟨year, month, day⟩

def toDay (d : Date) : Int :=
  let before : Nat := ((monthLengths (isLeap d.year)).take (d.month - 1)).foldl (· + ·) 0
  daysBefore d.year - epochDay + before + d.day - 1

def isValid (d : Date) : Bool :=
  1 ≤ d.month && d.month ≤ 12 && 1 ≤ d.day && d.day ≤ monthLength d.year d.month

/-- The day of the week, where Sunday is zero. -/
def weekday (n : Int) : Nat :=
  ((n + 4) % 7).toNat

end Date
end Calendar
end SiteGuard
