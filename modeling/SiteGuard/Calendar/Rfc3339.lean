import SiteGuard.Calendar.Instant
import SiteGuard.Text

/-!
# RFC 3339

Reading and writing of instants.  The strict form fixes every width and needs
the colon in the offset.  The relaxed form also takes signed years of any
length, one-digit fields, blanks around the parts, `UTC` and offsets whose colon
is missing.
-/

namespace SiteGuard
namespace Calendar
namespace Rfc3339

open Text

/-! ## Fields -/

/-- A number of at least `least` and at most `most` digits, and what follows it. -/
def number? (least most : Nat) (cs : List Char) : Option (Nat × List Char) :=
  let digits := (cs.take most).takeWhile isDecimalDigit
  if digits.length < least then none
  else some ((natOfDigits? 10 digits).getD 0, cs.drop digits.length)

/-- Nanoseconds after a decimal point; digits past the ninth are dropped. -/
def fraction? : List Char → Option (Nat × List Char)
  | '.' :: rest =>
    let digits := (rest.take 9).takeWhile isDecimalDigit
    if digits.isEmpty then none
    else
      some ((natOfDigits? 10 digits).getD 0 * Nat.pow 10 (9 - digits.length),
        (rest.drop digits.length).dropWhile isDecimalDigit)
  | cs => some (0, cs)

/-- The offset in minutes; `colon?` reads what stands between its hours and minutes. -/
def offset? (colon? : List Char → Option (List Char)) : List Char → Option (Int × List Char)
  | 'Z' :: rest => some (0, rest)
  | 'z' :: rest => some (0, rest)
  | sign :: rest => do
    let factor : Int ←
      if sign = '+' then some 1
      else if sign = '-' ∨ sign = '\u2212' then some (-1)
      else none
    let (hours, rest) ← number? 2 2 rest
    let rest ← colon? rest
    let (minutes, rest) ← number? 2 2 rest
    if minutes < 60 ∧ hours < 24 then some (factor * (hours * 60 + minutes : Nat), rest) else none
  | [] => none

/-- The fields of a date and time as they are written, with an offset in minutes. -/
structure Fields where
  date : Date
  hour : Nat
  minute : Nat
  second : Nat
  nano : Nat
  offset : Int

/-- Checks the ranges of the fields; the sixtieth second of a minute is its leap second. -/
def Fields.moment? (f : Fields) : Option Moment := do
  let inRange := f.date.isValid && f.hour < 24 && f.minute < 60 && f.second ≤ 60
  if inRange then
    let leap := f.second / 60
    let wall := 86400 * f.date.toDay + (f.hour * 3600 + f.minute * 60 + (f.second - leap) : Nat)
    let nano := f.nano + leap * 1000000000
    let _ ← Instant.of? wall nano
    let instant ← Instant.of? (wall - 60 * f.offset) nano
    some ⟨instant, 60 * f.offset⟩
  else none

def separator? : List Char → Option (List Char)
  | c :: rest => if c = 'T' ∨ c = 't' ∨ c = ' ' then some rest else none
  | [] => none

/-! ## The strict form -/

def colon? (cs : List Char) : Option (List Char) :=
  stripStart [':'] cs

def strict? (s : String) : Option Moment := do
  let (year, rest) ← number? 4 4 s.toList
  let (month, rest) ← number? 2 2 (← stripStart ['-'] rest)
  let (day, rest) ← number? 2 2 (← stripStart ['-'] rest)
  let (hour, rest) ← number? 2 2 (← separator? rest)
  let (minute, rest) ← number? 2 2 (← colon? rest)
  let (second, rest) ← number? 2 2 (← colon? rest)
  let (nano, rest) ← fraction? rest
  let (offset, rest) ← offset? colon? rest
  if rest.isEmpty then
    Fields.moment? ⟨⟨year, month, day⟩, hour, minute, second, nano, offset⟩
  else none

/-! ## The relaxed form -/

def looseField? (cs : List Char) : Option (Nat × List Char) :=
  number? 1 2 (trimStart cs)

def looseYear? (cs : List Char) : Option (Int × List Char) :=
  match trimStart cs with
  | '-' :: rest => (number? 1 rest.length rest).map fun (n, rest) => (-(n : Int), rest)
  | '+' :: rest => (number? 1 rest.length rest).map fun (n, rest) => ((n : Int), rest)
  | rest => (number? 1 4 rest).map fun (n, rest) => ((n : Int), rest)

def looseMark? (mark : Char) (cs : List Char) : Option (List Char) :=
  stripStart [mark] (trimStart cs)

def looseOffset? (cs : List Char) : Option (Int × List Char) :=
  let rest := trimStart cs
  if lower (rest.take 3) = ['u', 't', 'c'] then some (0, rest.drop 3)
  else offset? (fun cs => some (cs.dropWhile fun c => c = ':' ∨ isBlank c)) rest

def relaxed? (s : String) : Option Moment := do
  let (year, rest) ← looseYear? s.toList
  let (month, rest) ← looseField? (← looseMark? '-' rest)
  let (day, rest) ← looseField? (← looseMark? '-' rest)
  let (hour, rest) ← looseField? (← separator? rest)
  let (minute, rest) ← looseField? (← looseMark? ':' rest)
  let (second, rest) ← looseField? (← looseMark? ':' rest)
  let (nano, rest) ← fraction? rest
  let (offset, rest) ← looseOffset? rest
  if (trimStart rest).isEmpty then
    Fields.moment? ⟨⟨year, month, day⟩, hour, minute, second, nano, offset⟩
  else none

/-! ## Writing -/

/-- Four digits; years outside of 0 to 9999 carry their sign. -/
def year (y : Int) : String :=
  if y < 0 then "-" ++ padded 4 y.natAbs
  else if 9999 < y then "+" ++ padded 4 y.natAbs
  else padded 4 y.natAbs

/-- The shortest of three, six and nine digits that is exact; nothing for zero. -/
def fraction (nano : Nat) : String :=
  if nano = 0 then ""
  else if nano % 1000000 = 0 then "." ++ padded 3 (nano / 1000000)
  else if nano % 1000 = 0 then "." ++ padded 6 (nano / 1000)
  else "." ++ padded 9 nano

def offset (minutes : Int) : String :=
  (if minutes < 0 then "-" else "+") ++ twoDigits (minutes.natAbs / 60) ++ ":"
    ++ twoDigits (minutes.natAbs % 60)

def dateTime (m : Moment) : String :=
  let date := Date.ofDay m.localDay
  let s := m.secondOfDay
  let leap := m.instant.nano / 1000000000
  year date.year ++ "-" ++ twoDigits date.month ++ "-" ++ twoDigits date.day ++ "T"
    ++ twoDigits (s / 3600) ++ ":" ++ twoDigits (s / 60 % 60) ++ ":" ++ twoDigits (s % 60 + leap)
    ++ fraction (m.instant.nano % 1000000000)

def write (m : Moment) : String :=
  dateTime m ++ offset (m.offset / 60)

def writeUtc (i : Instant) : String :=
  dateTime (Moment.utc i) ++ "Z"

end Rfc3339
end Calendar
end SiteGuard
