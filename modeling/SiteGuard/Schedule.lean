import SiteGuard.Calendar.Instant
import SiteGuard.Failure

/-!
# Schedules

Weekly time windows.  A window runs from its first to its last minute, both
included, and over midnight if it ends before it begins.  A schedule that is not
complete is always active.
-/

namespace SiteGuard

open Calendar Text

/-! ## Times of day -/

structure TimeOfDay where
  hour : Nat
  minute : Nat
  hour_lt : hour < 24
  minute_lt : minute < 60
  deriving DecidableEq

namespace TimeOfDay

def second (t : TimeOfDay) : Nat :=
  t.hour * 3600 + t.minute * 60

/-- Hours and minutes of any number of digits around a colon; blanks may stand around both. -/
def parse? (s : String) : Option TimeOfDay := do
  let (hh, mm) ← cut ':' (trim s.toList)
  let hour ← boundedNat? UInt32.size (trim hh)
  let minute ← boundedNat? UInt32.size (trim mm)
  if h : hour < 24 ∧ minute < 60 then some ⟨hour, minute, h.1, h.2⟩ else none

def text (t : TimeOfDay) : String :=
  twoDigits t.hour ++ ":" ++ twoDigits t.minute ++ ":00"

end TimeOfDay

/-! ## Schedules -/

structure Schedule where
  /-- Weekdays, where Sunday is zero. -/
  days : Option (List UInt8)
  start : Option String
  finish : Option String
  timezone : String
  deriving DecidableEq

/-- A complete window. -/
structure Window where
  days : List UInt8
  opens : TimeOfDay
  closes : TimeOfDay

namespace Window

/-- Whether a window is open at a moment; one that ends where it begins is open all day. -/
def isOpen (w : Window) (m : Moment) : Bool :=
  let begun : Bool := w.opens.second ≤ m.secondOfDay
  let unfinished : Bool :=
    m.secondOfDay < w.closes.second || (m.secondOfDay == w.closes.second && m.instant.nano == 0)
  w.days.contains (UInt8.ofNat m.weekday)
    && (w.opens.second == w.closes.second
      || (if w.closes.second < w.opens.second then begun || unfinished else begun && unfinished))

end Window

namespace Schedule

def window? (s : Schedule) : Option Window := do
  let days ← s.days
  let opens ← s.start.bind TimeOfDay.parse?
  let closes ← s.finish.bind TimeOfDay.parse?
  some ⟨days, opens, closes⟩

def isActive (s : Schedule) (m : Moment) : Bool :=
  match s.window? with
  | some w => w.isOpen m
  | none => true

def fault? (s : Schedule) : Option ScheduleCause :=
  let day := (s.days.getD []).find? fun d => 6 < d
  let time := (s.start.toList ++ s.finish.toList).find? fun t => (TimeOfDay.parse? t).isNone
  (day.map .weekday).or (time.map .time)

end Schedule

def activeAt (s : Option Schedule) (m : Moment) : Bool :=
  match s with
  | some s => s.isActive m
  | none => true

end SiteGuard
