import SiteGuard.Calendar.Date

/-!
# Instants

An instant is a second of universal time with a fraction in nanoseconds.  A
fraction of a whole second or more lies inside a leap second, which follows the
last second of a minute.  A moment is an instant seen from a fixed offset.
-/

namespace SiteGuard
namespace Calendar

/-! ## Universal time -/

namespace Instant

/-- The first second of the year -262143. -/
def firstSecond : Int := 86400 * Date.toDay ⟨-262143, 1, 1⟩

/-- The last second of the year 262142. -/
def lastSecond : Int := 86400 * Date.toDay ⟨262142, 12, 31⟩ + 86399

def WellFormed (second : Int) (nano : Nat) : Prop :=
  nano < 2000000000 ∧ (1000000000 ≤ nano → second % 60 = 59)
    ∧ firstSecond ≤ second ∧ second ≤ lastSecond

instance (second : Int) (nano : Nat) : Decidable (WellFormed second nano) := by
  unfold WellFormed
  infer_instance

end Instant

structure Instant where
  second : Int
  nano : Nat
  wellFormed : Instant.WellFormed second nano
  deriving DecidableEq

namespace Instant

def of? (second : Int) (nano : Nat) : Option Instant :=
  if h : WellFormed second nano then some ⟨second, nano, h⟩ else none

def epoch : Instant := ⟨0, 0, by decide⟩

/-- Instants are ordered by second and then by fraction, so a leap second comes last. -/
instance : LT Instant :=
  ⟨fun a b => a.second < b.second ∨ (a.second = b.second ∧ a.nano < b.nano)⟩

instance (a b : Instant) : Decidable (a < b) :=
  inferInstanceAs (Decidable (a.second < b.second ∨ (a.second = b.second ∧ a.nano < b.nano)))

def latest (a b : Instant) : Instant :=
  if a < b then b else a

/--
The instant that lies the given nanoseconds later; none past the last year.
Leaving a leap second takes no time of its own.
-/
def after? (i : Instant) (nanos : Nat) : Option Instant :=
  let seconds := nanos / 1000000000
  let fraction := nanos % 1000000000
  if 1000000000 ≤ i.nano ∧ seconds = 0 ∧ i.nano + fraction < 2000000000 then
    of? i.second (i.nano + fraction)
  else
    let total := i.nano % 1000000000 + fraction
    of? (i.second + seconds + (total / 1000000000 : Nat)) (total % 1000000000)

def minuteNanos : Nat := 60000000000

end Instant

/-! ## Local time -/

/-- An instant with the offset, in seconds east of universal time, at which it is read. -/
structure Moment where
  instant : Instant
  offset : Int
  deriving DecidableEq

namespace Moment

def utc (i : Instant) : Moment :=
  ⟨i, 0⟩

def localSecond (m : Moment) : Int :=
  m.instant.second + m.offset

def localDay (m : Moment) : Int :=
  m.localSecond / 86400

def secondOfDay (m : Moment) : Nat :=
  (m.localSecond % 86400).toNat

def weekday (m : Moment) : Nat :=
  Date.weekday m.localDay

/-- Where the local minute of a moment begins; none before the first year. -/
def minuteStart? (m : Moment) : Option Instant :=
  Instant.of? (m.instant.second - m.localSecond % 60) 0

/-- The moment without its seconds, or as it is where its minute begins before the first year. -/
def truncated (m : Moment) : Instant :=
  m.minuteStart?.getD m.instant

/-- One minute after the truncated moment: the first whole local minute strictly after it. -/
def nextMinute (m : Moment) : Moment :=
  { m with instant := (m.truncated.after? Instant.minuteNanos).getD m.instant }

/-- Nanoseconds from a moment to its next minute; those of a leap second count like others. -/
def untilNextMinute (m : Moment) : Nat :=
  let next := m.nextMinute.instant
  ((next.second - m.instant.second) * 1000000000 + (next.nano - m.instant.nano : Int)).toNat

end Moment

end Calendar
end SiteGuard
