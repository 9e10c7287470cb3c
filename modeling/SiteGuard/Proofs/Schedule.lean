import SiteGuard.Proofs.Calendar.Elapsed
import SiteGuard.Proofs.Text.Number
import SiteGuard.Schedule

/-!
# Windows on the circle of a day

The times of a day stand on a circle, and a window is the arc from its first time
forward to its last one, whether midnight lies between them or not.  A time is in the
arc if it is reached from the first time no later than the last one is.
-/

namespace SiteGuard

open Calendar Text

/-! ## The circle -/

namespace Calendar

def dayNanos : Int := 86400000000000

/--
The way forward from the beginning of an arc to a time is no longer than that to the end
just if the time lies between them, or outside of the times between the end and the
beginning where the arc runs over midnight.
-/
theorem forward_le_iff {begins time ends : Int} (hbegins : 0 ≤ begins ∧ begins < dayNanos)
    (htime : 0 ≤ time ∧ time < dayNanos) (hends : 0 ≤ ends ∧ ends < dayNanos) :
    (time - begins) % dayNanos ≤ (ends - begins) % dayNanos ↔
      if ends < begins then begins ≤ time ∨ time ≤ ends else begins ≤ time ∧ time ≤ ends := by
  have hway : ∀ other, 0 ≤ other ∧ other < dayNanos → (other - begins) % dayNanos =
      if other < begins then other - begins + dayNanos else other - begins := by
    intro other hother
    unfold dayNanos at *
    split
    · omega
    · omega
  rw [hway time htime, hway ends hends]
  unfold dayNanos at *
  split
  · split
    · omega
    · omega
  · split
    · omega
    · omega

namespace Moment

def nanoOfDay (m : Moment) : Int :=
  m.secondOfDay * 1000000000 + m.instant.nano

theorem secondOfDay_lt (m : Moment) : m.secondOfDay < 86400 := by
  unfold secondOfDay
  omega

theorem nanoOfDay_mem {m : Moment} (h : ¬m.instant.InLeapSecond) :
    0 ≤ m.nanoOfDay ∧ m.nanoOfDay < dayNanos := by
  have hsecond := m.secondOfDay_lt
  unfold Instant.InLeapSecond at h
  unfold nanoOfDay dayNanos
  omega

theorem weekday_lt (m : Moment) : m.weekday < 7 := by
  unfold weekday Date.weekday
  omega

end Moment
end Calendar

/-! ## Times of day -/

namespace TimeOfDay

def nanos (t : TimeOfDay) : Int :=
  t.second * 1000000000

theorem nanos_mem (t : TimeOfDay) : 0 ≤ t.nanos ∧ t.nanos < dayNanos := by
  have hhour := t.hour_lt
  have hminute := t.minute_lt
  unfold nanos second dayNanos
  omega

theorem second_inj {t u : TimeOfDay} : t.second = u.second ↔ t = u := by
  constructor
  · intro h
    have ht := t.minute_lt
    have hu := u.minute_lt
    unfold second at h
    have hhour : t.hour = u.hour := by omega
    have hminute : t.minute = u.minute := by omega
    cases t
    cases u
    cases hhour
    cases hminute
    rfl
  · intro h
    rw [h]

/--
The time that a text is read as: numbers of the hour and the minute around a colon, with
blanks around each of them.
-/
def ReadFrom (t : TimeOfDay) (s : String) : Prop :=
  ∃ hours minutes, s.toList = hours ++ ':' :: minutes ∧
    Numeral hours t.hour ∧ Numeral minutes t.minute

theorem numerals_of_cut_trim {cs hours minutes : List Char} {hour minute : Nat}
    (hcut : cut ':' (trim cs) = some (hours, minutes)) (hhour : Numeral hours hour)
    (hminute : Numeral minutes minute) :
    ∃ front rest, cs = front ++ ':' :: rest ∧ Numeral front hour ∧ Numeral rest minute := by
  rcases around_trim cs with ⟨before, after, hcs, hbefore, hafter⟩
  rw [eq_of_cut hcut] at hcs
  refine ⟨before ++ hours, minutes ++ after, ?_, ?_, ?_⟩
  · simpa using hcs
  · simpa using hhour.append hbefore blanks_nil
  · simpa using hminute.append blanks_nil hafter

/-- What is cut at the colon are the numbers, with the blanks that stood around it. -/
theorem cut_trim_of_numerals {hours minutes : List Char} {hour minute : Nat}
    (hhour : Numeral hours hour) (hminute : Numeral minutes minute) :
    ∃ front rest, cut ':' (trim (hours ++ ':' :: minutes)) = some (front, rest) ∧
      Numeral front hour ∧ Numeral rest minute := by
  rcases hhour with ⟨hh, hhsigned, before, after, rfl, hbefore, hafter⟩
  rcases hminute with ⟨mm, mmsigned, before', after', rfl, hbefore', hafter'⟩
  have htrimmed : Trimmed (hh ++ (after ++ ':' :: before') ++ mm) :=
    hhsigned.trimmed.between hhsigned.ne_nil mmsigned.trimmed mmsigned.ne_nil _
  have haround : Around (hh ++ (after ++ ':' :: before') ++ mm)
      (before ++ hh ++ after ++ ':' :: (before' ++ mm ++ after')) :=
    ⟨before, after', by simp, hbefore, hafter'⟩
  have htrim : trim (before ++ hh ++ after ++ ':' :: (before' ++ mm ++ after')) =
      hh ++ after ++ ':' :: (before' ++ mm) := by
    rw [haround.trim_eq htrimmed (by simp)]
    simp
  have hcolon : ':' ∉ hh ++ after := by
    rw [List.mem_append, not_or]
    exact ⟨hhsigned.not_mem rfl (by decide), hafter.not_mem rfl⟩
  refine ⟨hh ++ after, before' ++ mm, ?_, ⟨hh, hhsigned, ?_⟩, ⟨mm, mmsigned, ?_⟩⟩
  · rw [htrim, cut_append hcolon]
  · exact ⟨[], after, rfl, blanks_nil, hafter⟩
  · exact ⟨before', [], by simp, hbefore', blanks_nil⟩

theorem parse?_eq_some_iff {t : TimeOfDay} {s : String} :
    parse? s = some t ↔ t.ReadFrom s := by
  have hsize : 60 ≤ UInt32.size := by decide
  unfold parse?
  simp only [Option.bind_eq_bind, Option.bind_eq_some_iff, boundedNat?_trim_eq_some_iff]
  constructor
  · intro hread
    rcases hread with ⟨⟨hours, minutes⟩, hcut, hour, ⟨hhour, _⟩, minute, ⟨hminute, _⟩, h⟩
    split at h
    · cases h
      exact numerals_of_cut_trim hcut hhour hminute
    · cases h
  · intro hread
    rcases hread with ⟨hours, minutes, hs, hhour, hminute⟩
    rcases cut_trim_of_numerals hhour hminute with ⟨front, rest, hcut, hfront, hrest⟩
    have hhours := t.hour_lt
    have hminutes := t.minute_lt
    refine ⟨(front, rest), ?_, t.hour, ⟨hfront, by omega⟩, t.minute, ⟨hrest, by omega⟩, ?_⟩
    · rw [hs]
      exact hcut
    · exact dif_pos ⟨hhours, hminutes⟩

end TimeOfDay

/-! ## Windows -/

namespace Window

theorem mem_days_iff {w : Window} {m : Moment} :
    w.days.contains (UInt8.ofNat m.weekday) = true ↔ ∃ day ∈ w.days, day.toNat = m.weekday := by
  have hweekday := m.weekday_lt
  have hback : (UInt8.ofNat m.weekday).toNat = m.weekday := by
    rw [UInt8.toNat_ofNat']
    omega
  rw [List.contains_iff_mem]
  constructor
  · intro hmem
    exact ⟨_, hmem, hback⟩
  · intro h
    rcases h with ⟨day, hmem, hday⟩
    have hsame : UInt8.ofNat m.weekday = day := UInt8.toNat_inj.mp (hback.trans hday.symm)
    rw [hsame]
    exact hmem

theorem isOpen_iff (w : Window) {m : Moment} (hleap : ¬m.instant.InLeapSecond) :
    w.isOpen m = true ↔
      (∃ day ∈ w.days, day.toNat = m.weekday) ∧
        (w.opens = w.closes ∨
          (m.nanoOfDay - w.opens.nanos) % dayNanos ≤
            (w.closes.nanos - w.opens.nanos) % dayNanos) := by
  rw [forward_le_iff w.opens.nanos_mem (Moment.nanoOfDay_mem hleap) w.closes.nanos_mem,
    ← mem_days_iff, ← TimeOfDay.second_inj]
  have hbegun : w.opens.second ≤ m.secondOfDay ↔ w.opens.nanos ≤ m.nanoOfDay := by
    unfold Instant.InLeapSecond at hleap
    unfold TimeOfDay.nanos Moment.nanoOfDay
    omega
  have hunfinished : m.secondOfDay < w.closes.second ∨
      (m.secondOfDay = w.closes.second ∧ m.instant.nano = 0) ↔
        m.nanoOfDay ≤ w.closes.nanos := by
    unfold Instant.InLeapSecond at hleap
    unfold TimeOfDay.nanos Moment.nanoOfDay
    omega
  have hover : w.closes.second < w.opens.second ↔ w.closes.nanos < w.opens.nanos := by
    unfold TimeOfDay.nanos
    omega
  unfold isOpen
  dsimp only
  by_cases hmidnight : w.closes.second < w.opens.second
  · rw [if_pos hmidnight, if_pos (hover.mp hmidnight)]
    simp only [Bool.and_eq_true, Bool.or_eq_true, beq_iff_eq, decide_eq_true_eq, hbegun,
      hunfinished]
  · rw [if_neg hmidnight, if_neg fun h => hmidnight (hover.mpr h)]
    simp only [Bool.and_eq_true, Bool.or_eq_true, beq_iff_eq, decide_eq_true_eq, hbegun,
      hunfinished]

end Window

/-! ## Schedules -/

namespace Schedule

/-- A schedule is complete: it has days, and both of its times can be read. -/
structure Says (s : Schedule) (w : Window) : Prop where
  days : s.days = some w.days
  opens : ∃ text, s.start = some text ∧ w.opens.ReadFrom text
  closes : ∃ text, s.finish = some text ∧ w.closes.ReadFrom text

theorem window?_eq_some_iff {s : Schedule} {w : Window} : s.window? = some w ↔ s.Says w := by
  unfold window?
  simp only [Option.bind_eq_bind, Option.bind_eq_some_iff, Option.some.injEq,
    TimeOfDay.parse?_eq_some_iff]
  constructor
  · intro h
    rcases h with ⟨days, hdays, opens, hopens, closes, hcloses, rfl⟩
    exact ⟨hdays, hopens, hcloses⟩
  · intro h
    exact ⟨w.days, h.days, w.opens, h.opens, w.closes, h.closes, rfl⟩

theorem isActive_of_says {s : Schedule} {w : Window} (h : s.Says w) (m : Moment) :
    s.isActive m = w.isOpen m := by
  unfold isActive
  rw [window?_eq_some_iff.mpr h]

theorem isActive_of_incomplete {s : Schedule} (h : ∀ w, ¬s.Says w) (m : Moment) :
    s.isActive m = true := by
  unfold isActive
  cases hwindow : s.window? with
  | none =>
      rfl
  | some w =>
      exact absurd (window?_eq_some_iff.mp hwindow) (h w)

end Schedule

/--
A complete schedule is active on its weekdays while the time is on the arc of its window,
and all day where the arc has no length; any other one, or none at all, is always active.
-/
theorem activeAt_iff_on_arc (schedule : Option Schedule) {m : Moment}
    (hleap : ¬m.instant.InLeapSecond) :
    (∀ s w, schedule = some s → s.Says w →
      (activeAt schedule m = true ↔
        (∃ day ∈ w.days, day.toNat = m.weekday) ∧
          (w.opens = w.closes ∨
            (m.nanoOfDay - w.opens.nanos) % dayNanos ≤
              (w.closes.nanos - w.opens.nanos) % dayNanos))) ∧
      ((∀ s w, schedule = some s → ¬s.Says w) → activeAt schedule m = true) := by
  constructor
  · intro s w hschedule hsays
    rw [hschedule]
    show s.isActive m = true ↔ _
    rw [Schedule.isActive_of_says hsays]
    exact w.isOpen_iff hleap
  · intro hincomplete
    cases schedule with
    | none =>
        rfl
    | some s =>
        exact Schedule.isActive_of_incomplete (fun w => hincomplete s w rfl) m

/-! ## A sample -/

namespace Schedule

def nightWatch : Schedule :=
  ⟨some [5], some "22:00", some " 4 : +15 ", "auto"⟩

def watch : Window :=
  ⟨[5], ⟨22, 0, by decide, by decide⟩, ⟨4, 15, by decide, by decide⟩⟩

def openEnded : Schedule :=
  ⟨some [1], some "12:00", some "24:00", "auto"⟩

/-- Friday, a quarter past four; it is Thursday still by universal time. -/
def onTheDot : Moment :=
  ⟨⟨81000, 0, by decide⟩, 20700⟩

def nanosecondLater : Moment :=
  ⟨⟨81000, 1, by decide⟩, 20700⟩

theorem nightWatch_says : nightWatch.Says watch :=
  window?_eq_some_iff.mp rfl

theorem openEnded_incomplete (w : Window) : ¬openEnded.Says w := by
  intro hsays
  have hwindow := window?_eq_some_iff.mpr hsays
  cases hwindow

theorem watch_ends_on_the_dot :
    ¬onTheDot.instant.InLeapSecond ∧ ¬nanosecondLater.instant.InLeapSecond ∧
      nightWatch.Says watch ∧ activeAt (some nightWatch) onTheDot = true ∧
      activeAt (some nightWatch) nanosecondLater ≠ true ∧ (∀ w, ¬openEnded.Says w) ∧
      activeAt (some openEnded) onTheDot = true := by
  have hdot : ¬onTheDot.instant.InLeapSecond := by decide
  have hlater : ¬nanosecondLater.instant.InLeapSecond := by decide
  rcases activeAt_iff_on_arc (some nightWatch) hdot with ⟨hopen, _⟩
  rcases activeAt_iff_on_arc (some nightWatch) hlater with ⟨hover, _⟩
  rcases activeAt_iff_on_arc (some openEnded) hdot with ⟨_, hincomplete⟩
  refine ⟨hdot, hlater, nightWatch_says, ?_, ?_, openEnded_incomplete, ?_⟩
  · exact (hopen _ _ rfl nightWatch_says).mpr (by decide)
  · intro hactive
    have harc := (hover _ _ rfl nightWatch_says).mp hactive
    revert harc
    decide
  · refine hincomplete ?_
    intro s w hschedule
    cases hschedule
    exact openEnded_incomplete w

end Schedule
end SiteGuard
