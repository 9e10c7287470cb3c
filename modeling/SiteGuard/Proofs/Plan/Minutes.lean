import SiteGuard.Proofs.Calendar.Order
import SiteGuard.Proofs.Plan.Exemptions

/-!
# Plans within a minute

The windows of schedules begin and end on whole minutes, so strictly inside a minute
of the local clock nothing changes but the overrides that run out meanwhile.  What is
planned at two moments of one minute is the same if none does.
-/

namespace SiteGuard

open Calendar

/-! ## Minutes of the local clock -/

namespace Calendar
namespace Moment

def minuteOfDay (m : Moment) : Nat :=
  m.secondOfDay / 60

def IsWhole (m : Moment) : Prop :=
  m.secondOfDay % 60 = 0 ∧ m.instant.nano = 0

instance (m : Moment) : Decidable m.IsWhole :=
  inferInstanceAs (Decidable (_ ∧ _))

/-- Two moments of one date, hour and minute, neither of them where the minute begins. -/
structure SameMinute (m m' : Moment) : Prop where
  day : m'.localDay = m.localDay
  minute : m'.minuteOfDay = m.minuteOfDay
  inside : ¬m.IsWhole
  inside' : ¬m'.IsWhole

end Moment
end Calendar

/-! ## Windows -/

def TimeOfDay.inMinutes (t : TimeOfDay) : Nat :=
  t.hour * 60 + t.minute

theorem TimeOfDay.second_eq (t : TimeOfDay) : t.second = t.inMinutes * 60 := by
  unfold second inMinutes
  omega

namespace Window

/-- Whether a window is open on a weekday in a minute, up to its end or the next minute. -/
def covers (w : Window) (weekday minute : Nat) : Bool :=
  let begun : Bool := w.opens.inMinutes ≤ minute
  let unfinished : Bool := minute < w.closes.inMinutes
  w.days.contains (UInt8.ofNat weekday)
    && (w.opens.inMinutes == w.closes.inMinutes
      || (if w.closes.inMinutes < w.opens.inMinutes then begun || unfinished
        else begun && unfinished))

/-- The last moment of a window is the beginning of a minute, and so is its first one. -/
theorem isOpen_eq_covers (w : Window) {m : Moment} (h : ¬m.IsWhole) :
    w.isOpen m = w.covers m.weekday m.minuteOfDay := by
  have hend : (m.secondOfDay == w.closes.inMinutes * 60 && m.instant.nano == 0) = false := by
    rw [Bool.and_eq_false_imp]
    intro hsecond
    rw [beq_iff_eq] at hsecond
    rw [beq_eq_false_iff_ne]
    intro hnano
    exact h ⟨by rw [hsecond, Nat.mul_mod_left], hnano⟩
  have hbegun : w.opens.inMinutes * 60 ≤ m.secondOfDay ↔ w.opens.inMinutes ≤ m.minuteOfDay :=
    (Nat.le_div_iff_mul_le (by decide)).symm
  have hunfinished :
      m.secondOfDay < w.closes.inMinutes * 60 ↔ m.minuteOfDay < w.closes.inMinutes :=
    (Nat.div_lt_iff_lt_mul (by decide)).symm
  have hsame : (w.opens.inMinutes * 60 == w.closes.inMinutes * 60) =
      (w.opens.inMinutes == w.closes.inMinutes) := by
    rw [Bool.eq_iff_iff, beq_iff_eq, beq_iff_eq, Nat.mul_left_inj (by decide)]
  unfold isOpen covers
  simp only [TimeOfDay.second_eq, hend, Bool.or_false, hbegun, hunfinished, hsame,
    Nat.mul_lt_mul_right (Nat.succ_pos 59)]

end Window

section Minutes

variable {m m' : Moment}

theorem Schedule.isActive_of_sameMinute (s : Schedule) (h : m.SameMinute m') :
    s.isActive m' = s.isActive m := by
  unfold isActive
  cases s.window? with
  | none =>
      rfl
  | some w =>
      have hweekday : m'.weekday = m.weekday := congrArg Date.weekday h.day
      show w.isOpen m' = w.isOpen m
      rw [w.isOpen_eq_covers h.inside', w.isOpen_eq_covers h.inside, hweekday, h.minute]

theorem activeAt_of_sameMinute (s : Option Schedule) (h : m.SameMinute m') :
    activeAt s m' = activeAt s m := by
  cases s with
  | none =>
      rfl
  | some s =>
      exact s.isActive_of_sameMinute h

/-! ## Overrides -/

def Overrides.Steady (o : Overrides) (i j : Instant) : Prop :=
  ∀ host till, o.get? host = some till → i < till → j < till

namespace Overrides

variable {o : Overrides} {i j : Instant}

theorem Steady.live_eq (h : o.Steady i j) (hij : i < j) : o.live j = o.live i := by
  apply SortedMap.ext_get?
  intro host
  unfold live
  rw [SortedMap.get?_filter, SortedMap.get?_filter]
  cases htill : o.get? host with
  | none =>
      rfl
  | some till =>
      have hsame : j < till ↔ i < till :=
        ⟨fun hlive => Instant.lt_trans hij hlive, fun hlive => h host till htill hlive⟩
      rw [Option.filter_some, Option.filter_some, decide_eq_decide.mpr hsame]

end Overrides

/-! ## Plans -/

namespace Settings

theorem blockingRules_of_sameMinute {s : Settings} {suspended : List String}
    (h : m.SameMinute m') (hlive : s.overrides.live m'.instant = s.overrides.live m.instant) :
    s.blockingRules m' suspended = s.blockingRules m suspended := by
  unfold blockingRules Rule.isShielded
  simp only [activeAt_of_sameMinute _ h, hlive]

/--
Two moments strictly inside one minute, of whatever offsets, with no end of an override
between them, have the same plan, and at both of them the same schedules are active.
-/
theorem plan_within_minute (s : Settings) (h : m.SameMinute m') (hlater : m.instant < m'.instant)
    (hsteady : s.overrides.Steady m.instant m'.instant) :
    (∀ suspended interstitial,
      s.plan m' suspended interstitial = s.plan m suspended interstitial) ∧
    ∀ schedule, activeAt schedule m' = activeAt schedule m := by
  have hlive := hsteady.live_eq hlater
  constructor
  · intro suspended interstitial
    unfold plan
    rw [blockingRules_of_sameMinute h hlive]
  · intro schedule
    exact activeAt_of_sameMinute schedule h

end Settings

end Minutes

/-! ## A sample -/

namespace Settings

/-- The night is over with the third minute past midnight, when the day begins. -/
def nightAndDay : Settings :=
  { Settings.default with
    rules :=
      [⟨"night", "[::1]", .wildcard, .hard, false,
          some ⟨some [4], some "22:00", some "00:03", "UTC"⟩, none⟩,
        ⟨"day", "[::2]", .wildcard, .hard, false,
          some ⟨some [4], some "00:03", some "22:00", "UTC"⟩, none⟩]
    overrides := SortedMap.empty.insert "[::3]" ⟨270, 0, by decide⟩ }

def justBegun : Moment :=
  Moment.utc ⟨180, 5, by decide⟩

def almostOver : Moment :=
  Moment.utc ⟨239, 999999999, by decide⟩

theorem day_planned_throughout :
    justBegun.SameMinute almostOver ∧
      (nightAndDay.blockingRules justBegun []).map (·.id) = ["day"] ∧
      nightAndDay.plan almostOver [] standIn = nightAndDay.plan justBegun [] standIn ∧
      ∀ r ∈ nightAndDay.rules, activeAt r.schedule almostOver = activeAt r.schedule justBegun := by
  have hminute : justBegun.SameMinute almostOver :=
    ⟨by decide, by decide, by decide, by decide⟩
  have hsteady : nightAndDay.overrides.Steady justBegun.instant almostOver.instant := by
    intro host till htill _
    have hmem := SortedMap.get?_eq_some_iff.mp htill
    cases List.mem_singleton.mp hmem
    decide
  rcases nightAndDay.plan_within_minute hminute (by decide) hsteady with ⟨hplan, hactive⟩
  exact ⟨hminute, rfl, hplan [] standIn, fun r _ => hactive r.schedule⟩

end Settings
end SiteGuard
