import SiteGuard.Proofs.Calendar.Elapsed
import SiteGuard.Proofs.Plan.Minutes

/-!
# Whole minutes

The minutes of the local clock begin where its seconds and all below them are zero.
The next of these beginnings is the first one after a moment, at most a minute off.  In
a minute that time itself cuts short at its beginning, a whole minute is waited instead.
-/

namespace SiteGuard
namespace Calendar
namespace Moment

variable {m n boundary : Moment}

/-! ## The minute of a moment -/

def minute (m : Moment) : Int :=
  m.localSecond / 60

theorem isWhole_iff : m.IsWhole ↔ m.localSecond % 60 = 0 ∧ m.instant.nano = 0 := by
  have hsecond : m.secondOfDay % 60 = 0 ↔ m.localSecond % 60 = 0 := by
    unfold secondOfDay
    omega
  unfold IsWhole
  rw [hsecond]

theorem minute_mono (hoffset : n.offset = m.offset)
    (hlater : m.instant.elapsed ≤ n.instant.elapsed) : m.minute ≤ n.minute := by
  have hseconds : m.instant.second ≤ n.instant.second := by
    rw [Instant.second_eq, Instant.second_eq]
    omega
  unfold minute localSecond
  omega

/-! ## The next whole minute -/

/-- The first whole minute after a moment, on the clock of the moment. -/
structure NextWhole (m next : Moment) : Prop where
  offset : next.offset = m.offset
  whole : next.IsWhole
  later : m.instant < next.instant
  least : ∀ other : Moment, other.offset = m.offset → other.IsWhole →
    m.instant < other.instant → ¬other.instant < next.instant

/-- The next whole minute has not passed the last year. -/
def HasNext (m : Moment) : Prop :=
  m.instant.second + 60 ≤ Instant.lastSecond

theorem hasNext_of_le (h : m.instant.second + 120 ≤ Instant.lastSecond) : m.HasNext := by
  unfold HasNext
  omega

/--
The minute of a moment begins at an instant.  Only a minute that begins before the first
year does not, on a clock whose offset is no number of whole minutes.
-/
def HasStart (m : Moment) : Prop :=
  Instant.firstSecond ≤ m.instant.second - m.localSecond % 60

instance (m : Moment) : Decidable m.HasStart :=
  inferInstanceAs (Decidable (_ ≤ _))

theorem hasStart_of_le (h : Instant.firstSecond + 60 ≤ m.instant.second) : m.HasStart := by
  unfold HasStart
  omega

theorem hasStart_of_offset (h : m.offset % 60 = 0) : m.HasStart := by
  have hfirst := m.instant.wellFormed.2.2.1
  have hbegins : Instant.firstSecond % 60 = 0 := by decide
  unfold HasStart localSecond
  omega

theorem minuteStart?_eq (h : m.HasStart) :
    ∃ start : Instant, m.minuteStart? = some start ∧
      start.second = m.instant.second - m.localSecond % 60 ∧ start.nano = 0 := by
  have hlast := m.instant.wellFormed.2.2.2
  have hwellFormed : Instant.WellFormed (m.instant.second - m.localSecond % 60) 0 := by
    unfold HasStart at h
    exact ⟨by decide, by omega, h, by omega⟩
  exact ⟨_, Instant.of?_eq hwellFormed, rfl, rfl⟩

theorem minuteStart?_eq_none (h : ¬m.HasStart) : m.minuteStart? = none := by
  have hearly : ¬Instant.WellFormed (m.instant.second - m.localSecond % 60) 0 :=
    fun hwellFormed => h hwellFormed.2.2.1
  exact dif_neg hearly

theorem hasStart_of_inLeapSecond (h : m.instant.InLeapSecond) : m.HasStart := by
  have hfirst := m.instant.wellFormed.2.2.1
  have hends := m.instant.wellFormed.2.1 h
  have hbegins : Instant.firstSecond % 60 = 0 := by decide
  unfold HasStart
  omega

theorem nextMinute_instant (h : m.HasNext) (hstart : m.HasStart) :
    m.nextMinute.instant.second = m.instant.second - m.localSecond % 60 + 60 ∧
      m.nextMinute.instant.nano = 0 := by
  rcases minuteStart?_eq hstart with ⟨start, hbegins, hsecond, hnano⟩
  have hordinary : ¬start.InLeapSecond := by
    unfold Instant.InLeapSecond
    omega
  have hroom : (start.elapsed + Instant.minuteNanos) / 1000000000 ≤ Instant.lastSecond := by
    rw [Instant.elapsed_eq hordinary]
    unfold HasNext at h
    unfold Instant.minuteNanos
    omega
  rcases Instant.exists_after? Instant.minuteNanos hordinary hroom with
    ⟨next, hnext, hlands, helapsed⟩
  have hinstant : m.nextMinute.instant = next := by
    unfold nextMinute truncated
    rw [hbegins]
    simp only [Option.getD_some, hnext]
  rw [hinstant]
  rw [Instant.elapsed_eq hordinary, Instant.elapsed_eq hlands] at helapsed
  unfold Instant.InLeapSecond at hlands
  unfold Instant.minuteNanos at helapsed
  omega

/-- Where the minute of a moment has no beginning, a minute is counted from the moment on. -/
theorem after?_minuteNanos (h : m.HasNext) (hstart : ¬m.HasStart) :
    m.instant.after? Instant.minuteNanos = some m.nextMinute.instant := by
  have hordinary : ¬m.instant.InLeapSecond := fun hleap => hstart (hasStart_of_inLeapSecond hleap)
  have hroom : (m.instant.elapsed + Instant.minuteNanos) / 1000000000 ≤ Instant.lastSecond := by
    rw [Instant.elapsed_eq hordinary]
    unfold HasNext at h
    unfold Instant.InLeapSecond at hordinary
    unfold Instant.minuteNanos
    omega
  rcases Instant.exists_after? Instant.minuteNanos hordinary hroom with ⟨next, hnext, _⟩
  unfold nextMinute truncated
  rw [minuteStart?_eq_none hstart]
  simp only [Option.getD_none, hnext, Option.getD_some]

theorem nextMinute_instant_of_not_hasStart (h : m.HasNext) (hstart : ¬m.HasStart) :
    m.nextMinute.instant.second = m.instant.second + 60 ∧
      m.nextMinute.instant.nano = m.instant.nano := by
  have hordinary : ¬m.instant.InLeapSecond := fun hleap => hstart (hasStart_of_inLeapSecond hleap)
  have hafter := after?_minuteNanos h hstart
  have hlands := Instant.not_inLeapSecond_of_after? hordinary hafter
  have helapsed := Instant.elapsed_of_after? hafter hlands
  rw [Instant.elapsed_eq hordinary, Instant.elapsed_eq hlands] at helapsed
  unfold Instant.InLeapSecond at hordinary hlands
  unfold Instant.minuteNanos at helapsed
  omega

theorem nextMinute_nextWhole (h : m.HasNext) (hstart : m.HasStart) :
    m.NextWhole m.nextMinute := by
  rcases nextMinute_instant h hstart with ⟨hsecond, hnano⟩
  have hoffset : m.nextMinute.offset = m.offset := rfl
  refine ⟨hoffset, ?_, ?_, ?_⟩
  · rw [isWhole_iff]
    refine ⟨?_, hnano⟩
    show (m.nextMinute.instant.second + m.nextMinute.offset) % 60 = 0
    rw [hsecond, hoffset]
    unfold localSecond
    omega
  · rw [Instant.lt_iff, hsecond]
    omega
  · intro other hclock hwhole hlater
    rw [isWhole_iff] at hwhole
    rw [Instant.lt_iff] at hlater ⊢
    rw [hsecond, hnano]
    unfold localSecond at *
    rw [hclock] at hwhole
    omega

theorem minute_nextMinute (h : m.HasNext) : m.nextMinute.minute = m.minute + 1 := by
  have hoffset : m.nextMinute.offset = m.offset := rfl
  unfold minute localSecond
  rw [hoffset]
  by_cases hstart : m.HasStart
  · have hsecond := (nextMinute_instant h hstart).1
    unfold localSecond at hsecond
    omega
  · have hsecond := (nextMinute_instant_of_not_hasStart h hstart).1
    omega

theorem not_inLeapSecond_of_isWhole (h : m.IsWhole) : ¬m.instant.InLeapSecond := by
  unfold Instant.InLeapSecond
  rw [h.2]
  decide

theorem nextMinute_not_inLeapSecond (h : m.HasNext) : ¬m.nextMinute.instant.InLeapSecond := by
  by_cases hstart : m.HasStart
  · exact not_inLeapSecond_of_isWhole (nextMinute_nextWhole h hstart).whole
  · intro hleap
    unfold Instant.InLeapSecond at hleap
    rw [(nextMinute_instant_of_not_hasStart h hstart).2] at hleap
    exact hstart (hasStart_of_inLeapSecond hleap)

theorem elapsed_nextMinute_mem (h : m.HasNext) (hleap : ¬m.instant.InLeapSecond) :
    m.instant.elapsed < m.nextMinute.instant.elapsed ∧
      m.nextMinute.instant.elapsed ≤ m.instant.elapsed + Instant.minuteNanos := by
  rw [Instant.elapsed_eq (nextMinute_not_inLeapSecond h), Instant.elapsed_eq hleap]
  unfold Instant.InLeapSecond at hleap
  unfold Instant.minuteNanos
  by_cases hstart : m.HasStart
  · rcases nextMinute_instant h hstart with ⟨hsecond, hnano⟩
    omega
  · rcases nextMinute_instant_of_not_hasStart h hstart with ⟨hsecond, hnano⟩
    omega

theorem elapsed_nextMinute (h : m.HasNext) (hleap : ¬m.instant.InLeapSecond) :
    m.nextMinute.instant.elapsed = m.instant.elapsed + m.untilNextMinute := by
  have hlater := (elapsed_nextMinute_mem h hleap).1
  rw [Instant.elapsed_eq (nextMinute_not_inLeapSecond h), Instant.elapsed_eq hleap] at *
  unfold untilNextMinute
  dsimp only
  omega

theorem untilNextMinute_mem (h : m.HasNext) (hleap : ¬m.instant.InLeapSecond) :
    0 < m.untilNextMinute ∧ m.untilNextMinute ≤ Instant.minuteNanos := by
  have hmem := elapsed_nextMinute_mem h hleap
  rw [elapsed_nextMinute h hleap] at hmem
  omega

theorem untilNextMinute_of_not_hasStart (h : m.HasNext) (hstart : ¬m.HasStart) :
    m.untilNextMinute = Instant.minuteNanos := by
  rcases nextMinute_instant_of_not_hasStart h hstart with ⟨hsecond, hnano⟩
  unfold untilNextMinute Instant.minuteNanos
  dsimp only
  omega

/-! ## Just after a boundary -/

/-- A moment at a boundary, or less than some nanoseconds after it. -/
structure JustAfter (m boundary : Moment) (nanos : Nat) : Prop where
  offset : m.offset = boundary.offset
  ordinary : ¬m.instant.InLeapSecond
  notBefore : boundary.instant.elapsed ≤ m.instant.elapsed
  soon : m.instant.elapsed < boundary.instant.elapsed + nanos

/-- What is waited for until the next minute at least ends just after its beginning. -/
theorem justAfter_nextMinute {i : Instant} {delay nanos : Nat} (h : m.HasNext)
    (hleap : ¬m.instant.InLeapSecond) (hafter : m.instant.after? delay = some i)
    (hleast : m.untilNextMinute ≤ delay) (hmost : delay < m.untilNextMinute + nanos) :
    (⟨i, m.offset⟩ : Moment).JustAfter m.nextMinute nanos := by
  have hordinary := Instant.not_inLeapSecond_of_after? hleap hafter
  have helapsed : i.elapsed = m.instant.elapsed + delay :=
    Instant.elapsed_of_after? hafter hordinary
  have hnext := elapsed_nextMinute h hleap
  refine ⟨rfl, hordinary, ?_, ?_⟩
  · show m.nextMinute.instant.elapsed ≤ i.elapsed
    omega
  · show i.elapsed < m.nextMinute.instant.elapsed + nanos
    omega

theorem minute_of_elapsed (hoffset : n.offset = m.offset)
    (helapsed : n.instant.elapsed = m.instant.elapsed + Instant.minuteNanos) :
    n.minute = m.minute + 1 := by
  have hseconds : n.instant.second = m.instant.second + 60 := by
    rw [Instant.second_eq, Instant.second_eq, helapsed]
    unfold Instant.minuteNanos
    omega
  unfold minute localSecond
  rw [hoffset, hseconds]
  omega

/-- Less than a minute after the beginning of a minute, that minute has not passed. -/
theorem JustAfter.minute_eq {nanos : Nat} (h : m.JustAfter boundary nanos)
    (hwhole : boundary.IsWhole) (hnanos : nanos ≤ Instant.minuteNanos) :
    m.minute = boundary.minute := by
  have hsoon := h.soon
  have hnotBefore := h.notBefore
  have hoffset := h.offset
  rw [Instant.elapsed_eq (not_inLeapSecond_of_isWhole hwhole), hwhole.2,
    Instant.elapsed_eq h.ordinary] at hsoon hnotBefore
  have hordinary := h.ordinary
  have hbegins := (isWhole_iff.mp hwhole).1
  unfold Instant.InLeapSecond at hordinary
  unfold Instant.minuteNanos at hnanos
  unfold minute localSecond at *
  rw [hoffset]
  omega

end Moment
end Calendar
end SiteGuard
