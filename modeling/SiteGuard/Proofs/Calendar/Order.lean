import SiteGuard.Calendar.Instant

/-!
# Earlier and later

Instants are ordered by their seconds and then by their fractions, a leap second
being the last of its minute.  What lies some time after an instant is later.
-/

namespace SiteGuard
namespace Calendar
namespace Instant

variable {a b c : Instant}

theorem lt_iff : a < b ↔ a.second < b.second ∨ (a.second = b.second ∧ a.nano < b.nano) :=
  Iff.rfl

theorem lt_irrefl (a : Instant) : ¬a < a := by
  rw [lt_iff]
  omega

theorem lt_trans (hab : a < b) (hbc : b < c) : a < c := by
  rw [lt_iff] at *
  omega

/-- An instant that is not before another one is after whatever the other one is after. -/
theorem lt_of_lt_of_not_lt (hab : a < b) (hcb : ¬c < b) : a < c := by
  rw [lt_iff] at *
  omega

theorem not_lt_trans (hba : ¬b < a) (hcb : ¬c < b) : ¬c < a := by
  rw [lt_iff] at *
  omega

theorem eq_of_not_lt (hab : ¬a < b) (hba : ¬b < a) : a = b := by
  rw [lt_iff] at hab hba
  have hsecond : a.second = b.second := by omega
  have hnano : a.nano = b.nano := by omega
  cases a
  cases b
  cases hsecond
  cases hnano
  rfl

/-! ## The later one -/

theorem not_latest_lt_left (a b : Instant) : ¬latest a b < a := by
  unfold latest
  split
  · rename_i hab
    intro hba
    exact lt_irrefl a (lt_trans hab hba)
  · exact lt_irrefl a

theorem not_latest_lt_right (a b : Instant) : ¬latest a b < b := by
  unfold latest
  split
  · exact lt_irrefl b
  · rename_i hab
    exact hab

theorem latest_eq_or (a b : Instant) : latest a b = a ∨ latest a b = b := by
  unfold latest
  split
  · exact Or.inr rfl
  · exact Or.inl rfl

/-- An instant is the last one of some instants. -/
structure LastOf (last : Instant) (among : Instant → Prop) : Prop where
  isOne : among last
  not_later : ∀ other, among other → ¬last < other

theorem LastOf.unique {among : Instant → Prop} (ha : a.LastOf among) (hb : b.LastOf among) :
    a = b :=
  eq_of_not_lt (ha.not_later b hb.isOne) (hb.not_later a ha.isOne)

theorem LastOf.congr {among among' : Instant → Prop} (h : a.LastOf among)
    (hsame : ∀ i, among i ↔ among' i) : a.LastOf among' where
  isOne := (hsame a).mp h.isOne
  not_later := fun other hother => h.not_later other ((hsame other).mpr hother)

theorem LastOf.insert {among : Instant → Prop} (h : b.LastOf among) :
    (latest a b).LastOf fun i => among i ∨ i = a where
  isOne := by
    rcases latest_eq_or a b with hlatest | hlatest
    · exact Or.inr hlatest
    · rw [hlatest]
      exact Or.inl h.isOne
  not_later := by
    intro other hother
    rcases hother with hother | rfl
    · exact not_lt_trans (h.not_later other hother) (not_latest_lt_right a b)
    · exact not_latest_lt_left other b

/-! ## Some time after -/

theorem of?_eq_some {second : Int} {nano : Nat} {i : Instant} (h : of? second nano = some i) :
    i.second = second ∧ i.nano = nano := by
  unfold of? at h
  split at h
  · cases h
    exact ⟨rfl, rfl⟩
  · cases h

theorem lt_of_after? {i later : Instant} {nanos : Nat} (hpositive : 0 < nanos)
    (h : i.after? nanos = some later) : i < later := by
  unfold after? at h
  dsimp only at h
  rw [lt_iff]
  have hrange := i.wellFormed.1
  split at h
  · rcases of?_eq_some h with ⟨hsecond, hnano⟩
    omega
  · rcases of?_eq_some h with ⟨hsecond, hnano⟩
    omega

/-- Some minutes after an instant a leap second is over, and has taken no time of its own. -/
theorem of_after?_minutes {i later : Instant} {minutes : Nat} (hpositive : 0 < minutes)
    (h : i.after? (minutes * minuteNanos) = some later) :
    later.second = i.second + 60 * minutes ∧
      later.nano = i.nano % 1000000000 := by
  have hseconds : minutes * minuteNanos / 1000000000 = 60 * minutes := by
    unfold minuteNanos
    omega
  have hfraction : minutes * minuteNanos % 1000000000 = 0 := by
    unfold minuteNanos
    omega
  have hsome : ¬(1000000000 ≤ i.nano ∧ 60 * minutes = 0 ∧ i.nano + 0 < 2000000000) := by
    omega
  unfold after? at h
  rw [hseconds, hfraction] at h
  dsimp only at h
  rw [if_neg hsome] at h
  rcases of?_eq_some h with ⟨hsecond, hnano⟩
  omega

end Instant
end Calendar
end SiteGuard
