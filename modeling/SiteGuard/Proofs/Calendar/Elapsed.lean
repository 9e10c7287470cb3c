import SiteGuard.Proofs.Calendar.Order

/-!
# Time between instants

Outside of leap seconds instants lie on one line of nanoseconds.  An instant some time
after another one lies that much further on, whatever minutes, days or years end
meanwhile, and it is there unless the last year ends as well.
-/

namespace SiteGuard
namespace Calendar
namespace Instant

variable {i j k : Instant} {nanos more : Nat}

/-! ## The line of nanoseconds -/

def InLeapSecond (i : Instant) : Prop :=
  1000000000 ≤ i.nano

instance (i : Instant) : Decidable i.InLeapSecond :=
  inferInstanceAs (Decidable (_ ≤ _))

/-- Nanoseconds since the epoch; a leap second runs over the one before it again. -/
def elapsed (i : Instant) : Int :=
  i.second * 1000000000 + (i.nano % 1000000000 : Nat)

theorem elapsed_eq (h : ¬i.InLeapSecond) : i.elapsed = i.second * 1000000000 + i.nano := by
  unfold InLeapSecond at h
  unfold elapsed
  omega

theorem second_eq (i : Instant) : i.second = i.elapsed / 1000000000 := by
  unfold elapsed
  omega

/-! ## Some time after -/

theorem of?_eq {second : Int} {nano : Nat} (h : WellFormed second nano) :
    of? second nano = some ⟨second, nano, h⟩ :=
  dif_pos h

theorem after?_zero (i : Instant) : i.after? 0 = some i := by
  have hsame : of? i.second i.nano = some i := of?_eq i.wellFormed
  have hrange := i.wellFormed.1
  unfold after?
  dsimp only
  split
  · exact hsame
  · rename_i hleap
    have hnano : (i.nano % 1000000000 + 0 % 1000000000) / 1000000000 = 0 := by omega
    have hfraction : (i.nano % 1000000000 + 0 % 1000000000) % 1000000000 = i.nano := by omega
    rw [hnano, hfraction]
    simpa using hsame

theorem after?_eq (h : ¬(i.InLeapSecond ∧ i.nano + nanos < 2000000000)) :
    i.after? nanos =
      of? ((i.elapsed + nanos) / 1000000000) ((i.elapsed + nanos) % 1000000000).toNat := by
  have hleft : ¬(1000000000 ≤ i.nano ∧ nanos / 1000000000 = 0 ∧
      i.nano + nanos % 1000000000 < 2000000000) := by
    unfold InLeapSecond at h
    omega
  unfold after? elapsed
  dsimp only
  rw [if_neg hleft]
  congr 1
  · omega
  · omega

theorem left_of_after? (h : i.after? nanos = some j) (hj : ¬j.InLeapSecond) :
    ¬(i.InLeapSecond ∧ i.nano + nanos < 2000000000) := by
  intro hstay
  rcases hstay with ⟨hleap, hwithin⟩
  have hstays : 1000000000 ≤ i.nano ∧ nanos / 1000000000 = 0 ∧
      i.nano + nanos % 1000000000 < 2000000000 := by
    unfold InLeapSecond at hleap
    omega
  unfold after? at h
  dsimp only at h
  rw [if_pos hstays] at h
  unfold InLeapSecond at hleap hj
  have hnano := (of?_eq_some h).2
  omega

theorem elapsed_of_after? (h : i.after? nanos = some j) (hj : ¬j.InLeapSecond) :
    j.elapsed = i.elapsed + nanos := by
  rw [after?_eq (left_of_after? h hj)] at h
  rcases of?_eq_some h with ⟨hsecond, hnano⟩
  unfold elapsed at *
  omega

theorem not_inLeapSecond_of_after? (hi : ¬i.InLeapSecond) (h : i.after? nanos = some j) :
    ¬j.InLeapSecond := by
  rw [after?_eq fun hleap => hi hleap.1] at h
  rcases of?_eq_some h with ⟨_, hnano⟩
  unfold InLeapSecond
  omega

theorem after?_add (h : i.after? nanos = some j) (hj : ¬j.InLeapSecond) (more : Nat) :
    i.after? (nanos + more) = j.after? more := by
  have hleft := left_of_after? h hj
  have hfurther : ¬(i.InLeapSecond ∧ i.nano + (nanos + more) < 2000000000) := by
    intro hstay
    rcases hstay with ⟨hleap, hwithin⟩
    exact hleft ⟨hleap, by omega⟩
  rw [after?_eq hfurther, after?_eq fun hleap => hj hleap.1, elapsed_of_after? h hj,
    Int.natCast_add, Int.add_assoc]

theorem exists_after? (nanos : Nat) (hi : ¬i.InLeapSecond)
    (hlast : (i.elapsed + nanos) / 1000000000 ≤ lastSecond) :
    ∃ j, i.after? nanos = some j ∧ ¬j.InLeapSecond ∧ j.elapsed = i.elapsed + nanos := by
  have hfirst := i.wellFormed.2.2.1
  have hwellFormed : WellFormed ((i.elapsed + nanos) / 1000000000)
      ((i.elapsed + nanos) % 1000000000).toNat := by
    rw [second_eq i] at hfirst
    refine ⟨by omega, by omega, by omega, hlast⟩
  have hafter : i.after? nanos = some ⟨_, _, hwellFormed⟩ := by
    rw [after?_eq fun hleap => hi hleap.1, of?_eq hwellFormed]
  have hordinary := not_inLeapSecond_of_after? hi hafter
  exact ⟨_, hafter, hordinary, elapsed_of_after? hafter hordinary⟩

theorem exists_after?_of_le (hi : ¬i.InLeapSecond) (h : i.after? (nanos + more) = some k) :
    ∃ j, i.after? nanos = some j ∧ ¬j.InLeapSecond ∧ j.after? more = some k := by
  have hk := not_inLeapSecond_of_after? hi h
  have helapsed := elapsed_of_after? h hk
  have hlast := k.wellFormed.2.2.2
  rw [second_eq k, helapsed] at hlast
  rcases exists_after? nanos hi (by omega) with ⟨j, hj, hordinary, _⟩
  rw [after?_add hj hordinary] at h
  exact ⟨j, hj, hordinary, h⟩

end Instant
end Calendar
end SiteGuard
