import Mathlib
import SiteGuard.Calendar.Date

/-!
# Days and dates

The date of a day is a valid one, and it is counted back to the same day.
-/

namespace SiteGuard
namespace Calendar
namespace Date

/-! ## Years -/

def yearLength (leap : Bool) : Nat :=
  if leap then 366 else 365

theorem daysBefore_succ (year : Int) :
    daysBefore (year + 1) = daysBefore year + yearLength (isLeap year) := by
  unfold daysBefore yearLength isLeap
  by_cases h4 : year % 4 = 0
  · by_cases h100 : year % 100 = 0
    · by_cases h400 : year % 400 = 0
      · simp [h4, h100, h400]
        omega
      · simp [h4, h100, h400]
        omega
    · simp [h4, h100]
      omega
  · simp [h4]
    omega

theorem daysBefore_yearOf_le (n : Int) : daysBefore (yearOf n) ≤ n := by
  unfold yearOf
  dsimp only
  split
  · unfold daysBefore
    omega
  · split
    · assumption
    · omega

theorem lt_daysBefore_yearOf_succ (n : Int) : n < daysBefore (yearOf n + 1) := by
  unfold yearOf
  dsimp only
  split
  · rename_i h
    rw [Int.sub_add_cancel]
    exact h
  · split
    · unfold daysBefore
      omega
    · omega

/-! ## Months -/

theorem splitYear_spec {lengths : List Nat} {n : Nat} (h : n < lengths.sum) (month : Nat) :
    ∃ k, (splitYear lengths month n).1 = month + k ∧ k < lengths.length ∧
      (lengths.take k).sum + (splitYear lengths month n).2 = n + 1 ∧
      1 ≤ (splitYear lengths month n).2 ∧ (splitYear lengths month n).2 ≤ lengths.getD k 0 := by
  induction lengths generalizing n month with
  | nil =>
      cases h
  | cons length rest ih =>
      rw [List.sum_cons] at h
      unfold splitYear
      by_cases hfirst : n < length
      · rw [if_pos hfirst]
        exact ⟨0, rfl, Nat.succ_pos _, by simp, by omega, by simpa using hfirst⟩
      · rw [if_neg hfirst]
        rcases ih (by omega : n - length < rest.sum) (month + 1) with
          ⟨k, hmonth, hk, hsum, hleast, hmost⟩
        refine ⟨k + 1, by omega, Nat.succ_lt_succ hk, ?_, hleast, hmost⟩
        rw [List.take_succ_cons, List.sum_cons]
        omega

theorem sum_monthLengths (leap : Bool) : (monthLengths leap).sum = yearLength leap := by
  cases leap <;> rfl

/-! ## Days -/

/-- A day has the date of a month of its year, after the days of the months before. -/
theorem ofDay_spec (n : Int) :
    ∃ k, (ofDay n).month = 1 + k ∧ k < 12 ∧
      daysBefore (ofDay n).year + ((monthLengths (isLeap (ofDay n).year)).take k).sum +
        (ofDay n).day = n + epochDay + 1 ∧
      1 ≤ (ofDay n).day ∧ (ofDay n).day ≤ (monthLengths (isLeap (ofDay n).year)).getD k 0 := by
  have hleast := daysBefore_yearOf_le (n + epochDay)
  have hmost := lt_daysBefore_yearOf_succ (n + epochDay)
  rw [daysBefore_succ] at hmost
  have hwithin : (n + epochDay - daysBefore (yearOf (n + epochDay))).toNat <
      (monthLengths (isLeap (yearOf (n + epochDay)))).sum := by
    rw [sum_monthLengths]
    omega
  rcases splitYear_spec hwithin 1 with ⟨k, hmonth, hk, hsum, hday, hlength⟩
  refine ⟨k, hmonth, hk, ?_, hday, hlength⟩
  have hcount : ((monthLengths (isLeap (ofDay n).year)).take k).sum + (ofDay n).day =
      (n + epochDay - daysBefore (ofDay n).year).toNat + 1 := hsum
  have hyear : daysBefore (ofDay n).year ≤ n + epochDay := hleast
  omega

theorem toDay_ofDay (n : Int) : (ofDay n).toDay = n := by
  rcases ofDay_spec n with ⟨k, hmonth, _, hsum, _, _⟩
  unfold toDay
  rw [hmonth, Nat.add_sub_cancel_left, ← List.sum_eq_foldl]
  dsimp only
  omega

theorem isValid_ofDay (n : Int) : (ofDay n).isValid = true := by
  rcases ofDay_spec n with ⟨k, hmonth, hk, _, hday, hlength⟩
  unfold isValid monthLength
  rw [hmonth, Nat.add_sub_cancel_left]
  simp only [Bool.and_eq_true, decide_eq_true_eq]
  omega

theorem month_ofDay_le (n : Int) : (ofDay n).month ≤ 12 := by
  rcases ofDay_spec n with ⟨k, hmonth, hk, _⟩
  omega

theorem day_ofDay_le (n : Int) : (ofDay n).day ≤ 31 := by
  rcases ofDay_spec n with ⟨k, _, hk, _, _, hlength⟩
  have hlengths : ∀ leap, ∀ k < 12, (monthLengths leap).getD k 0 ≤ 31 := by
    decide
  exact Nat.le_trans hlength (hlengths _ k hk)

end Date
end Calendar
end SiteGuard
