import SiteGuard.Calendar.Rfc3339
import SiteGuard.Proofs.Calendar.Date
import SiteGuard.Proofs.Steps
import SiteGuard.Proofs.Text.Digits

/-!
# Instants as text

What is written for an instant is read as the same instant, whatever its year and
its fraction, inside of a leap second too.
-/

namespace SiteGuard
namespace Calendar
namespace Rfc3339

open Text

/-! ## Numbers -/

/-- A number ends where no digit follows, or where there may be no more of them. -/
theorem number?_append {least most n : Nat} {ds rest : List Char} (h : Spells ds n)
    (hleast : least ≤ ds.length) (hmost : ds.length ≤ most)
    (hrest : ds.length = most ∨ NoDigit rest) : number? least most (ds ++ rest) = some (n, rest) := by
  have hstop : NoDigit (rest.take (most - ds.length)) := by
    rcases hrest with heq | hrest
    · rw [heq, Nat.sub_self, List.take_zero]
      rfl
    · exact hrest.take _
  have hdigits : ((ds ++ rest).take most).takeWhile isDecimalDigit = ds := by
    rw [List.take_append, List.take_of_length_le hmost]
    exact takeWhile_digits h hstop
  unfold number?
  rw [hdigits]
  dsimp only
  rw [if_neg (Nat.not_lt.mpr hleast), h.value, List.drop_left]
  rfl

theorem trimStart_digits {ds : List Char} {n : Nat} (h : Spells ds n) (rest : List Char) :
    trimStart (ds ++ rest) = ds ++ rest := by
  cases ds with
  | nil =>
      exact absurd rfl h.ne_nil
  | cons d ds =>
      unfold trimStart
      rw [List.cons_append, List.dropWhile_cons, isBlank_of_digit (h.digits d List.mem_cons_self)]
      rfl

/-! ## Fields -/

theorem looseField?_twoDigits {n : Nat} (hn : n < 100) (rest : List Char) :
    looseField? ((twoDigits n).toList ++ rest) = some (n, rest) := by
  have hlength := length_twoDigits hn
  unfold looseField?
  rw [trimStart_digits (spells_twoDigits n)]
  apply number?_append (spells_twoDigits n)
  · omega
  · omega
  · exact Or.inl hlength

theorem fraction?_padded {width n nano : Nat} (hwidth : 0 < width) (hmost : width ≤ 9)
    (hn : n < 10 ^ width) (hnano : n * 10 ^ (9 - width) = nano) {rest : List Char}
    (hrest : NoDigit rest) :
    fraction? (("." ++ padded width n).toList ++ rest) = some (nano, rest) := by
  have hspells := spells_padded width n
  have hlength := length_padded hwidth hn
  have hdigits : (((padded width n).toList ++ rest).take 9).takeWhile isDecimalDigit =
      (padded width n).toList := by
    rw [List.take_append, List.take_of_length_le (by omega)]
    exact takeWhile_digits hspells (hrest.take _)
  have hdrop : rest.dropWhile isDecimalDigit = rest := by
    have hparts := List.takeWhile_append_dropWhile (p := isDecimalDigit) (l := rest)
    rw [hrest, List.nil_append] at hparts
    exact hparts
  have htext : ("." ++ padded width n).toList ++ rest = '.' :: ((padded width n).toList ++ rest) := by
    rw [String.toList_append]
    rfl
  rw [htext]
  simp only [fraction?]
  rw [hdigits, if_neg (by simpa using hspells.ne_nil), hspells.value, hlength,
    List.drop_left' hlength, hdrop, ← hnano]
  rfl

theorem fraction?_fraction {nano : Nat} (hnano : nano < 1000000000) (rest : List Char) :
    fraction? ((fraction nano).toList ++ 'Z' :: rest) = some (nano, 'Z' :: rest) := by
  have hrest : NoDigit ('Z' :: rest) := noDigit_cons rfl rest
  unfold fraction
  split
  · rename_i hzero
    rw [hzero]
    rfl
  · split
    · have hscale : nano / 1000000 * 1000000 = nano := by omega
      exact fraction?_padded (by decide) (by decide) (by omega) hscale hrest
    · split
      · have hscale : nano / 1000 * 1000 = nano := by omega
        exact fraction?_padded (by decide) (by decide) (by omega) hscale hrest
      · exact fraction?_padded (by decide) (by decide) hnano (Nat.mul_one nano) hrest

/-! ## Years -/

section Years

variable {ds rest : List Char} {n : Nat}

theorem number?_signed (h : Spells ds n) (hrest : NoDigit rest) :
    number? 1 (ds ++ rest).length (ds ++ rest) = some (n, rest) := by
  apply number?_append h
  · exact List.length_pos_iff.mpr h.ne_nil
  · rw [List.length_append]
    exact Nat.le_add_right _ _
  · exact Or.inr hrest

theorem looseYear?_minus (h : Spells ds n) (hrest : NoDigit rest) :
    looseYear? ('-' :: (ds ++ rest)) = some (-(n : Int), rest) := by
  have hsigned : looseYear? ('-' :: (ds ++ rest)) =
      (number? 1 (ds ++ rest).length (ds ++ rest)).map fun read => (-(read.1 : Int), read.2) :=
    rfl
  rw [hsigned, number?_signed h hrest]
  rfl

theorem looseYear?_plus (h : Spells ds n) (hrest : NoDigit rest) :
    looseYear? ('+' :: (ds ++ rest)) = some ((n : Int), rest) := by
  have hsigned : looseYear? ('+' :: (ds ++ rest)) =
      (number? 1 (ds ++ rest).length (ds ++ rest)).map fun read => ((read.1 : Int), read.2) :=
    rfl
  rw [hsigned, number?_signed h hrest]
  rfl

theorem looseYear?_plain (h : Spells ds n) (hlength : ds.length = 4) (rest : List Char) :
    looseYear? (ds ++ rest) = some ((n : Int), rest) := by
  have hnumber : number? 1 4 (ds ++ rest) = some (n, rest) :=
    number?_append h (by omega) (by omega) (Or.inl hlength)
  unfold looseYear?
  rw [trimStart_digits h]
  cases ds with
  | nil =>
      cases hlength
  | cons d ds =>
      have hdigit := h.digits d List.mem_cons_self
      split
      · rename_i htext
        cases htext
        cases hdigit
      · rename_i htext
        cases htext
        cases hdigit
      · rw [hnumber]
        rfl

end Years

theorem looseYear?_year (y : Int) (rest : List Char) :
    looseYear? ((year y).toList ++ '-' :: rest) = some (y, '-' :: rest) := by
  have hrest : NoDigit ('-' :: rest) := noDigit_cons rfl rest
  have hspells := spells_padded 4 y.natAbs
  unfold year
  split
  · have hvalue : -(y.natAbs : Int) = y := by omega
    have hread := looseYear?_minus hspells hrest
    rw [hvalue] at hread
    have hsign : "-".toList = ['-'] := by rfl
    rw [String.toList_append, hsign, List.append_assoc, List.singleton_append]
    exact hread
  · have hvalue : (y.natAbs : Int) = y := by omega
    split
    · have hread := looseYear?_plus hspells hrest
      rw [hvalue] at hread
      have hsign : "+".toList = ['+'] := by rfl
      rw [String.toList_append, hsign, List.append_assoc, List.singleton_append]
      exact hread
    · have hlength : (padded 4 y.natAbs).toList.length = 4 := length_padded (by decide) (by omega)
      have hread := looseYear?_plain hspells hlength ('-' :: rest)
      rw [hvalue] at hread
      exact hread

/-! ## Instants -/

def fieldsOf (i : Instant) : Fields :=
  ⟨Date.ofDay (i.second / 86400), (i.second % 86400).toNat / 3600,
    (i.second % 86400).toNat / 60 % 60, (i.second % 86400).toNat % 60 + i.nano / 1000000000,
    i.nano % 1000000000, 0⟩

theorem of?_self (i : Instant) : Instant.of? i.second i.nano = some i := by
  unfold Instant.of?
  rw [dif_pos i.wellFormed]

theorem moment?_eq {f : Fields} {second : Int} {nano : Nat} {i j : Instant}
    (hvalid : f.date.isValid = true) (hhour : f.hour < 24) (hminute : f.minute < 60)
    (hsecond : f.second ≤ 60)
    (hwall : 86400 * f.date.toDay +
      (f.hour * 3600 + f.minute * 60 + (f.second - f.second / 60) : Nat) = second)
    (hnano : f.nano + f.second / 60 * 1000000000 = nano)
    (hi : Instant.of? second nano = some i)
    (hj : Instant.of? (second - 60 * f.offset) nano = some j) :
    f.moment? = some ⟨j, 60 * f.offset⟩ := by
  have hrange : (f.date.isValid && decide (f.hour < 24) && decide (f.minute < 60) &&
      decide (f.second ≤ 60)) = true := by
    rw [hvalid, decide_eq_true hhour, decide_eq_true hminute, decide_eq_true hsecond]
    rfl
  unfold Fields.moment?
  dsimp only
  rw [if_pos hrange, hwall, hnano, hi]
  simp only [Option.bind_eq_bind, Option.bind_some]
  rw [hj, Option.bind_some]

theorem moment?_fieldsOf (i : Instant) : (fieldsOf i).moment? = some (Moment.utc i) := by
  rcases i.wellFormed with ⟨hnano, hleap, _, _⟩
  have hday : (0 : Int) ≤ i.second % 86400 ∧ i.second % 86400 < 86400 := by omega
  have hrange : (fieldsOf i).hour < 24 ∧ (fieldsOf i).minute < 60 ∧ (fieldsOf i).second ≤ 60 := by
    simp only [fieldsOf]
    omega
  have hsixty : (fieldsOf i).second / 60 = i.nano / 1000000000 := by
    simp only [fieldsOf]
    omega
  have hwall : 86400 * (fieldsOf i).date.toDay +
      ((fieldsOf i).hour * 3600 + (fieldsOf i).minute * 60 +
        ((fieldsOf i).second - (fieldsOf i).second / 60) : Nat) = i.second := by
    rw [hsixty]
    simp only [fieldsOf, Date.toDay_ofDay]
    omega
  have hfraction : (fieldsOf i).nano + (fieldsOf i).second / 60 * 1000000000 = i.nano := by
    rw [hsixty]
    simp only [fieldsOf]
    omega
  have hoffset : i.second - 60 * (fieldsOf i).offset = i.second := by
    simp [fieldsOf]
  have hshifted : Instant.of? (i.second - 60 * (fieldsOf i).offset) i.nano = some i := by
    rw [hoffset]
    exact of?_self i
  exact moment?_eq (Date.isValid_ofDay _) hrange.1 hrange.2.1 hrange.2.2 hwall hfraction
    (of?_self i) hshifted

theorem writeUtc_toList (i : Instant) :
    (writeUtc i).toList =
      (year (fieldsOf i).date.year).toList ++ '-' :: ((twoDigits (fieldsOf i).date.month).toList ++
        '-' :: ((twoDigits (fieldsOf i).date.day).toList ++
          'T' :: ((twoDigits (fieldsOf i).hour).toList ++
            ':' :: ((twoDigits (fieldsOf i).minute).toList ++
              ':' :: ((twoDigits (fieldsOf i).second).toList ++
                ((fraction (fieldsOf i).nano).toList ++ ['Z'])))))) := by
  have hsecond : (Moment.utc i).localSecond = i.second := by
    simp [Moment.utc, Moment.localSecond]
  have hmark : "-".toList = ['-'] ∧ "T".toList = ['T'] ∧ ":".toList = [':'] ∧ "Z".toList = ['Z'] :=
    ⟨rfl, rfl, rfl, rfl⟩
  simp only [writeUtc, dateTime, fieldsOf, Moment.localDay, Moment.secondOfDay, hsecond,
    String.toList_append, hmark, List.append_assoc, List.cons_append, List.nil_append]
  rfl

theorem looseMark?_cons {mark : Char} (hmark : isBlank mark = false) (rest : List Char) :
    looseMark? mark (mark :: rest) = some rest := by
  simp [looseMark?, trimStart, hmark, stripStart]

theorem relaxed?_writeUtc (i : Instant) : relaxed? (writeUtc i) = some (Moment.utc i) := by
  have hday : (0 : Int) ≤ i.second % 86400 ∧ i.second % 86400 < 86400 := by omega
  have hnano := i.wellFormed.1
  have hmonths := Date.month_ofDay_le (i.second / 86400)
  have hdays := Date.day_ofDay_le (i.second / 86400)
  have hmonth : (fieldsOf i).date.month < 100 := by
    simp only [fieldsOf]
    omega
  have hdate : (fieldsOf i).date.day < 100 := by
    simp only [fieldsOf]
    omega
  have htime : (fieldsOf i).hour < 100 ∧ (fieldsOf i).minute < 100 ∧ (fieldsOf i).second < 100 ∧
      (fieldsOf i).nano < 1000000000 := by
    simp only [fieldsOf]
    omega
  rcases htime with ⟨hhour, hminute, hsecond, hfraction⟩
  have hmoment : Fields.moment? { fieldsOf i with offset := 0 } = some (Moment.utc i) :=
    moment?_fieldsOf i
  have htext := writeUtc_toList i
  generalize fieldsOf i = f at *
  have hminus : ∀ rest, looseMark? '-' ('-' :: rest) = some rest := looseMark?_cons rfl
  have hcolon : ∀ rest, looseMark? ':' (':' :: rest) = some rest := looseMark?_cons rfl
  have hseparator : ∀ rest, separator? ('T' :: rest) = some rest := fun _ => rfl
  have hoffset : looseOffset? ['Z'] = some (0, []) := rfl
  unfold relaxed?
  rw [htext]
  refine bind_eq_some (looseYear?_year _ _) ?_
  refine bind_eq_some (hminus _) ?_
  refine bind_eq_some (looseField?_twoDigits hmonth _) ?_
  refine bind_eq_some (hminus _) ?_
  refine bind_eq_some (looseField?_twoDigits hdate _) ?_
  refine bind_eq_some (hseparator _) ?_
  refine bind_eq_some (looseField?_twoDigits hhour _) ?_
  refine bind_eq_some (hcolon _) ?_
  refine bind_eq_some (looseField?_twoDigits hminute _) ?_
  refine bind_eq_some (hcolon _) ?_
  refine bind_eq_some (looseField?_twoDigits hsecond _) ?_
  refine bind_eq_some (fraction?_fraction hfraction _) ?_
  refine bind_eq_some hoffset ?_
  have hend : (trimStart []).isEmpty = true := rfl
  exact (if_pos hend).trans hmoment

end Rfc3339
end Calendar
end SiteGuard
