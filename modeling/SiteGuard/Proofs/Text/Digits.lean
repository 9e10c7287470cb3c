import Mathlib
import SiteGuard.Text

/-!
# Numbers as digits

A number is read back from the decimal digits that it is written in, and zeros in
front of them do not matter.
-/

namespace SiteGuard
namespace Text

/-! ## Runs of digits -/

structure Spells (ds : List Char) (n : Nat) : Prop where
  digits : ∀ c ∈ ds, isDecimalDigit c = true
  value : natOfDigits? 10 ds = some n

theorem natOfDigits?_concat {base : Nat} {ds : List Char} {c : Char} {n d : Nat}
    (h : natOfDigits? base ds = some n) (hc : digitValue? c = some d) (hd : d < base) :
    natOfDigits? base (ds ++ [c]) = some (n * base + d) := by
  cases ds with
  | nil =>
      cases h
  | cons d' ds =>
      simp only [natOfDigits?, List.cons_append] at h ⊢
      rw [← List.cons_append, List.foldl_append, h]
      simp [hc, hd]

theorem natOfDigits?_singleton {base : Nat} {c : Char} {d : Nat} (hc : digitValue? c = some d)
    (hd : d < base) : natOfDigits? base [c] = some d := by
  simp [natOfDigits?, hc, hd]

theorem natOfDigits?_zero {ds : List Char} (h : ds ≠ []) :
    natOfDigits? 10 ('0' :: ds) = natOfDigits? 10 ds := by
  cases ds with
  | nil =>
      exact absurd rfl h
  | cons d ds =>
      rfl

theorem digitValue?_digitChar : ∀ d < 16, digitValue? d.digitChar = some d := by
  decide

theorem isDecimalDigit_digitChar : ∀ d < 10, isDecimalDigit d.digitChar = true := by
  decide

theorem isBlank_of_digit {c : Char} (h : isDecimalDigit c = true) : isBlank c = false := by
  have hrange : 48 ≤ c.toNat ∧ c.toNat ≤ 57 := by
    unfold isDecimalDigit at h
    rw [Bool.and_eq_true, decide_eq_true_eq, decide_eq_true_eq] at h
    exact h
  unfold isBlank
  simp only [Bool.or_eq_false_iff, Bool.and_eq_false_iff, decide_eq_false_iff_not,
    beq_eq_false_iff_ne]
  omega

namespace Spells

variable {ds : List Char} {n : Nat}

theorem ne_nil (h : Spells ds n) : ds ≠ [] := by
  intro hnil
  have hvalue := h.value
  rw [hnil] at hvalue
  cases hvalue

theorem digit {d : Nat} (hd : d < 10) : Spells [d.digitChar] d := by
  constructor
  · intro c hc
    obtain rfl := List.mem_singleton.mp hc
    exact isDecimalDigit_digitChar d hd
  · exact natOfDigits?_singleton (digitValue?_digitChar d (by omega)) hd

theorem concat (h : Spells ds n) {d : Nat} (hd : d < 10) :
    Spells (ds ++ [d.digitChar]) (n * 10 + d) := by
  constructor
  · intro c hc
    rcases List.mem_append.mp hc with hc | hc
    · exact h.digits c hc
    · exact (digit hd).digits c hc
  · exact natOfDigits?_concat h.value (digitValue?_digitChar d (by omega)) hd

theorem zero_cons (h : Spells ds n) : Spells ('0' :: ds) n := by
  constructor
  · intro c hc
    rcases List.mem_cons.mp hc with rfl | hc
    · rfl
    · exact h.digits c hc
  · rw [natOfDigits?_zero h.ne_nil]
    exact h.value

theorem zeros (h : Spells ds n) (k : Nat) : Spells (List.replicate k '0' ++ ds) n := by
  induction k with
  | zero =>
      exact h
  | succ k ih =>
      rw [List.replicate_succ, List.cons_append]
      exact ih.zero_cons

end Spells

/-! ## Where digits end -/

def NoDigit (cs : List Char) : Prop :=
  cs.takeWhile isDecimalDigit = []

theorem noDigit_cons {c : Char} (h : isDecimalDigit c = false) (cs : List Char) :
    NoDigit (c :: cs) := by
  unfold NoDigit
  rw [List.takeWhile_cons, h]
  rfl

theorem takeWhile_digits {ds rest : List Char} {n : Nat} (h : Spells ds n) (hrest : NoDigit rest) :
    (ds ++ rest).takeWhile isDecimalDigit = ds := by
  rw [List.takeWhile_append_of_pos h.digits, hrest, List.append_nil]

theorem NoDigit.take {cs : List Char} (h : NoDigit cs) (k : Nat) : NoDigit (cs.take k) := by
  cases cs with
  | nil =>
      rw [List.take_nil]
      exact h
  | cons c cs =>
      cases k with
      | zero =>
          rfl
      | succ k =>
          have hc : isDecimalDigit c = false := by
            cases hdigit : isDecimalDigit c with
            | false =>
                rfl
            | true =>
                unfold NoDigit at h
                rw [List.takeWhile_cons, hdigit] at h
                cases h
          exact noDigit_cons hc _

/-! ## Written numbers -/

theorem spells_toDigits (n : Nat) : Spells (Nat.toDigits 10 n) n := by
  induction n using Nat.strongRecOn with
  | ind n ih =>
      by_cases hsmall : n < 10
      · rw [Nat.toDigits_of_lt_base hsmall]
        exact .digit hsmall
      · have hbase : 10 ≤ n := Nat.le_of_not_lt hsmall
        have hvalue : n / 10 * 10 + n % 10 = n := Nat.div_add_mod' n 10
        have hfront : Spells (Nat.toDigits 10 (n / 10)) (n / 10) := ih (n / 10) (by omega)
        have hwhole := hfront.concat (Nat.mod_lt n (by decide : 10 > 0))
        rw [hvalue] at hwhole
        rw [Nat.toDigits_of_base_le (by decide) hbase]
        exact hwhole

/-- A number is read back from its digits in any base that has a digit for each value. -/
theorem natOfDigits?_toDigits {base : Nat} (hbase : 1 < base) (hdigits : base ≤ 16) (n : Nat) :
    natOfDigits? base (Nat.toDigits base n) = some n := by
  induction n using Nat.strongRecOn with
  | ind n ih =>
      have hlast : n % base < base := Nat.mod_lt n (by omega)
      by_cases hsmall : n < base
      · rw [Nat.toDigits_of_lt_base hsmall]
        exact natOfDigits?_singleton (digitValue?_digitChar n (by omega)) hsmall
      · have hless : n / base < n := Nat.div_lt_self (by omega) hbase
        have hvalue : n / base * base + n % base = n := Nat.div_add_mod' n base
        have hwhole := natOfDigits?_concat (ih (n / base) hless)
          (digitValue?_digitChar (n % base) (by omega)) hlast
        rw [hvalue] at hwhole
        rw [Nat.toDigits_of_base_le hbase (Nat.le_of_not_lt hsmall)]
        exact hwhole

theorem head?_toDigits_ne {n : Nat} (h : 0 < n) : (Nat.toDigits 10 n).head? ≠ some '0' := by
  induction n using Nat.strongRecOn with
  | ind n ih =>
      by_cases hsmall : n < 10
      · have hall : ∀ d < 10, 0 < d → [d.digitChar].head? ≠ some '0' := by
          decide
        rw [Nat.toDigits_of_lt_base hsmall]
        exact hall n hsmall h
      · have hfront := ih (n / 10) (by omega) (by omega)
        rw [Nat.toDigits_of_base_le (by decide) (Nat.le_of_not_lt hsmall),
          List.head?_append_of_ne_nil _ (spells_toDigits (n / 10)).ne_nil]
        exact hfront

theorem toString_toList (n : Nat) : (toString n).toList = Nat.toDigits 10 n := by
  rw [Nat.toString_eq_ofList_toDigits, String.toList_ofList]

theorem spells_toString (n : Nat) : Spells (toString n).toList n := by
  rw [toString_toList]
  exact spells_toDigits n

theorem length_toString_le {n k : Nat} (hk : 0 < k) (h : n < 10 ^ k) :
    (toString n).toList.length ≤ k := by
  rw [toString_toList]
  exact (Nat.length_toDigits_le_iff (by decide) hk).mpr h

theorem padded_toList (width n : Nat) :
    (padded width n).toList =
      List.replicate (width - (toString n).toList.length) '0' ++ (toString n).toList := by
  unfold padded
  rw [String.toList_append, String.toList_ofList, String.length_toList]

theorem spells_padded (width n : Nat) : Spells (padded width n).toList n := by
  rw [padded_toList]
  exact (spells_toString n).zeros _

theorem length_padded {width n : Nat} (hwidth : 0 < width) (h : n < 10 ^ width) :
    (padded width n).toList.length = width := by
  have hlength := length_toString_le hwidth h
  rw [padded_toList, List.length_append, List.length_replicate]
  omega

theorem spells_twoDigits (n : Nat) : Spells (twoDigits n).toList n := by
  unfold twoDigits
  split
  · rw [String.toList_append]
    exact (spells_toString n).zero_cons
  · exact spells_toString n

theorem length_twoDigits {n : Nat} (h : n < 100) : (twoDigits n).toList.length = 2 := by
  have hall : ∀ m < 100, (twoDigits m).toList.length = 2 := by
    decide +kernel
  exact hall n h

end Text
end SiteGuard
