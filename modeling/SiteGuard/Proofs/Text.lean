import Mathlib
import SiteGuard.Text

/-!
# Letter case and cutting

Writing a text in small letters changes its letters alone, so it does not get in
the way of looking for a mark in it.
-/

namespace SiteGuard
namespace Text

/-! ## Letter case -/

theorem toLower_eq_self {c : Char} (h : c.isAlpha = false) : c.toLower = c := by
  have hcases : (c.isUpper || c.isLower) = false := h
  have hupper : c.isUpper = false := (Bool.or_eq_false_iff.mp hcases).1
  apply Char.toLower_eq_of_not_isUpper
  rw [hupper]
  exact Bool.false_ne_true

theorem toLower_eq_iff {c mark : Char} (hmark : mark.isAlpha = false) :
    c.toLower = mark ↔ c = mark := by
  constructor
  · rintro rfl
    rw [Char.isAlpha_toLower_eq_isAlpha] at hmark
    exact (toLower_eq_self hmark).symm
  · rintro rfl
    exact toLower_eq_self hmark

theorem lower_lower (cs : List Char) : lower (lower cs) = lower cs := by
  unfold lower
  rw [List.map_map]
  exact List.map_congr_left fun c _ => Char.toLower_toLower_eq_toLower c

/-! ## Cutting -/

theorem cut_eq_none_iff {sep : Char} {cs : List Char} : cut sep cs = none ↔ sep ∉ cs := by
  induction cs with
  | nil =>
      simp [cut]
  | cons c rest ih =>
      unfold cut
      by_cases hc : c = sep
      · simp [hc]
      · simp [hc, Ne.symm hc, ih]

theorem mem_of_cut {sep : Char} {cs : List Char} {parts : List Char × List Char}
    (h : cut sep cs = some parts) : sep ∈ cs := by
  by_cases hmem : sep ∈ cs
  · exact hmem
  · rw [cut_eq_none_iff.mpr hmem] at h
    cases h

theorem eq_of_cut {sep : Char} {cs front rest : List Char}
    (h : cut sep cs = some (front, rest)) : cs = front ++ sep :: rest := by
  induction cs generalizing front with
  | nil =>
      cases h
  | cons c cs ih =>
      unfold cut at h
      split at h
      · rename_i hc
        cases h
        rw [hc]
        rfl
      · rcases Option.map_eq_some_iff.mp h with ⟨⟨front', rest'⟩, hcut, hparts⟩
        cases hparts
        rw [ih hcut]
        rfl

theorem cut_append {sep : Char} {front : List Char} (hfront : sep ∉ front) (rest : List Char) :
    cut sep (front ++ sep :: rest) = some (front, rest) := by
  induction front with
  | nil =>
      exact if_pos rfl
  | cons c front ih =>
      have hc : c ≠ sep := fun hc => hfront (hc ▸ List.mem_cons_self)
      have hmore := ih fun hmem => hfront (List.mem_cons_of_mem _ hmem)
      rw [List.cons_append, cut, if_neg hc, hmore]
      rfl

theorem cutLast_eq_none {sep : Char} {cs : List Char} (h : sep ∉ cs) : cutLast sep cs = none := by
  have hreverse : cut sep cs.reverse = none := cut_eq_none_iff.mpr (by simpa using h)
  unfold cutLast
  rw [hreverse, Option.map_none]

theorem cutLast_append {sep : Char} {back : List Char} (hback : sep ∉ back) (front : List Char) :
    cutLast sep (front ++ sep :: back) = some (front, back) := by
  have hreverse : (front ++ sep :: back).reverse = back.reverse ++ sep :: front.reverse := by
    simp
  unfold cutLast
  rw [hreverse, cut_append (by simpa using hback)]
  simp

/-- A beginning without letters is found in a text and in its small letters alike. -/
theorem stripStart_lower {mark : List Char} (hmark : ∀ c ∈ mark, c.isAlpha = false)
    (cs : List Char) : stripStart mark (lower cs) = (stripStart mark cs).map lower := by
  induction mark generalizing cs with
  | nil =>
      rfl
  | cons p rest ih =>
      cases cs with
      | nil =>
          rfl
      | cons c cs =>
          have hrest := ih (fun d hd => hmark d (List.mem_cons_of_mem _ hd)) cs
          have hp : p = c.toLower ↔ p = c := by
            rw [eq_comm, toLower_eq_iff (hmark p List.mem_cons_self), eq_comm]
          show (if p = c.toLower then stripStart rest (lower cs) else none) =
            (if p = c then stripStart rest cs else none).map lower
          by_cases hc : p = c
          · rw [if_pos (hp.mpr hc), if_pos hc, hrest]
          · rw [if_neg (mt hp.mp hc), if_neg hc]
            rfl

end Text
end SiteGuard
