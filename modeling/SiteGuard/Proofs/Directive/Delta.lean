import Mathlib.Data.List.Basic
import SiteGuard.Directive.Delta
import SiteGuard.Proofs.Directive.Table

/-!
# Deltas bring tables in step

Changing a table by the delta between what it lists and what is wanted leaves the
wanted directives and nothing else, whatever numbers moved from one directive to
another.
-/

namespace SiteGuard
namespace Delta

variable {before wanted : List Directive}

theorem mem_add {d : Directive} :
    d ∈ (between before wanted).add ↔ d ∈ wanted ∧ d ∉ before := by
  simp [between]

theorem mem_remove {id : UInt32} :
    id ∈ (between before wanted).remove ↔ ∃ d ∈ before, d ∉ wanted ∧ d.id = id := by
  simp [between, and_assoc]

theorem length_remove_le : (between before wanted).remove.length ≤ before.length := by
  simp only [between, List.length_map]
  exact List.length_filter_le _ _

/-- As many directives stay of those that are listed as of those that are wanted. -/
theorem balance (hbefore : before.Nodup) (hwanted : wanted.Nodup) :
    wanted.length + (between before wanted).remove.length =
      before.length + (between before wanted).add.length := by
  have hstay : (before.filter fun d => wanted.contains d).Perm
      (wanted.filter fun d => before.contains d) := by
    refine (List.perm_ext_iff_of_nodup (hbefore.filter _) (hwanted.filter _)).mpr ?_
    intro d
    simp [and_comm]
  have hlengths := hstay.length_eq
  have hsplit := before.length_eq_length_filter_add fun d => wanted.contains d
  have hsplit' := wanted.length_eq_length_filter_add fun d => before.contains d
  simp only [between, List.length_map]
  omega

open DirectiveTable in
/-- The rows that a change by a delta leaves are those of the wanted directives. -/
theorem rows_after {t t' : DirectiveTable} (hrows : t.rows.entries = before.map rowOf)
    (hwanted : (wanted.map (·.id)).Nodup)
    (h : t.replace (between before wanted).remove (between before wanted).add = .ok t')
    {e : Int × Except String Directive} :
    e ∈ t'.rows.entries ↔ ∃ d ∈ wanted, e = rowOf d := by
  rw [mem_replace h, hrows]
  constructor
  · rintro (⟨d, hd, rfl⟩ | ⟨hold, hkept, _⟩)
    · exact ⟨d, (mem_add.mp hd).1, rfl⟩
    · rcases List.mem_map.mp hold with ⟨d, hd, rfl⟩
      by_contra hno
      have hnot : d ∉ wanted := fun hmem => hno ⟨d, hmem, rfl⟩
      exact hkept d.id (mem_remove.mpr ⟨d, hd, hnot, rfl⟩) rfl
  · rintro ⟨d, hd, rfl⟩
    by_cases hold : d ∈ before
    · refine Or.inr ⟨List.mem_map_of_mem hold, ?_, ?_⟩
      · intro id hid hkey
        rcases mem_remove.mp hid with ⟨gone, hgone, hnot, rfl⟩
        have hsame : d = gone := eq_of_id hrows hold hgone (keyOf_inj.mp hkey)
        exact hnot (hsame ▸ hd)
      · intro fresh hfresh hkey
        rcases mem_add.mp hfresh with ⟨hmem, hnot⟩
        have hsame : d = fresh :=
          List.inj_on_of_nodup_map hwanted hd hmem (keyOf_inj.mp hkey)
        exact hnot (hsame ▸ hold)
    · exact Or.inl ⟨d, mem_add.mpr ⟨hd, hold⟩, rfl⟩

open DirectiveTable in
theorem rows_of_isEmpty {t : DirectiveTable} (hrows : t.rows.entries = before.map rowOf)
    (h : (between before wanted).isEmpty = true) {e : Int × Except String Directive} :
    e ∈ t.rows.entries ↔ ∃ d ∈ wanted, e = rowOf d := by
  rcases Bool.and_eq_true_iff.mp h with ⟨hremove, hadd⟩
  rw [List.isEmpty_iff] at hremove hadd
  rw [hrows, List.mem_map]
  constructor
  · rintro ⟨d, hd, rfl⟩
    refine ⟨d, ?_, rfl⟩
    by_contra hnot
    have hmem := mem_remove.mpr ⟨d, hd, hnot, rfl⟩
    rw [hremove] at hmem
    cases hmem
  · rintro ⟨d, hd, rfl⟩
    refine ⟨d, ?_, rfl⟩
    by_contra hnot
    have hmem := mem_add.mpr ⟨hd, hnot⟩
    rw [hadd] at hmem
    cases hmem

theorem between_eq_empty (h : ∀ d, d ∈ before ↔ d ∈ wanted) : between before wanted = ⟨[], []⟩ := by
  have hadd : (between before wanted).add = [] := by
    apply List.eq_nil_iff_forall_not_mem.mpr
    intro d hd
    rcases mem_add.mp hd with ⟨hmem, hnot⟩
    exact hnot ((h d).mpr hmem)
  have hremove : (between before wanted).remove = [] := by
    apply List.eq_nil_iff_forall_not_mem.mpr
    intro id hid
    rcases mem_remove.mp hid with ⟨d, hd, hnot, _⟩
    exact hnot ((h d).mp hd)
  calc between before wanted
      = ⟨(between before wanted).remove, (between before wanted).add⟩ := rfl
    _ = ⟨[], []⟩ := by rw [hadd, hremove]

end Delta
end SiteGuard
