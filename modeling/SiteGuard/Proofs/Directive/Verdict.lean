import SiteGuard.Directive.Verdict

/-!
# Which directive decides

Directives are compared by priority and then by whether they allow.  This order is
linear up to ties, so the fold over the directives that hold of a page ends with
one that none of them is stronger than, whatever order they are listed in.
-/

namespace SiteGuard
namespace Directive

/-! ## Strength -/

theorem yieldsTo_iff {d e : Directive} :
    d.yieldsTo e = true ↔
      d.priority < e.priority ∨
        (d.priority = e.priority ∧ (d.action.isAllow = true → e.action.isAllow = true)) := by
  unfold yieldsTo
  cases d.action.isAllow <;> cases e.action.isAllow <;> simp

theorem yieldsTo_refl (d : Directive) : d.yieldsTo d = true :=
  yieldsTo_iff.mpr (Or.inr ⟨rfl, fun h => h⟩)

theorem yieldsTo_trans {d e f : Directive} (hde : d.yieldsTo e = true)
    (hef : e.yieldsTo f = true) : d.yieldsTo f = true := by
  rw [yieldsTo_iff] at hde hef ⊢
  rcases hde with hde | ⟨hde, hallow⟩
  · rcases hef with hef | ⟨hef, _⟩
    · exact Or.inl (UInt32.lt_trans hde hef)
    · exact Or.inl (hef ▸ hde)
  · rcases hef with hef | ⟨hef, hallow'⟩
    · exact Or.inl (hde ▸ hef)
    · exact Or.inr ⟨hde.trans hef, fun h => hallow' (hallow h)⟩

theorem yieldsTo_of_not {d e : Directive} (h : ¬d.yieldsTo e = true) : e.yieldsTo d = true := by
  rw [yieldsTo_iff] at h ⊢
  rcases UInt32.lt_or_le e.priority d.priority with hlt | hle
  · exact Or.inl hlt
  · have heq : e.priority = d.priority := by
      apply UInt32.le_antisymm _ hle
      exact UInt32.not_lt.mp fun hlt => h (Or.inl hlt)
    refine Or.inr ⟨heq, ?_⟩
    intro _
    apply Decidable.byContradiction
    intro hallow
    exact h (Or.inr ⟨heq.symm, fun hd => absurd hd hallow⟩)

theorem priority_le_of_yieldsTo {d e : Directive} (h : d.yieldsTo e = true) :
    d.priority ≤ e.priority := by
  rcases yieldsTo_iff.mp h with hlt | ⟨heq, _⟩
  · exact UInt32.le_of_lt hlt
  · exact heq ▸ UInt32.le_refl _

/-! ## The winner -/

/-- The strongest directive of a list, the last one where several are equally strong. -/
def LastStrongest (ds : List Directive) (w : Directive) : Prop :=
  ∃ front back, ds = front ++ w :: back ∧ (∀ d ∈ front, d.yieldsTo w = true) ∧
    ∀ d ∈ back, w.yieldsTo d = false

theorem LastStrongest.singleton (d : Directive) : LastStrongest [d] d :=
  ⟨[], [], rfl, fun _ hd => absurd hd List.not_mem_nil, fun _ hd => absurd hd List.not_mem_nil⟩

theorem LastStrongest.mem {ds : List Directive} {w : Directive} (h : LastStrongest ds w) :
    w ∈ ds := by
  rcases h with ⟨front, back, rfl, _, _⟩
  exact List.mem_append_right _ List.mem_cons_self

theorem LastStrongest.yieldsTo {ds : List Directive} {w d : Directive}
    (h : LastStrongest ds w) (hd : d ∈ ds) : d.yieldsTo w = true := by
  rcases h with ⟨front, back, rfl, hfront, hback⟩
  rcases List.mem_append.mp hd with hd | hd
  · exact hfront d hd
  · rcases List.mem_cons.mp hd with rfl | hd
    · exact yieldsTo_refl d
    · exact yieldsTo_of_not (ne_true_of_eq_false (hback d hd))

theorem LastStrongest.cons_of_yieldsTo {ds : List Directive} {w best d : Directive}
    (hyields : best.yieldsTo d = true) (h : LastStrongest (d :: ds) w) :
    LastStrongest (best :: d :: ds) w := by
  have hbest : best.yieldsTo w = true :=
    yieldsTo_trans hyields (h.yieldsTo List.mem_cons_self)
  rcases h with ⟨front, back, hds, hfront, hback⟩
  exact ⟨best :: front, back, congrArg (List.cons best) hds,
    List.forall_mem_cons.mpr ⟨hbest, hfront⟩, hback⟩

/-- Behind a directive that does not give way to it another one changes nothing. -/
theorem LastStrongest.insert_of_not {ds : List Directive} {w best d : Directive}
    (hkeeps : best.yieldsTo d = false) (h : LastStrongest (best :: ds) w) :
    LastStrongest (best :: d :: ds) w := by
  have hd : d.yieldsTo w = true :=
    yieldsTo_trans (yieldsTo_of_not (ne_true_of_eq_false hkeeps))
      (h.yieldsTo List.mem_cons_self)
  rcases h with ⟨front, back, hds, hfront, hback⟩
  cases front with
  | nil =>
      injection hds with hbest hrest
      subst hbest hrest
      exact ⟨[], d :: ds, rfl, hfront, List.forall_mem_cons.mpr ⟨hkeeps, hback⟩⟩
  | cons first front =>
      injection hds with hbest hrest
      subst hbest hrest
      rcases List.forall_mem_cons.mp hfront with ⟨hfirst, hmore⟩
      exact ⟨best :: d :: front, back, rfl,
        List.forall_mem_cons.mpr ⟨hfirst, List.forall_mem_cons.mpr ⟨hd, hmore⟩⟩, hback⟩

/-- The fold ends with the strongest directive that it has seen, the last one of several. -/
theorem foldl_stronger (ds : List Directive) (best : Directive) :
    ∃ w, ds.foldl stronger (some best) = some w ∧ LastStrongest (best :: ds) w := by
  induction ds generalizing best with
  | nil =>
      exact ⟨best, rfl, LastStrongest.singleton best⟩
  | cons d rest ih =>
      rw [List.foldl_cons]
      cases hyields : best.yieldsTo d with
      | true =>
          have hstep : stronger (some best) d = some d := if_pos hyields
          rcases ih d with ⟨w, hw, hlast⟩
          rw [hstep]
          exact ⟨w, hw, hlast.cons_of_yieldsTo hyields⟩
      | false =>
          have hstep : stronger (some best) d = some best :=
            if_neg (ne_true_of_eq_false hyields)
          rcases ih best with ⟨w, hw, hlast⟩
          rw [hstep]
          exact ⟨w, hw, hlast.insert_of_not hyields⟩

theorem winner?_eq_none {ds : List Directive} {url : String} (h : winner? ds url = none) :
    ∀ d ∈ ds, d.condition.holds url = false := by
  intro d hd
  unfold winner? at h
  cases hfound : ds.filter fun d => d.condition.holds url with
  | nil =>
      have hnot := List.filter_eq_nil_iff.mp hfound d hd
      exact eq_false_of_ne_true hnot
  | cons first rest =>
      rcases foldl_stronger rest first with ⟨w, hw, _⟩
      have hnone : rest.foldl stronger (some first) = none := by
        rw [hfound] at h
        exact h
      rw [hw] at hnone
      cases hnone

theorem winner?_lastStrongest {ds : List Directive} {url : String} {w : Directive}
    (h : winner? ds url = some w) :
    LastStrongest (ds.filter fun d => d.condition.holds url) w := by
  unfold winner? at h
  cases hfound : ds.filter fun d => d.condition.holds url with
  | nil =>
      rw [hfound] at h
      cases h
  | cons first rest =>
      rw [hfound, List.foldl_cons] at h
      rcases foldl_stronger rest first with ⟨w', hw', hlast⟩
      obtain rfl : w' = w := Option.some.inj (hw'.symm.trans h)
      exact hlast

/-- A directive that holds of a page and that every other one which does gives way to. -/
structure Decides (ds : List Directive) (url : String) (w : Directive) : Prop where
  mem : w ∈ ds
  holds : w.condition.holds url = true
  strongest : ∀ d ∈ ds, d.condition.holds url = true → d.yieldsTo w = true

theorem winner?_eq_some {ds : List Directive} {url : String} {w : Directive}
    (h : winner? ds url = some w) : Decides ds url w := by
  have hlast := winner?_lastStrongest h
  rcases List.mem_filter.mp hlast.mem with ⟨hmem, hholds⟩
  refine ⟨hmem, hholds, ?_⟩
  intro d hd hd'
  exact hlast.yieldsTo (List.mem_filter.mpr ⟨hd, hd'⟩)

end Directive

/-! ## Verdicts -/

namespace Verdict

open Directive

theorem of_cases (ds : List Directive) (url : String) :
    (of ds url = .proceed ∧ ∀ d ∈ ds, d.condition.holds url = false) ∨
      ∃ w, Decides ds url w ∧ of ds url = w.verdict url := by
  unfold of
  cases hwinner : winner? ds url with
  | none =>
      exact Or.inl ⟨rfl, winner?_eq_none hwinner⟩
  | some w =>
      exact Or.inr ⟨w, winner?_eq_some hwinner, rfl⟩

theorem verdict_of_allow {d : Directive} {url : String} (h : d.action.isAllow = true) :
    d.verdict url = .allowed d.id := by
  unfold Directive.verdict
  cases haction : d.action with
  | allow =>
      rfl
  | redirect target =>
      rw [haction] at h
      cases h

theorem verdict_of_block {d : Directive} {url : String} (h : d.action.isAllow = false) :
    ∃ location, d.verdict url = .redirect d.id location := by
  unfold Directive.verdict
  cases haction : d.action with
  | allow =>
      rw [haction] at h
      cases h
  | redirect target =>
      exact ⟨_, rfl⟩

theorem verdict_ne_proceed (d : Directive) (url : String) : d.verdict url ≠ .proceed := by
  unfold Directive.verdict
  cases d.action <;> exact Verdict.noConfusion

theorem of_eq_proceed_iff {ds : List Directive} {url : String} :
    of ds url = .proceed ↔ ∀ d ∈ ds, d.condition.holds url = false := by
  constructor
  · intro hproceed
    rcases of_cases ds url with ⟨_, hnone⟩ | ⟨w, _, hjudged⟩
    · exact hnone
    · exact absurd (hjudged.symm.trans hproceed) (verdict_ne_proceed w url)
  · intro hnone
    rcases of_cases ds url with ⟨hproceed, _⟩ | ⟨w, hw, _⟩
    · exact hproceed
    · have hholds := hw.holds
      rw [hnone w hw.mem] at hholds
      cases hholds

theorem exists_decides {ds : List Directive} {url : String} {d : Directive} (hd : d ∈ ds)
    (hholds : d.condition.holds url = true) :
    ∃ w, Decides ds url w ∧ of ds url = w.verdict url := by
  rcases of_cases ds url with ⟨_, hnone⟩ | hsome
  · rw [hnone d hd] at hholds
    cases hholds
  · exact hsome

end Verdict
end SiteGuard
