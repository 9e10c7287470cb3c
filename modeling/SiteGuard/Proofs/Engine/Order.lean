import SiteGuard.Proofs.Engine.Command
import SiteGuard.Proofs.Plan.Order

/-!
# Passes over reordered rules

Two engines whose settings list the same rules in another order pass judgement
alike.  Unless rules ask for one number, they even install the same table.
-/

namespace SiteGuard

open Calendar

/-! ## Tables -/

namespace Directive

theorem Alike.inOrder {ds es : List Directive} (h : Alike ds es) :
    Alike (DirectiveTable.inOrder ds) (DirectiveTable.inOrder es) := by
  constructor
  · intro d hd
    rcases h.left d (List.mem_mergeSort.mp hd) with ⟨e, he, hsame⟩
    exact ⟨e, List.mem_mergeSort.mpr he, hsame⟩
  · intro e he
    rcases h.right e (List.mem_mergeSort.mp he) with ⟨d, hd, hsame⟩
    exact ⟨d, List.mem_mergeSort.mpr hd, hsame⟩

end Directive

namespace DirectiveTable

theorem inOrder_eq_of_perm {ds es : List Directive} (hnodup : (ds.map (·.id)).Nodup)
    (h : ds.Perm es) : inOrder ds = inOrder es := by
  have hnodup' : (es.map (·.id)).Nodup := (h.map _).nodup_iff.mp hnodup
  have hperm : (inOrder ds).Perm (inOrder es) :=
    (List.mergeSort_perm ds _).trans (h.trans (List.mergeSort_perm es _).symm)
  apply hperm.eq_of_pairwise _ (inOrder_pairwise hnodup) (inOrder_pairwise hnodup')
  intro d e _ _ hde hed
  exact absurd (UInt32.lt_trans hde hed) (UInt32.lt_irrefl _)

end DirectiveTable

namespace Engine

/-! ## Passes -/

section Reordered

variable {e e' f f' : Engine} {now : Moment}

theorem planned_of_same_suspended
    (hsuspended : ∀ id, id ∈ e.suspendedRules ↔ id ∈ f.suspendedRules)
    (hinterstitial : f.interstitial = e.interstitial) :
    f.planned now = f.settings.plan now e.suspendedRules e.interstitial := by
  unfold planned
  rw [hinterstitial]
  exact (Settings.plan_of_same_suspended hsuspended).symm

/--
The order of rules has no part in what becomes of a page, and where no two rules
ask for one number it has no part in the table either.  With more rules in force
than numbers no pass would end.
-/
theorem order_insignificant {reason reason' : String} {report report' : Report}
    (hkeyed : e.table.Keyed) (hkeyed' : f.table.Keyed)
    (hpass : e.pass now reason = (.ok report, e'))
    (hpass' : f.pass now reason' = (.ok report', f'))
    (hreordered : e.settings.Reordered f.settings)
    (hsuspended : ∀ id, id ∈ e.suspendedRules ↔ id ∈ f.suspendedRules)
    (hinterstitial : f.interstitial = e.interstitial)
    (hroom : (e.settings.rulesInForce now e.suspendedRules).length ≤ Directive.idCount) :
    ∃ ds es, e'.installed = .ok ds ∧ f'.installed = .ok es ∧
      (∀ url, (Verdict.of ds url).kind = (Verdict.of es url).kind) ∧
      ((e.settings.rules.map fun r => Directive.idOf r.id).Nodup →
        ds = es ∧ e'.table.rows = f'.table.rows ∧
          ∀ url, Verdict.of ds url = Verdict.of es url) := by
  have hplanned : f.planned now =
      f.settings.plan now e.suspendedRules e.interstitial :=
    planned_of_same_suspended hsuspended hinterstitial
  have hroom' : (f.settings.rulesInForce now e.suspendedRules).length ≤ Directive.idCount := by
    rw [← (hreordered.rulesInForce now e.suspendedRules).length_eq]
    exact hroom
  have hnodup : ((e.planned now).map (·.id)).Nodup := Settings.plan_ids_nodup hroom
  have hnodup' : ((f.planned now).map (·.id)).Nodup := by
    rw [hplanned]
    exact Settings.plan_ids_nodup hroom'
  refine ⟨_, _, installed_of_pass hkeyed hnodup hpass,
    installed_of_pass hkeyed' hnodup' hpass', ?_, ?_⟩
  · intro url
    have halike := hreordered.alike now e.suspendedRules e.interstitial
    rw [← hplanned] at halike
    exact Verdict.kind_of_alike halike.inOrder url
  · intro hnumbers
    have hperm : (e.planned now).Perm (f.planned now) := by
      rw [hplanned]
      exact hreordered.plan_perm hnumbers
    have hsame := DirectiveTable.inOrder_eq_of_perm hnodup hperm
    refine ⟨hsame, ?_, ?_⟩
    · apply SortedMap.ext_mem
      intro row
      rw [table_of_pass hkeyed hnodup hpass, table_of_pass hkeyed' hnodup' hpass',
        DirectiveTable.rebuilt_entries _ hnodup, DirectiveTable.rebuilt_entries _ hnodup',
        hsame]
    · intro url
      rw [hsame]

end Reordered

/-! ## A sample -/

def listing (rules : List Rule) : Engine :=
  finding { Settings.default with rules }

theorem listing_reversed (rules : List Rule) :
    (listing rules).settings.Reordered (listing rules.reverse).settings :=
  ⟨rfl, (List.reverse_perm rules).symm⟩

def blockRule (id pattern : String) : Rule :=
  ⟨id, pattern, .wildcard, .hard, false, none, none⟩

/-- Two rules that ask for one number, which goes to the one that comes first. -/
def twins : List Rule := [blockRule "Aa" "[::1]", blockRule "BB" "[::2]"]

def strangers : List Rule := [blockRule "Aa" "[::1]", blockRule "AB" "[::2]"]

theorem twins_alike :
    (∃ ds es, ((listing twins).pass dawn "boot").2.installed = .ok ds ∧
      ((listing twins.reverse).pass dawn "boot").2.installed = .ok es ∧ ds ≠ es ∧
      ∀ url, (Verdict.of ds url).kind = (Verdict.of es url).kind) ∧
    ((listing strangers).pass dawn "boot").2.table.rows =
      ((listing strangers.reverse).pass dawn "boot").2.table.rows := by
  constructor
  · have hpass : (listing twins).pass dawn "boot" = (.ok ⟨"boot", 2, 2, 0⟩, _) :=
      Prod.ext rfl rfl
    have hpass' : (listing twins.reverse).pass dawn "boot" = (.ok ⟨"boot", 2, 2, 0⟩, _) :=
      Prod.ext rfl rfl
    rcases order_insignificant (start_keyed _ _ _) (start_keyed _ _ _) hpass hpass'
      (listing_reversed twins) (fun _ => Iff.rfl) rfl (by decide) with
      ⟨ds, es, hds, hes, hkinds, _⟩
    refine ⟨ds, es, hds, hes, ?_, hkinds⟩
    rintro rfl
    exact absurd (hds.trans hes.symm) (by decide)
  · have hpass : (listing strangers).pass dawn "boot" = (.ok ⟨"boot", 2, 2, 0⟩, _) :=
      Prod.ext rfl rfl
    have hpass' : (listing strangers.reverse).pass dawn "boot" = (.ok ⟨"boot", 2, 2, 0⟩, _) :=
      Prod.ext rfl rfl
    rcases order_insignificant (start_keyed _ _ _) (start_keyed _ _ _) hpass hpass'
      (listing_reversed strangers) (fun _ => Iff.rfl) rfl (by decide) with
      ⟨_, _, _, _, _, hsame⟩
    exact (hsame (by decide)).2.1

end Engine
end SiteGuard
