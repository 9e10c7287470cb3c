import Mathlib.Data.List.Sort
import SiteGuard.Engine
import SiteGuard.Proofs.Directive.Delta
import SiteGuard.Proofs.Plan
import SiteGuard.Proofs.Store

/-!
# Passes

A pass that does not fail leaves the table that one would get by clearing it and
installing the plan, though it changes only what differs.  Passing again at the
same moment changes nothing.
-/

namespace SiteGuard

open Calendar

/-! ## Rebuilt tables -/

namespace DirectiveTable

theorem eq_rebuilt {t t' : DirectiveTable} {ds : List Directive}
    (hflags : t' = { t with rows := t'.rows }) (hnodup : (ds.map (·.id)).Nodup)
    (hrows : ∀ e, e ∈ t'.rows.entries ↔ ∃ d ∈ ds, e = rowOf d) : t' = t.rebuilt ds := by
  have hsame : t'.rows = (t.rebuilt ds).rows := by
    apply SortedMap.ext_mem
    intro e
    rw [hrows e, mem_rebuilt hnodup]
  rw [hflags, hsame]
  exact (filled_eq _ ds).symm

def inOrder (ds : List Directive) : List Directive :=
  ds.mergeSort fun a b => a.id ≤ b.id

theorem inOrder_pairwise {ds : List Directive} (hnodup : (ds.map (·.id)).Nodup) :
    (inOrder ds).Pairwise fun a b => a.id < b.id := by
  have hle : (inOrder ds).Pairwise fun a b => decide (a.id ≤ b.id) = true := by
    apply List.pairwise_mergeSort
    · intro a b c hab hbc
      exact decide_eq_true (UInt32.le_trans (of_decide_eq_true hab) (of_decide_eq_true hbc))
    · intro a b
      simp [UInt32.le_total]
  have hne : (inOrder ds).Pairwise fun a b => a.id ≠ b.id := by
    have hids : ((inOrder ds).map (·.id)).Nodup :=
      ((List.mergeSort_perm ds _).map _).nodup_iff.mpr hnodup
    exact List.pairwise_map.mp hids
  refine hle.imp₂ ?_ hne
  intro a b hab hneq
  exact UInt32.lt_of_le_of_ne (of_decide_eq_true hab) hneq

theorem rebuilt_entries (t : DirectiveTable) {ds : List Directive}
    (hnodup : (ds.map (·.id)).Nodup) :
    (t.rebuilt ds).rows.entries = (inOrder ds).map rowOf := by
  have hsorted : ((inOrder ds).map rowOf).Pairwise fun a b => a.1 < b.1 :=
    List.pairwise_map.mpr ((inOrder_pairwise hnodup).imp fun h => keyOf_lt.mpr h)
  let listed : SortedMap Int (Except String Directive) := ⟨(inOrder ds).map rowOf, hsorted⟩
  have hsame : (t.rebuilt ds).rows = listed := by
    apply SortedMap.ext_mem
    intro e
    rw [mem_rebuilt hnodup, List.mem_map]
    constructor
    · rintro ⟨d, hd, rfl⟩
      exact ⟨d, List.mem_mergeSort.mpr hd, rfl⟩
    · rintro ⟨d, hd, rfl⟩
      exact ⟨d, List.mem_mergeSort.mp hd, rfl⟩
  rw [hsame]

end DirectiveTable

namespace Engine

/-! ## Saving -/

theorem saved_eq_ok {e e' : Engine} {s : Settings} (h : e.saved s = .ok e') :
    e' = { e with store := e'.store } ∧ e'.settings = s := by
  unfold saved at h
  split at h
  · cases h
  · cases hsave : e.store.save s with
    | error f =>
        rw [hsave] at h
        cases h
    | ok store =>
        rw [hsave] at h
        cases h
        exact ⟨rfl, Store.load_save hsave⟩

theorem saved_error_congr {e e' : Engine} {s : Settings} {f : Failure}
    (hstore : e'.store = e.store) (houtage : e'.outage = e.outage)
    (h : e.saved s = .error f) : e'.saved s = .error f := by
  unfold saved at h ⊢
  rw [hstore, houtage]
  cases hout : e.outage.save with
  | true =>
      rw [hout] at h
      exact h
  | false =>
      rw [hout] at h
      cases hsave : e.store.save s with
      | error g =>
          rw [hsave] at h
          exact h
      | ok store =>
          rw [hsave] at h
          cases h

theorem purged_eq_with_store (e : Engine) (now : Instant) :
    e.purged now = { e with store := (e.purged now).store } := by
  unfold purged
  split
  · rfl
  · split
    · rename_i hsaved
      exact (saved_eq_ok hsaved).1
    · rfl

theorem purged_table (e : Engine) (now : Instant) : (e.purged now).table = e.table := by
  rw [purged_eq_with_store]

theorem settings_purged (e : Engine) (now : Instant) :
    (e.purged now).settings = e.settings ∨
      (e.purged now).settings = e.settings.purged now := by
  unfold purged
  split
  · exact Or.inl rfl
  · split
    · rename_i hsaved
      exact Or.inr (saved_eq_ok hsaved).2
    · exact Or.inl rfl

theorem purged_eq_self {e e' : Engine} {now : Instant}
    (hstore : e'.store = (e.purged now).store) (houtage : e'.outage = e.outage) :
    e'.purged now = e' := by
  have hsettings : e'.settings = (e.purged now).settings := congrArg Store.load hstore
  by_cases hnone : e.settings.expiredCount now = 0
  · have hkept : e.purged now = e := if_pos hnone
    rw [hkept] at hsettings
    exact if_pos (hsettings ▸ hnone)
  · cases hsaved : e.saved (e.settings.purged now) with
    | ok saved =>
        have hdropped : e.purged now = saved := by
          simp [purged, hnone, hsaved]
        rw [hdropped, (saved_eq_ok hsaved).2] at hsettings
        exact if_pos (hsettings ▸ e.settings.expiredCount_purged now)
    | error f =>
        have hkept : e.purged now = e := by
          simp [purged, hnone, hsaved]
        rw [hkept] at hstore hsettings
        have hagain := saved_error_congr hstore houtage hsaved
        simp [purged, hsettings, hnone, hagain]

/-! ## Installing -/

theorem installed_eq_ok {e : Engine} {ds : List Directive} (h : e.installed = .ok ds) :
    e.outage.installed = false ∧ e.table.installed = .ok ds := by
  unfold installed at h
  split at h
  · cases h
  · rename_i hout
    exact ⟨Bool.eq_false_of_not_eq_true hout, h⟩

theorem install_eq_ok {e e' : Engine} {wanted : List Directive} {reason : String}
    {report : Report} (h : e.install wanted reason = .ok (report, e')) :
    ∃ before, e.installed = .ok before ∧
      report = ⟨reason, wanted.length, (Delta.between before wanted).add.length,
        (Delta.between before wanted).remove.length⟩ ∧
      e' = { e with table := e'.table } ∧
      if (Delta.between before wanted).isEmpty then e'.table = e.table
      else e.table.replace (Delta.between before wanted).remove
        (Delta.between before wanted).add = .ok e'.table := by
  cases hinstalled : e.installed with
  | error f =>
      simp [install, hinstalled, bind, Except.bind] at h
  | ok before =>
      refine ⟨before, rfl, ?_⟩
      cases hempty : (Delta.between before wanted).isEmpty with
      | true =>
          simp only [install, hinstalled, bind, Except.bind, hempty, if_true, Except.ok.injEq,
            Prod.mk.injEq] at h
          rcases h with ⟨rfl, rfl⟩
          exact ⟨rfl, rfl, rfl⟩
      | false =>
          simp only [install, hinstalled, bind, Except.bind, hempty, replaced,
            Bool.false_eq_true, if_false] at h
          split at h
          · cases h
          · rename_i replaced' hreplaced
            split at hreplaced
            · cases hreplaced
            · cases hreplace : e.table.replace (Delta.between before wanted).remove
                (Delta.between before wanted).add with
              | error f =>
                  rw [hreplace] at hreplaced
                  cases hreplaced
              | ok table =>
                  rw [hreplace] at hreplaced
                  cases hreplaced
                  cases h
                  exact ⟨rfl, rfl, rfl⟩

theorem table_of_install {e e' : Engine} {wanted : List Directive} {reason : String}
    {report : Report} (hkeyed : e.table.Keyed) (hnodup : (wanted.map (·.id)).Nodup)
    (h : e.install wanted reason = .ok (report, e')) :
    e'.table = e.table.rebuilt wanted := by
  rcases install_eq_ok h with ⟨before, hinstalled, _, _, hchange⟩
  have hrows := hkeyed.entries_eq (installed_eq_ok hinstalled).2
  split at hchange
  · rename_i hempty
    rw [hchange]
    exact DirectiveTable.eq_rebuilt rfl hnodup fun e => Delta.rows_of_isEmpty hrows hempty
  · exact DirectiveTable.eq_rebuilt (DirectiveTable.replace_eq_with_rows hchange) hnodup
      fun e => Delta.rows_after hrows hnodup hchange

/-! ## Passing -/

/-- What an engine should have installed at a moment. -/
def planned (e : Engine) (now : Moment) : List Directive :=
  e.settings.plan now e.suspendedRules e.interstitial

theorem wanted_eq_planned (e : Engine) (now : Moment) : e.wanted now = e.planned now :=
  Settings.plan_purged e.settings now e.suspendedRules e.interstitial

theorem pass_eq_ok {e e' : Engine} {now : Moment} {reason : String} {report : Report}
    (h : e.pass now reason = (.ok report, e')) :
    (e.purged now.instant).install (e.planned now) reason = .ok (report, e') := by
  unfold pass at h
  rw [wanted_eq_planned] at h
  cases hinstall : (e.purged now.instant).install (e.planned now) reason with
  | error f =>
      simp [hinstall] at h
  | ok result =>
      simp only [hinstall, Prod.mk.injEq, Except.ok.injEq] at h
      rw [← h.1, ← h.2]

/-- A pass changes nothing but the stored settings, by dropping overrides, and the table. -/
theorem pass_frame {e e' : Engine} {now : Moment} {reason : String} {report : Report}
    (h : e.pass now reason = (.ok report, e')) :
    e' = { e with store := (e.purged now.instant).store, table := e'.table } := by
  rcases install_eq_ok (pass_eq_ok h) with ⟨_, _, _, hframe, _⟩
  rw [hframe, purged_eq_with_store]

theorem pass_eq_with_backends (e : Engine) (now : Moment) (reason : String) :
    (e.pass now reason).2 =
      { e with
        store := (e.pass now reason).2.store
        table := (e.pass now reason).2.table } := by
  cases hinstall : (e.purged now.instant).install (e.wanted now) reason with
  | error f =>
      have hpass : (e.pass now reason).2 = e.purged now.instant := by
        simp only [pass, hinstall]
      rw [hpass, purged_eq_with_store]
  | ok result =>
      have hpass : e.pass now reason = (.ok result.1, (e.pass now reason).2) := by
        simp only [pass, hinstall]
      rw [pass_frame hpass]

/-- The plan of a moment does not notice that overrides have been dropped at it. -/
theorem planned_of_pass {e e' : Engine} {now : Moment} {reason : String} {report : Report}
    (h : e.pass now reason = (.ok report, e')) : e'.planned now = e.planned now := by
  have hframe := pass_frame h
  have hsettings : e'.settings = (e.purged now.instant).settings := by
    rw [hframe]
    rfl
  have hsuspended : e'.suspendedRules = e.suspendedRules := by
    rw [hframe]
    rfl
  have hinterstitial : e'.interstitial = e.interstitial := by
    rw [hframe]
  unfold planned
  rw [hsettings, hsuspended, hinterstitial]
  rcases e.settings_purged now.instant with hkept | hdropped
  · rw [hkept]
  · rw [hdropped, Settings.plan_purged]

theorem changed_of_pass {e e' : Engine} {now : Moment} {reason : String} {report : Report}
    (h : e.pass now reason = (.ok report, e')) :
    ∃ before, e.installed = .ok before ∧
      report = ⟨reason, (e.planned now).length,
        (Delta.between before (e.planned now)).add.length,
        (Delta.between before (e.planned now)).remove.length⟩ ∧
      if (Delta.between before (e.planned now)).isEmpty then e'.table = e.table
      else e.table.replace (Delta.between before (e.planned now)).remove
        (Delta.between before (e.planned now)).add = .ok e'.table := by
  rcases install_eq_ok (pass_eq_ok h) with ⟨before, hinstalled, hreport, _, hchange⟩
  rw [purged_eq_with_store] at hinstalled hchange
  exact ⟨before, hinstalled, hreport, hchange⟩

/-- A pass leaves the table alone, or changes it by adding some of what is planned. -/
theorem pass_table (e : Engine) (now : Moment) (reason : String) :
    (e.pass now reason).2.table = e.table ∨
      ∃ remove add, (∀ d ∈ add, d ∈ e.planned now) ∧
        e.table.replace remove add = .ok (e.pass now reason).2.table := by
  unfold pass
  rw [wanted_eq_planned]
  cases hinstall : (e.purged now.instant).install (e.planned now) reason with
  | error f =>
      simp only [hinstall]
      exact Or.inl (e.purged_table now.instant)
  | ok result =>
      rcases install_eq_ok hinstall with ⟨before, _, _, _, hchange⟩
      rw [purged_table] at hchange
      simp only [hinstall]
      split at hchange
      · exact Or.inl hchange
      · exact Or.inr ⟨_, _, fun d hd => (Delta.mem_add.mp hd).1, hchange⟩

section Settled

variable {e e' : Engine} {now : Moment} {reason : String} {report : Report}

theorem table_of_pass (hkeyed : e.table.Keyed)
    (hnodup : ((e.planned now).map (·.id)).Nodup)
    (h : e.pass now reason = (.ok report, e')) :
    e'.table = e.table.rebuilt (e.planned now) := by
  have htable : (e.purged now.instant).table = e.table := e.purged_table now.instant
  have hrebuilt := table_of_install (htable ▸ hkeyed) hnodup (pass_eq_ok h)
  rw [hrebuilt, htable]

theorem installed_of_pass (hkeyed : e.table.Keyed)
    (hnodup : ((e.planned now).map (·.id)).Nodup)
    (h : e.pass now reason = (.ok report, e')) :
    e'.installed = .ok (DirectiveTable.inOrder (e.planned now)) := by
  rcases changed_of_pass h with ⟨before, hinstalled, _⟩
  rcases installed_eq_ok hinstalled with ⟨houtage, hlisted⟩
  have htable := table_of_pass hkeyed hnodup h
  have hout : e'.outage.installed = false := by
    rw [pass_frame h]
    exact houtage
  have hpresent : e'.table.present = true := by
    rw [htable, DirectiveTable.rebuilt, DirectiveTable.filled_eq]
    exact (DirectiveTable.installed_eq_ok_iff.mp hlisted).1
  have hrows : e'.table.rows.entries =
      (DirectiveTable.inOrder (e.planned now)).map DirectiveTable.rowOf := by
    rw [htable]
    exact DirectiveTable.rebuilt_entries e.table hnodup
  unfold installed
  rw [hout]
  exact DirectiveTable.installed_of_entries hpresent hrows

end Settled

/-- Where the plan is installed and no override is to be dropped, a pass does nothing. -/
theorem pass_of_installed {e : Engine} {now : Moment} {listed : List Directive}
    (hpurged : e.purged now.instant = e) (hinstalled : e.installed = .ok listed)
    (hsame : ∀ d, d ∈ listed ↔ d ∈ e.planned now) (reason : String) :
    e.pass now reason = (.ok ⟨reason, (e.planned now).length, 0, 0⟩, e) := by
  have hdelta : Delta.between listed (e.planned now) = ⟨[], []⟩ := Delta.between_eq_empty hsame
  have hinstall : e.install (e.planned now) reason =
      .ok (⟨reason, (e.planned now).length, 0, 0⟩, e) := by
    simp only [install, hinstalled, bind, Except.bind, hdelta]
    rfl
  unfold pass
  simp only [wanted_eq_planned, hpurged, hinstall]

/-- A table never has more than one directive of a number, so none is listed twice. -/
theorem nodup_of_installed {e : Engine} {ds : List Directive} (hkeyed : e.table.Keyed)
    (h : e.installed = .ok ds) : ds.Nodup ∧ ds.length = e.table.rows.size := by
  have hrows := hkeyed.entries_eq (installed_eq_ok h).2
  constructor
  · refine (DirectiveTable.pairwise_of_entries hrows).imp ?_
    intro a b hlt heq
    exact UInt32.lt_irrefl _ (heq ▸ hlt)
  · unfold SortedMap.size
    rw [hrows, List.length_map]

/-! ## Passes rebuild -/

/--
A pass that does not fail leaves the plan, in the order of its numbers, as
clearing and rebuilding the table would.  What is listed and planned unchanged
takes no part in the change, the counts of the report add up, and another pass
at the same moment changes nothing.
-/
theorem pass_rebuilds {e e' : Engine} {now : Moment} {reason : String} {report : Report}
    (hkeyed : e.table.Keyed) (hrules : e.settings.rules.length < Directive.idCount)
    (h : e.pass now reason = (.ok report, e')) :
    let planned := e.settings.plan now e.suspendedRules e.interstitial
    e'.installed = .ok (planned.mergeSort fun a b => a.id ≤ b.id) ∧
      e'.table = e.table.rebuilt planned ∧
      (∃ before delta, e.installed = .ok before ∧ delta = Delta.between before planned ∧
        (if delta.isEmpty then e'.table = e.table
          else e.table.replace delta.remove delta.add = .ok e'.table) ∧
        (∀ d ∈ before, d ∈ planned → d.id ∉ delta.remove ∧ d ∉ delta.add) ∧
        report = ⟨reason, planned.length, delta.add.length, delta.remove.length⟩) ∧
      report.installed + report.removed = e.table.rows.size + report.added ∧
      report.removed ≤ e.table.rows.size ∧
      ∀ again, e'.pass now again = (.ok ⟨again, planned.length, 0, 0⟩, e') := by
  intro planned
  have hroom : (e.settings.rulesInForce now e.suspendedRules).length ≤ Directive.idCount :=
    Nat.le_of_lt (Nat.lt_of_le_of_lt Settings.length_rulesInForce_le hrules)
  have hnodup : (planned.map (·.id)).Nodup := Settings.plan_ids_nodup hroom
  have hinstalled := installed_of_pass hkeyed hnodup h
  rcases changed_of_pass h with ⟨before, hbefore, hreport, hchange⟩
  rcases nodup_of_installed hkeyed hbefore with ⟨hlisted, hsize⟩
  have hrows := hkeyed.entries_eq (installed_eq_ok hbefore).2
  refine ⟨hinstalled, table_of_pass hkeyed hnodup h, ?_, ?_, ?_, ?_⟩
  · refine ⟨before, _, hbefore, rfl, hchange, ?_, hreport⟩
    intro d hd hplanned
    constructor
    · intro hremove
      rcases Delta.mem_remove.mp hremove with ⟨gone, hgone, hnot, hid⟩
      exact hnot (DirectiveTable.eq_of_id hrows hgone hd hid ▸ hplanned)
    · intro hadd
      exact (Delta.mem_add.mp hadd).2 hd
  · rw [hreport, ← hsize]
    exact Delta.balance hlisted (List.Nodup.of_map _ hnodup)
  · rw [hreport, ← hsize]
    exact Delta.length_remove_le
  · intro again
    have hpurged : e'.purged now.instant = e' := by
      apply purged_eq_self (e := e)
      · rw [pass_frame h]
      · rw [pass_frame h]
    have hsame : ∀ d, d ∈ DirectiveTable.inOrder planned ↔ d ∈ e'.planned now := by
      intro d
      rw [planned_of_pass h]
      exact List.mem_mergeSort
    have hagain := pass_of_installed hpurged hinstalled hsame again
    rw [planned_of_pass h] at hagain
    exact hagain

/-! ## A sample -/

def finding (s : Settings) : Engine :=
  start ⟨.row (.saved s), .unconfigured, Store.defaultQuota⟩
    ⟨"http".toList, some ⟨[], none, some (.domain "blocked".toList), none⟩, .rooted [[]], none,
      none⟩ 60

def dawn : Moment := Moment.utc Instant.epoch

def oneHost : Settings :=
  { Settings.default with
    allowlistMode := true
    rules := [⟨"home", "[::1]", .exact, .hard, true, none, none⟩] }

def outOfStep : Engine :=
  { finding oneHost with
    table := DirectiveTable.empty.put 7 (.ok ⟨7, 10, .allow, Directive.hostCondition []⟩) }

theorem outOfStep_rebuilt :
    outOfStep.table.Keyed ∧
      (outOfStep.pass dawn "boot").1 = .ok ⟨"boot", 2, 2, 1⟩ ∧
      ∀ again, (outOfStep.pass dawn "boot").2.pass dawn again =
        (.ok ⟨again, 2, 0, 0⟩, (outOfStep.pass dawn "boot").2) := by
  have hkeyed : outOfStep.table.Keyed := by
    intro e he d hd
    obtain rfl : e = _ := List.mem_singleton.mp he
    cases hd
    rfl
  have hrules : outOfStep.settings.rules.length < Directive.idCount := by decide
  have hreport : (outOfStep.pass dawn "boot").1 = .ok ⟨"boot", 2, 2, 1⟩ := by
    rfl
  have hpass : outOfStep.pass dawn "boot" =
      (.ok ⟨"boot", 2, 2, 1⟩, (outOfStep.pass dawn "boot").2) :=
    Prod.ext hreport rfl
  rcases pass_rebuilds hkeyed hrules hpass with ⟨_, _, _, _, _, hagain⟩
  exact ⟨hkeyed, hreport, hagain⟩

end Engine
end SiteGuard
