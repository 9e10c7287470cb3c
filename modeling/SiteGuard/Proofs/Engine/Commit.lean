import SiteGuard.Proofs.Enforcement
import SiteGuard.Proofs.Engine.Saving
import SiteGuard.Proofs.Json.Size
import SiteGuard.Proofs.Store.Medium

/-!
# What a command that saves leaves

The pass behind a save drops the overrides that have run out, for which there is room
where the settings have just been taken.  So right after it the engine has what was
saved, without those overrides, and the table is rebuilt from the plan of that.
-/

namespace SiteGuard

open Calendar

/-! ## Dropping overrides -/

namespace Settings

variable {s : Settings}

theorem size_purged_le (s : Settings) (now : Instant) :
    (Document.saved (s.purged now)).size ≤ (Document.saved s).size := by
  have hfewer : (Json.toJson (s.overrides.live now)).size ≤ (Json.toJson s.overrides).size := by
    have hsublist : (s.overrides.live now).entries.Sublist s.overrides.entries :=
      List.filter_sublist
    exact Json.size_object_of_sublist (hsublist.map _)
  have hparts : (Document.saved (s.purged now)).size + (Json.toJson s.overrides).size =
      (Document.saved s).size + (Json.toJson (s.overrides.live now)).size :=
    Json.size_exchange (s.members.take 7) [] "overrides" (Json.toJson (s.overrides.live now))
      (Json.toJson s.overrides)
  omega

theorem purged_of_expiredCount {now : Instant} (h : s.expiredCount now = 0) :
    s.purged now = s := by
  have hlength : s.overrides.entries.length ≤ (s.overrides.live now).entries.length :=
    Nat.sub_eq_zero_iff_le.mp h
  have hall : s.overrides.live now = s.overrides := by
    apply SortedMap.ext_mem
    intro e
    have hsame : (s.overrides.live now).entries = s.overrides.entries :=
      List.filter_sublist.eq_of_length_le hlength
    rw [hsame]
  unfold purged
  rw [hall]

end Settings

/-! ## Commands that save -/

namespace Engine

variable {e e' : Engine}

theorem settings_purged_of_saved {s : Settings} (hsaved : e.saved s = .ok e') (now : Instant) :
    (e'.purged now).settings = s.purged now := by
  have hsettings := (saved_eq_ok hsaved).2
  by_cases hnone : s.expiredCount now = 0
  · have hkept : e'.purged now = e' := if_pos (hsettings ▸ hnone)
    rw [hkept, hsettings, Settings.purged_of_expiredCount hnone]
  · rcases store_of_saved hsaved with ⟨hout, hstore⟩
    rcases Store.save_again hstore (s.size_purged_le now) with ⟨store, hstore⟩
    have hout' : e'.outage.save = false := by
      rw [(saved_eq_ok hsaved).1]
      exact hout
    have hagain := saved_of_store hout' hstore
    have hpurged : e'.purged now = { e' with store } := by
      unfold purged
      rw [hsettings, if_neg hnone, hagain]
    rw [hpurged, (saved_eq_ok hagain).2]

/-- The engine right after some settings have been saved, and a pass. -/
structure Committed (e : Engine) (now : Moment) (s : Settings) (suspended : List Suspension)
    (e' : Engine) : Prop where
  settings : e'.settings = s.purged now.instant
  suspended : e'.suspended = suspended
  interstitial : e'.interstitial = e.interstitial
  table : e'.table = e.table.rebuilt (e'.planned now)
  installed : e'.installed = .ok (DirectiveTable.inOrder (e'.planned now))

theorem committed_of_run {o : Occasion} {c : Command} {s : Settings}
    {suspended : List Suspension} {reason : String} {reply r : Reply} (hkeyed : e.table.Keyed)
    (hroom : s.rules.length ≤ Directive.idCount)
    (hdecide : c.decide o e = .ok (Command.commit s suspended reason reply))
    (hok : (e.run o c).result = .ok r) :
    e.Committed o.now s suspended (e.run o c).engine := by
  rcases saved_of_commit hdecide hok with ⟨after, report, hsaved, _, hpass⟩
  have hbefore : (e.withSuspended suspended).saved s = .ok (after.withSuspended suspended) := by
    rw [saved_withSuspended, hsaved]
    rfl
  have hheld : (after.withSuspended suspended).suspended = suspended := rfl
  generalize after.withSuspended suspended = before at hbefore hheld hpass
  rcases saved_eq_ok hbefore with ⟨hframe, hsettings⟩
  have htable : before.table = e.table := (saved_table hbefore).trans rfl
  have hnodup : ((before.planned o.now).map (·.id)).Nodup := by
    have hrules : before.settings.rules.length ≤ Directive.idCount := by
      rw [hsettings]
      exact hroom
    exact Settings.plan_ids_nodup (Nat.le_trans Settings.length_rulesInForce_le hrules)
  constructor
  · have hstored :
        (e.run o c).engine.settings = (before.purged o.now.instant).settings := by
      rw [pass_frame hpass]
      rfl
    rw [hstored, settings_purged_of_saved hbefore]
  · rw [pass_frame hpass]
    exact hheld
  · rw [pass_frame hpass, hframe]
    rfl
  · rw [table_of_pass (htable ▸ hkeyed) hnodup hpass, planned_of_pass hpass, htable]
  · rw [installed_of_pass (htable ▸ hkeyed) hnodup hpass, planned_of_pass hpass]

theorem Committed.inStep {now : Moment} {s : Settings} {suspended : List Suspension}
    (h : e.Committed now s suspended e') : e'.InStep now :=
  ⟨_, h.installed, fun _ => List.mem_mergeSort⟩

end Engine
end SiteGuard
