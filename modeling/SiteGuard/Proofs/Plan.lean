import SiteGuard.Plan
import SiteGuard.Proofs.Directive.Numbers
import SiteGuard.Proofs.SortedMap

/-!
# What is planned

A plan holds one directive for each rule in force, under numbers that differ,
and in allowlist mode the directive that catches everything.  Only the live
overrides count, so dropping the others changes no plan.
-/

namespace SiteGuard

open Calendar

/-! ## Overrides that have run out -/

theorem Overrides.live_live (o : Overrides) (now : Instant) :
    Overrides.live (Overrides.live o now) now = Overrides.live o now :=
  SortedMap.filter_filter o _

theorem Rule.isShielded_live (r : Rule) (o : Overrides) (now : Instant) :
    r.isShielded (Overrides.live o now) now = r.isShielded o now := by
  unfold Rule.isShielded
  rw [Overrides.live_live]

namespace Settings

theorem expiredCount_purged (s : Settings) (now : Instant) :
    (s.purged now).expiredCount now = 0 := by
  unfold expiredCount purged
  rw [Overrides.live_live, Nat.sub_self]

theorem blockingRules_purged (s : Settings) (now : Moment) (suspended : List String) :
    (s.purged now.instant).blockingRules now suspended = s.blockingRules now suspended := by
  unfold blockingRules purged
  simp only [Rule.isShielded_live]

theorem plan_purged (s : Settings) (now : Moment) (suspended : List String)
    (interstitial : Url) :
    (s.purged now.instant).plan now suspended interstitial =
      s.plan now suspended interstitial := by
  unfold plan
  rw [blockingRules_purged]
  rfl

/-! ## Rules in force -/

section Force

variable {s : Settings} {now : Moment} {suspended : List String} {interstitial : Url}

theorem mem_blockingRules {r : Rule} :
    r ∈ s.blockingRules now suspended ↔
      r ∈ s.rules ∧ r.allow = false ∧ r.id ∉ suspended ∧ activeAt r.schedule now = true ∧
        r.isShielded s.overrides now.instant = false := by
  unfold blockingRules
  rw [List.mem_filter]
  simp [and_assoc]

theorem mem_allowingRules {r : Rule} :
    r ∈ s.allowingRules suspended ↔ r ∈ s.rules ∧ r.allow = true ∧ r.id ∉ suspended := by
  unfold allowingRules
  rw [List.mem_filter]
  simp

def rulesInForce (s : Settings) (now : Moment) (suspended : List String) : List Rule :=
  if !s.enabled then []
  else if s.allowlistMode then s.allowingRules suspended
  else s.blockingRules now suspended

theorem length_rulesInForce_le :
    (s.rulesInForce now suspended).length ≤ s.rules.length := by
  unfold rulesInForce
  split
  · exact Nat.zero_le _
  · split
    · exact List.length_filter_le _ _
    · exact List.length_filter_le _ _

theorem plan_blocklist (henabled : s.enabled = true) (hmode : s.allowlistMode = false) :
    s.plan now suspended interstitial =
      Directive.ofRules interstitial Directive.blocklistPriority []
        (s.blockingRules now suspended) := by
  simp [plan, henabled, hmode]

/-- What catches the pages that no rule allows; nothing, where that is suspended. -/
def caughtAll (suspended : List String) (interstitial : Url) : List Directive :=
  if suspended.contains Directive.catchAllRule then [] else [Directive.catchAll interstitial]

theorem mem_caughtAll {d : Directive} :
    d ∈ caughtAll suspended interstitial ↔
      d = Directive.catchAll interstitial ∧ Directive.catchAllRule ∉ suspended := by
  unfold caughtAll
  split <;> simp_all

theorem plan_allowlist (henabled : s.enabled = true) (hmode : s.allowlistMode = true) :
    s.plan now suspended interstitial =
      caughtAll suspended interstitial ++
        Directive.ofRules interstitial Directive.allowlistPriority
          ((caughtAll suspended interstitial).map (·.id)) (s.allowingRules suspended) := by
  simp [plan, caughtAll, henabled, hmode]

theorem plan_disabled (henabled : s.enabled = false) :
    s.plan now suspended interstitial = [] := by
  simp [plan, henabled]

theorem exists_rule_of_mem_blocklist (henabled : s.enabled = true)
    (hmode : s.allowlistMode = false) {d : Directive}
    (h : d ∈ s.plan now suspended interstitial) :
    ∃ r ∈ s.blockingRules now suspended,
      Directive.SameButId (Directive.ofRule interstitial Directive.blocklistPriority r) d := by
  rw [plan_blocklist henabled hmode] at h
  exact Directive.exists_rule_of_mem_ofRules h

theorem exists_mem_blocklist_of_rule (henabled : s.enabled = true)
    (hmode : s.allowlistMode = false) {r : Rule} (h : r ∈ s.blockingRules now suspended) :
    ∃ d ∈ s.plan now suspended interstitial,
      Directive.SameButId (Directive.ofRule interstitial Directive.blocklistPriority r) d := by
  rw [plan_blocklist henabled hmode]
  exact Directive.exists_mem_ofRules_of_rule h

theorem mem_allowlist_cases (henabled : s.enabled = true) (hmode : s.allowlistMode = true)
    {d : Directive} (h : d ∈ s.plan now suspended interstitial) :
    d = Directive.catchAll interstitial ∨
      ∃ r ∈ s.allowingRules suspended,
        Directive.SameButId (Directive.ofRule interstitial Directive.allowlistPriority r) d := by
  rw [plan_allowlist henabled hmode] at h
  rcases List.mem_append.mp h with hcaught | hrule
  · exact Or.inl (mem_caughtAll.mp hcaught).1
  · exact Or.inr (Directive.exists_rule_of_mem_ofRules hrule)

theorem catchAll_mem_allowlist (henabled : s.enabled = true) (hmode : s.allowlistMode = true)
    (hkept : Directive.catchAllRule ∉ suspended) :
    Directive.catchAll interstitial ∈ s.plan now suspended interstitial := by
  rw [plan_allowlist henabled hmode]
  exact List.mem_append_left _ (mem_caughtAll.mpr ⟨rfl, hkept⟩)

theorem exists_mem_allowlist_of_rule (henabled : s.enabled = true)
    (hmode : s.allowlistMode = true) {r : Rule} (h : r ∈ s.allowingRules suspended) :
    ∃ d ∈ s.plan now suspended interstitial,
      Directive.SameButId (Directive.ofRule interstitial Directive.allowlistPriority r) d := by
  obtain ⟨d, hd, hsame⟩ :=
    @Directive.exists_mem_ofRules_of_rule interstitial Directive.allowlistPriority
      ((caughtAll suspended interstitial).map (·.id)) _ _ h
  rw [plan_allowlist henabled hmode]
  exact ⟨d, List.mem_append_right _ hd, hsame⟩

/-- A plan has nothing in it but what catches everything and directives of rules. -/
theorem mem_plan_cases {d : Directive} (h : d ∈ s.plan now suspended interstitial) :
    d = Directive.catchAll interstitial ∨
      ∃ r ∈ s.rules, ∃ priority,
        Directive.SameButId (Directive.ofRule interstitial priority r) d := by
  cases henabled : s.enabled with
  | false =>
      rw [plan_disabled henabled] at h
      cases h
  | true =>
      cases hmode : s.allowlistMode with
      | false =>
          rcases exists_rule_of_mem_blocklist henabled hmode h with ⟨r, hr, hsame⟩
          exact Or.inr ⟨r, (mem_blockingRules.mp hr).1, _, hsame⟩
      | true =>
          rcases mem_allowlist_cases henabled hmode h with hcaught | ⟨r, hr, hsame⟩
          · exact Or.inl hcaught
          · exact Or.inr ⟨r, (mem_allowingRules.mp hr).1, _, hsame⟩

/-! ## Distinct numbers -/

theorem usedIds_caughtAll :
    Directive.usedIds ((caughtAll suspended interstitial).map (·.id)) = ∅ := by
  unfold caughtAll
  split
  · rfl
  · exact Finset.filter_eq_empty_iff.mpr fun id hid hrule =>
      hrule.ne_catchAllId (List.mem_singleton.mp (List.mem_toFinset.mp hid))

theorem plan_ids_nodup
    (hroom : (s.rulesInForce now suspended).length ≤ Directive.idCount) :
    ((s.plan now suspended interstitial).map (·.id)).Nodup := by
  unfold rulesInForce at hroom
  cases henabled : s.enabled with
  | false =>
      rw [plan_disabled henabled]
      exact List.nodup_nil
  | true =>
      cases hmode : s.allowlistMode with
      | false =>
          rw [plan_blocklist henabled hmode]
          refine (Directive.ofRules_ids ?_).1
          have hnone : (Directive.usedIds []).card = 0 := rfl
          simpa [henabled, hmode, hnone] using hroom
      | true =>
          have hroom' : (Directive.usedIds ((caughtAll suspended interstitial).map (·.id))).card +
              (s.allowingRules suspended).length ≤ Directive.idCount := by
            simpa [henabled, hmode, usedIds_caughtAll] using hroom
          obtain ⟨hnodup, hfresh⟩ :=
            @Directive.ofRules_ids interstitial Directive.allowlistPriority _ _ hroom'
          rw [plan_allowlist henabled hmode, List.map_append, List.nodup_append']
          refine ⟨?_, hnodup, ?_⟩
          · unfold caughtAll
            split
            · exact List.nodup_nil
            · exact List.nodup_singleton _
          · intro id hid hid'
            rcases List.mem_map.mp hid' with ⟨d, hd, rfl⟩
            exact (hfresh d hd).2 hid

end Force

end Settings
end SiteGuard
