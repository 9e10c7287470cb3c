import SiteGuard.Proofs.Directive.Reach
import SiteGuard.Proofs.Directive.Verdict
import SiteGuard.Proofs.Plan

/-!
# Pages under a plan

What becomes of a page under the directives of a plan, told by the rules that
the plan is made from.  The order of the directives and their numbers have no
part in it.
-/

namespace SiteGuard

open Calendar Text

/-! ## Directives of rules -/

namespace Directive

section OfRule

variable {interstitial : Url} {priority : UInt32} {r : Rule} {d : Directive}
variable {url : String} {u : Url}

theorem isAllow_of_rule (h : SameButId (ofRule interstitial priority r) d) :
    d.action.isAllow = r.allow := by
  rw [h.action]
  unfold ofRule
  cases r.allow <;> rfl

theorem holds_of_rule_iff (h : SameButId (ofRule interstitial priority r) d)
    (hparse : Url.parse url = .ok u) (hweb : u.IsWeb) :
    d.condition.holds url = true ↔ r.catches url = true ∨ r.overshoots url = true := by
  have hcondition : d.condition = conditionOf r := h.condition
  rw [hcondition, holds_conditionOf hparse hweb, Bool.or_eq_true]

/-- What catches everything asks for the beginning of the text, and not for the scheme. -/
theorem holds_catchAll (interstitial : Url) (url : String) :
    (catchAll interstitial).condition.holds url =
      "http".toList.isPrefixOf (lower url.toList) :=
  rfl

end OfRule

end Directive

/-! ## Judging by a plan -/

namespace Settings

section Judging

variable {s : Settings} {now : Moment} {suspended : List String} {interstitial : Url}
variable {ds : List Directive} {url : String} {u : Url}

theorem proceed_of_disabled (hds : ∀ d, d ∈ ds ↔ d ∈ s.plan now suspended interstitial)
    (hdisabled : s.enabled = false) : Verdict.of ds url = .proceed := by
  apply Verdict.of_eq_proceed_iff.mpr
  intro d hd
  have hmem := (hds d).mp hd
  rw [plan_disabled hdisabled] at hmem
  cases hmem

theorem redirect_iff_of_blocklist
    (hds : ∀ d, d ∈ ds ↔ d ∈ s.plan now suspended interstitial)
    (henabled : s.enabled = true) (hmode : s.allowlistMode = false)
    (hparse : Url.parse url = .ok u) (hweb : u.IsWeb) :
    (∃ id location, Verdict.of ds url = .redirect id location) ↔
      ∃ r ∈ s.blockingRules now suspended, r.catches url = true ∨ r.overshoots url = true := by
  constructor
  · rintro ⟨id, location, hverdict⟩
    rcases Verdict.of_cases ds url with ⟨hproceed, _⟩ | ⟨w, hw, _⟩
    · rw [hproceed] at hverdict
      cases hverdict
    · rcases exists_rule_of_mem_blocklist henabled hmode ((hds w).mp hw.mem) with
        ⟨r, hr, hsame⟩
      exact ⟨r, hr, (Directive.holds_of_rule_iff hsame hparse hweb).mp hw.holds⟩
  · rintro ⟨r, hr, hreached⟩
    rcases @exists_mem_blocklist_of_rule s now suspended interstitial henabled hmode r hr with
      ⟨d, hd, hsame⟩
    have hholds := (Directive.holds_of_rule_iff hsame hparse hweb).mpr hreached
    rcases Verdict.exists_decides ((hds d).mpr hd) hholds with ⟨w, hw, hjudged⟩
    rcases exists_rule_of_mem_blocklist henabled hmode ((hds w).mp hw.mem) with
      ⟨r', hr', hsame'⟩
    have hblock : w.action.isAllow = false := by
      rw [Directive.isAllow_of_rule hsame']
      exact (mem_blockingRules.mp hr').2.1
    have hredirect : ∃ location, w.verdict url = .redirect w.id location :=
      Verdict.verdict_of_block hblock
    rcases hredirect with ⟨location, hredirect⟩
    exact ⟨w.id, location, hjudged.trans hredirect⟩

theorem allowed_of_rule {w : Directive} {r : Rule} (hr : r ∈ s.allowingRules suspended)
    (hsame : Directive.SameButId
      (Directive.ofRule interstitial Directive.allowlistPriority r) w) :
    w.verdict url = .allowed w.id := by
  apply Verdict.verdict_of_allow
  rw [Directive.isAllow_of_rule hsame]
  exact (mem_allowingRules.mp hr).2.1

theorem allowed_iff_of_allowlist
    (hds : ∀ d, d ∈ ds ↔ d ∈ s.plan now suspended interstitial)
    (henabled : s.enabled = true) (hmode : s.allowlistMode = true)
    (hparse : Url.parse url = .ok u) (hweb : u.IsWeb) :
    (∃ id, Verdict.of ds url = .allowed id) ↔
      ∃ r ∈ s.allowingRules suspended, r.catches url = true ∨ r.overshoots url = true := by
  constructor
  · rintro ⟨id, hverdict⟩
    rcases Verdict.of_cases ds url with ⟨hproceed, _⟩ | ⟨w, hw, hjudged⟩
    · rw [hproceed] at hverdict
      cases hverdict
    · rcases mem_allowlist_cases henabled hmode ((hds w).mp hw.mem) with rfl | ⟨r, hr, hsame⟩
      · rw [hjudged] at hverdict
        cases hverdict
      · exact ⟨r, hr, (Directive.holds_of_rule_iff hsame hparse hweb).mp hw.holds⟩
  · rintro ⟨r, hr, hreached⟩
    rcases @exists_mem_allowlist_of_rule s now suspended interstitial henabled hmode r hr with
      ⟨d, hd, hsame⟩
    have hholds := (Directive.holds_of_rule_iff hsame hparse hweb).mpr hreached
    rcases Verdict.exists_decides ((hds d).mpr hd) hholds with ⟨w, hw, hjudged⟩
    rcases mem_allowlist_cases henabled hmode ((hds w).mp hw.mem) with rfl | ⟨r', hr', hsame'⟩
    · have hstrength := Directive.priority_le_of_yieldsTo
        (hw.strongest d ((hds d).mpr hd) hholds)
      rw [hsame.priority] at hstrength
      have hless : Directive.allowlistPriority ≤ Directive.catchAllPriority := hstrength
      exact absurd hless (by decide)
    · exact ⟨w.id, hjudged.trans (allowed_of_rule hr' hsame')⟩

theorem allowlist_cases (hds : ∀ d, d ∈ ds ↔ d ∈ s.plan now suspended interstitial)
    (henabled : s.enabled = true) (hmode : s.allowlistMode = true) :
    (∃ id, Verdict.of ds url = .allowed id) ∨
      (∃ location, Verdict.of ds url = .redirect Directive.catchAllId location) ∨
      Verdict.of ds url = .proceed := by
  rcases Verdict.of_cases ds url with ⟨hproceed, _⟩ | ⟨w, hw, hjudged⟩
  · exact Or.inr (Or.inr hproceed)
  · rcases mem_allowlist_cases henabled hmode ((hds w).mp hw.mem) with rfl | ⟨r, hr, hsame⟩
    · exact Or.inr (Or.inl ⟨_, hjudged⟩)
    · exact Or.inl ⟨w.id, hjudged.trans (allowed_of_rule hr hsame)⟩

theorem proceed_iff_of_allowlist
    (hds : ∀ d, d ∈ ds ↔ d ∈ s.plan now suspended interstitial)
    (henabled : s.enabled = true) (hmode : s.allowlistMode = true)
    (hkept : Directive.catchAllRule ∉ suspended)
    (hparse : Url.parse url = .ok u) (hweb : u.IsWeb) :
    Verdict.of ds url = .proceed ↔
      "http".toList.isPrefixOf (lower url.toList) = false ∧
        ¬∃ r ∈ s.allowingRules suspended, r.catches url = true ∨ r.overshoots url = true := by
  rw [Verdict.of_eq_proceed_iff, ← Directive.holds_catchAll interstitial]
  constructor
  · intro hnone
    constructor
    · exact hnone _ ((hds _).mpr (catchAll_mem_allowlist henabled hmode hkept))
    · rintro ⟨r, hr, hreached⟩
      rcases @exists_mem_allowlist_of_rule s now suspended interstitial henabled hmode r hr with
        ⟨d, hd, hsame⟩
      have hholds := (Directive.holds_of_rule_iff hsame hparse hweb).mpr hreached
      rw [hnone d ((hds d).mpr hd)] at hholds
      cases hholds
  · rintro ⟨hhttp, hnone⟩ d hd
    rcases mem_allowlist_cases henabled hmode ((hds d).mp hd) with rfl | ⟨r, hr, hsame⟩
    · exact hhttp
    · apply eq_false_of_ne_true
      intro hholds
      exact hnone ⟨r, hr, (Directive.holds_of_rule_iff hsame hparse hweb).mp hholds⟩

/-- Whether a page is caught by one of the rules that block, or that allow. -/
def Names (s : Settings) (allow : Bool) (url : String) : Prop :=
  ∃ r ∈ s.rules, r.allow = allow ∧ r.catches url = true

theorem names_of_reached_iff {allow : Bool} {rules : List Rule} {p enabled : Prop}
    (hrules : ∀ r ∈ rules, r ∈ s.rules ∧ r.allow = allow)
    (hreached : p ↔ enabled ∧ ∃ r ∈ rules, r.catches url = true ∨ r.overshoots url = true) :
    (p → s.Names allow url) ↔
      (enabled → (∃ r ∈ rules, r.overshoots url = true) → s.Names allow url) := by
  constructor
  · rintro hnames henabled ⟨r, hr, hover⟩
    exact hnames (hreached.mpr ⟨henabled, r, hr, Or.inr hover⟩)
  · intro hnames hp
    rcases hreached.mp hp with ⟨henabled, r, hr, hcatches | hover⟩
    · exact ⟨r, (hrules r hr).1, (hrules r hr).2, hcatches⟩
    · exact hnames henabled ⟨r, hr, hover⟩

end Judging

end Settings

end SiteGuard
