import SiteGuard.Proofs.Engine.Command
import SiteGuard.Proofs.Plan.Judgement

/-!
# What becomes of navigations

Right after a pass, whether a page is let through is a matter of the stored rules
alone.  A page that an enforced rule catches never slips through; what happens
besides is due to directives that overshoot, and to addresses that do not begin
with their scheme.
-/

namespace SiteGuard

open Calendar Text

namespace Engine

/-! ## Outcomes -/

def Redirects (e : Engine) (o : Occasion) (url : String) : Prop :=
  ∃ id location, (e.run o (.navigate url)).result = .ok (.verdict (.redirect id location))

def Allows (e : Engine) (o : Occasion) (url : String) : Prop :=
  ∃ id, (e.run o (.navigate url)).result = .ok (.verdict (.allowed id))

def Proceeds (e : Engine) (o : Occasion) (url : String) : Prop :=
  (e.run o (.navigate url)).result = .ok (.verdict .proceed)

theorem run_navigate {e : Engine} {url : String} {u : Url} {ds : List Directive}
    (hparse : Url.parse url = .ok u) (hinstalled : e.installed = .ok ds) (o : Occasion) :
    (e.run o (.navigate url)).result = .ok (.verdict (Verdict.of ds url)) := by
  have hdecide : Command.decide o e (.navigate url) =
      .ok (.answer (.verdict (Verdict.of ds url))) := by
    simp only [Command.decide, Command.urlOf, hparse, hinstalled, bind, Except.bind]
  rw [run_of_decided hdecide]
  rfl

theorem run_findBlocker {e : Engine} {url : String} {u : Url}
    (hparse : Url.parse url = .ok u) (o : Occasion) :
    (e.run o (.findBlocker url)).result =
      .ok (.found (e.settings.rules.find? fun r => !r.allow && r.catches url)) := by
  have hdecide : Command.decide o e (.findBlocker url) =
      .ok (.answer (.found (e.settings.rules.find? fun r => !r.allow && r.catches url))) := by
    simp only [Command.decide, Command.urlOf, hparse, bind, Except.bind]
  rw [run_of_decided hdecide]
  rfl

theorem names_iff_found {e : Engine} {url : String} {u : Url}
    (hparse : Url.parse url = .ok u) (o : Occasion) :
    e.settings.Names false url ↔
      ∃ r, (e.run o (.findBlocker url)).result = .ok (.found (some r)) := by
  have hfound : (e.settings.rules.find? fun r => !r.allow && r.catches url).isSome = true ↔
      e.settings.Names false url := by
    rw [List.find?_isSome]
    simp [Settings.Names]
  rw [← hfound, Option.isSome_iff_exists]
  simp only [run_findBlocker hparse o, Except.ok.injEq, Reply.found.injEq]

section Outcomes

variable {e : Engine} {o : Occasion} {url : String} {v : Verdict}

theorem redirects_iff (h : (e.run o (.navigate url)).result = .ok (.verdict v)) :
    e.Redirects o url ↔ ∃ id location, v = .redirect id location := by
  unfold Redirects
  simp only [h, Except.ok.injEq, Reply.verdict.injEq]

theorem allows_iff (h : (e.run o (.navigate url)).result = .ok (.verdict v)) :
    e.Allows o url ↔ ∃ id, v = .allowed id := by
  unfold Allows
  simp only [h, Except.ok.injEq, Reply.verdict.injEq]

theorem proceeds_iff (h : (e.run o (.navigate url)).result = .ok (.verdict v)) :
    e.Proceeds o url ↔ v = .proceed := by
  unfold Proceeds
  simp only [h, Except.ok.injEq, Reply.verdict.injEq]

end Outcomes

/-! ## Samples -/

def loopbackRule (pattern : String) (allow : Bool) : Rule :=
  ⟨"loopback", pattern, .wildcard, .hard, allow, none, none⟩

def loopbackUrl : Url :=
  ⟨"http".toList, some ⟨[], none, some (.ipv6 ⟨[0, 0, 0, 0, 0, 0, 0, 1], rfl⟩), none⟩,
    .rooted [[]], none, none⟩

theorem parse_loopbackUrl : Url.parse "http://[::1]/" = .ok loopbackUrl := by
  rfl

/-- Settings with a rule alone; one that allows makes them an allowlist. -/
def onlyRule (r : Rule) : Settings :=
  { Settings.default with allowlistMode := r.allow, rules := [r] }

def atDawn : Occasion := ⟨dawn, "r_dawn", []⟩

/-- The engine right after its first pass on such settings. -/
def settled (r : Rule) : Engine :=
  ((finding (onlyRule r)).pass dawn "boot").2

/-! ## Tables in step -/

/-- The table holds what is planned for a moment. -/
def InStep (e : Engine) (now : Moment) : Prop :=
  ∃ ds, e.installed = .ok ds ∧ ∀ d, d ∈ ds ↔ d ∈ e.planned now

section InStep

variable {e : Engine} {now : Moment} {url : String} {u : Url}

theorem navigate_of_inStep (h : e.InStep now) (hparse : Url.parse url = .ok u) :
    ∃ ds, (∀ d, d ∈ ds ↔ d ∈ e.settings.plan now e.suspendedRules e.interstitial) ∧
      ∀ o, (e.run o (.navigate url)).result = .ok (.verdict (Verdict.of ds url)) := by
  rcases h with ⟨ds, hinstalled, hds⟩
  exact ⟨ds, hds, run_navigate hparse hinstalled⟩

theorem redirects_iff_of_inStep (h : e.InStep now) (hmode : e.settings.allowlistMode = false)
    (hparse : Url.parse url = .ok u) (hweb : u.IsWeb) (o : Occasion) :
    e.Redirects o url ↔ e.settings.enabled = true ∧
      ∃ r ∈ e.settings.blockingRules now e.suspendedRules,
        r.catches url = true ∨ r.overshoots url = true := by
  rcases navigate_of_inStep h hparse with ⟨ds, hds, hresult⟩
  rw [redirects_iff (hresult o)]
  cases henabled : e.settings.enabled with
  | false =>
      rw [Settings.proceed_of_disabled hds henabled]
      simp
  | true =>
      rw [Settings.redirect_iff_of_blocklist hds henabled hmode hparse hweb]
      simp

theorem allows_iff_of_inStep (h : e.InStep now) (hmode : e.settings.allowlistMode = true)
    (hparse : Url.parse url = .ok u) (hweb : u.IsWeb) (o : Occasion) :
    e.Allows o url ↔ e.settings.enabled = true ∧
      ∃ r ∈ e.settings.allowingRules e.suspendedRules,
        r.catches url = true ∨ r.overshoots url = true := by
  rcases navigate_of_inStep h hparse with ⟨ds, hds, hresult⟩
  rw [allows_iff (hresult o)]
  cases henabled : e.settings.enabled with
  | false =>
      rw [Settings.proceed_of_disabled hds henabled]
      simp
  | true =>
      rw [Settings.allowed_iff_of_allowlist hds henabled hmode hparse hweb]
      simp

end InStep

/-!
## Right after a pass

A pass starts from a table with keyed rows, since every command leaves such a
one.  It finds a number for each rule in force: with more of them than numbers,
the search for a free one would not end, and neither would the pass.
-/

section Passed

variable {before e : Engine} {now : Moment} {reason : String} {report : Report}
variable {url : String} {u : Url}

theorem inStep_of_pass (hkeyed : before.table.Keyed)
    (hpass : before.pass now reason = (.ok report, e))
    (hroom : (e.settings.rulesInForce now e.suspendedRules).length ≤ Directive.idCount) :
    e.InStep now := by
  have hplanned := planned_of_pass hpass
  have hnodup : ((before.planned now).map (·.id)).Nodup := by
    rw [← hplanned]
    exact Settings.plan_ids_nodup hroom
  have hinstalled := installed_of_pass hkeyed hnodup hpass
  rw [← hplanned] at hinstalled
  refine ⟨DirectiveTable.inOrder (e.planned now), hinstalled, ?_⟩
  intro d
  exact List.mem_mergeSort

theorem navigate_of_pass (hkeyed : before.table.Keyed)
    (hpass : before.pass now reason = (.ok report, e))
    (hroom : (e.settings.rulesInForce now e.suspendedRules).length ≤ Directive.idCount)
    (hparse : Url.parse url = .ok u) :
    ∃ ds, (∀ d, d ∈ ds ↔ d ∈ e.settings.plan now e.suspendedRules e.interstitial) ∧
      ∀ o, (e.run o (.navigate url)).result = .ok (.verdict (Verdict.of ds url)) :=
  navigate_of_inStep (inStep_of_pass hkeyed hpass hroom) hparse

/-! ## No page slips through -/

theorem redirects_of_catches (hkeyed : before.table.Keyed)
    (hpass : before.pass now reason = (.ok report, e))
    (hroom : (e.settings.rulesInForce now e.suspendedRules).length ≤ Directive.idCount)
    (henabled : e.settings.enabled = true) (hmode : e.settings.allowlistMode = false)
    {r : Rule} (hr : r ∈ e.settings.rules) (hblock : r.allow = false)
    (hactive : activeAt r.schedule now = true)
    (hbare : r.isShielded e.settings.overrides now.instant = false)
    (hkept : r.id ∉ e.suspendedRules) (hparse : Url.parse url = .ok u) (hweb : u.IsWeb)
    (hcatches : r.catches url = true) (o : Occasion) :
    ∃ id location, (e.run o (.navigate url)).result = .ok (.verdict (.redirect id location)) := by
  rcases navigate_of_pass hkeyed hpass hroom hparse with ⟨ds, hds, hresult⟩
  have hforce : r ∈ e.settings.blockingRules now e.suspendedRules :=
    Settings.mem_blockingRules.mpr ⟨hr, hblock, hkept, hactive, hbare⟩
  have hredirect := (Settings.redirect_iff_of_blocklist hds henabled hmode hparse hweb).mpr
    ⟨r, hforce, Or.inl hcatches⟩
  exact (redirects_iff (hresult o)).mpr hredirect

theorem loopback_redirected :
    (loopbackRule "[::1]" false).catches "http://[::1]/" = true ∧
      ∃ id location, ((settled (loopbackRule "[::1]" false)).run atDawn
        (.navigate "http://[::1]/")).result = .ok (.verdict (.redirect id location)) := by
  have hpass : (finding (onlyRule (loopbackRule "[::1]" false))).pass dawn "boot" =
      (.ok ⟨"boot", 1, 1, 0⟩, settled (loopbackRule "[::1]" false)) :=
    Prod.ext rfl rfl
  have hcatches : (loopbackRule "[::1]" false).catches "http://[::1]/" = true := by
    rfl
  have hredirect := redirects_of_catches (start_keyed _ _ _) hpass (by decide) rfl rfl
    (List.mem_singleton.mpr rfl) rfl rfl rfl (by decide) parse_loopbackUrl (by decide)
    hcatches atDawn
  exact ⟨hcatches, hredirect⟩

/-! ## How far enforcement reaches -/

theorem redirects_iff_reached (hkeyed : before.table.Keyed)
    (hpass : before.pass now reason = (.ok report, e))
    (hroom : (e.settings.rulesInForce now e.suspendedRules).length ≤ Directive.idCount)
    (hmode : e.settings.allowlistMode = false) (hparse : Url.parse url = .ok u)
    (hweb : u.IsWeb) (o : Occasion) :
    e.Redirects o url ↔ e.settings.enabled = true ∧
      ∃ r ∈ e.settings.blockingRules now e.suspendedRules,
        r.catches url = true ∨ r.overshoots url = true :=
  redirects_iff_of_inStep (inStep_of_pass hkeyed hpass hroom) hmode hparse hweb o

theorem allows_iff_reached (hkeyed : before.table.Keyed)
    (hpass : before.pass now reason = (.ok report, e))
    (hroom : (e.settings.rulesInForce now e.suspendedRules).length ≤ Directive.idCount)
    (hmode : e.settings.allowlistMode = true) (hparse : Url.parse url = .ok u)
    (hweb : u.IsWeb) (o : Occasion) :
    e.Allows o url ↔ e.settings.enabled = true ∧
      ∃ r ∈ e.settings.allowingRules e.suspendedRules,
        r.catches url = true ∨ r.overshoots url = true :=
  allows_iff_of_inStep (inStep_of_pass hkeyed hpass hroom) hmode hparse hweb o

/--
Enforcement reaches the pages that enforced rules catch, and those that they
overshoot to, which they never catch.  So a page that no rule names is redirected,
or allowed, only where some rule overshoots to it, and there it always is.
-/
theorem enforcement_reach (hkeyed : before.table.Keyed)
    (hpass : before.pass now reason = (.ok report, e))
    (hroom : (e.settings.rulesInForce now e.suspendedRules).length ≤ Directive.idCount)
    (hparse : Url.parse url = .ok u) (hweb : u.IsWeb) (o : Occasion) :
    (e.settings.allowlistMode = false →
      (e.Redirects o url ↔ e.settings.enabled = true ∧
        ∃ r ∈ e.settings.blockingRules now e.suspendedRules,
          r.catches url = true ∨ r.overshoots url = true) ∧
      ((e.Redirects o url → e.settings.Names false url) ↔
        (e.settings.enabled = true →
          (∃ r ∈ e.settings.blockingRules now e.suspendedRules, r.overshoots url = true) →
            e.settings.Names false url))) ∧
    (e.settings.allowlistMode = true →
      (e.Allows o url ↔ e.settings.enabled = true ∧
        ∃ r ∈ e.settings.allowingRules e.suspendedRules,
          r.catches url = true ∨ r.overshoots url = true) ∧
      ((e.Allows o url → e.settings.Names true url) ↔
        (e.settings.enabled = true →
          (∃ r ∈ e.settings.allowingRules e.suspendedRules, r.overshoots url = true) →
            e.settings.Names true url))) ∧
    (e.settings.Names false url ↔
      ∃ r, (e.run o (.findBlocker url)).result = .ok (.found (some r))) ∧
    ∀ r : Rule, r.overshoots url = true → r.catches url = false := by
  refine ⟨?_, ?_, names_iff_found hparse o, ?_⟩
  · intro hmode
    have hreached := redirects_iff_reached hkeyed hpass hroom hmode hparse hweb o
    refine ⟨hreached, Settings.names_of_reached_iff ?_ hreached⟩
    intro r hr
    have hforce := Settings.mem_blockingRules.mp hr
    exact ⟨hforce.1, hforce.2.1⟩
  · intro hmode
    have hreached := allows_iff_reached hkeyed hpass hroom hmode hparse hweb o
    refine ⟨hreached, Settings.names_of_reached_iff ?_ hreached⟩
    intro r hr
    have hforce := Settings.mem_allowingRules.mp hr
    exact ⟨hforce.1, hforce.2.1⟩
  · intro r hover
    exact Directive.catches_of_overshoots hparse hweb hover

theorem loopback_reached :
    (settled (loopbackRule "[::1]" false)).Redirects atDawn "http://[::1]/" ∧
      ∃ r, ((settled (loopbackRule "[::1]" false)).run atDawn
        (.findBlocker "http://[::1]/")).result = .ok (.found (some r)) := by
  have hpass : (finding (onlyRule (loopbackRule "[::1]" false))).pass dawn "boot" =
      (.ok ⟨"boot", 1, 1, 0⟩, settled (loopbackRule "[::1]" false)) :=
    Prod.ext rfl rfl
  rcases enforcement_reach (start_keyed _ _ _) hpass (by decide) parse_loopbackUrl (by decide)
    atDawn with ⟨hblocklist, _, hfound, _⟩
  rcases hblocklist rfl with ⟨hreached, _⟩
  have hforce : loopbackRule "[::1]" false ∈
      (settled (loopbackRule "[::1]" false)).settings.blockingRules dawn [] :=
    Settings.mem_blockingRules.mpr ⟨List.mem_singleton.mpr rfl, rfl, by decide, rfl, rfl⟩
  constructor
  · exact hreached.mpr ⟨rfl, _, hforce, Or.inl rfl⟩
  · exact hfound.mp ⟨loopbackRule "[::1]" false, List.mem_singleton.mpr rfl, rfl, rfl⟩

/-- A star stands for subdomains only, yet the bare host is redirected, by no rule at all. -/
theorem starred_redirects_bare_host :
    ((finding (onlyRule (loopbackRule "*.[::1]" false))).pass dawn "boot").1 =
        .ok ⟨"boot", 1, 1, 0⟩ ∧
      (settled (loopbackRule "*.[::1]" false)).settings.allowlistMode = false ∧
      Url.parse "http://[::1]/" = .ok loopbackUrl ∧ loopbackUrl.IsWeb ∧
      (settled (loopbackRule "*.[::1]" false)).Redirects atDawn "http://[::1]/" ∧
      ¬(settled (loopbackRule "*.[::1]" false)).settings.Names false "http://[::1]/" ∧
      ((settled (loopbackRule "*.[::1]" false)).run atDawn
        (.findBlocker "http://[::1]/")).result = .ok (.found none) := by
  have hpass : (finding (onlyRule (loopbackRule "*.[::1]" false))).pass dawn "boot" =
      (.ok ⟨"boot", 1, 1, 0⟩, settled (loopbackRule "*.[::1]" false)) :=
    Prod.ext rfl rfl
  have hweb : loopbackUrl.IsWeb := by decide
  have hforce : loopbackRule "*.[::1]" false ∈
      (settled (loopbackRule "*.[::1]" false)).settings.blockingRules dawn [] :=
    Settings.mem_blockingRules.mpr ⟨List.mem_singleton.mpr rfl, rfl, by decide, rfl, rfl⟩
  have hredirects := (redirects_iff_reached (start_keyed _ _ _) hpass (by decide) rfl
    parse_loopbackUrl hweb atDawn).mpr ⟨rfl, _, hforce, Or.inr rfl⟩
  have hunnamed : ¬(settled (loopbackRule "*.[::1]" false)).settings.Names false
      "http://[::1]/" := by
    rintro ⟨r, hr, _, hcatches⟩
    obtain rfl : r = loopbackRule "*.[::1]" false := List.mem_singleton.mp hr
    cases hcatches
  exact ⟨rfl, rfl, parse_loopbackUrl, hweb, hredirects, hunnamed,
    run_findBlocker parse_loopbackUrl atDawn⟩

/-! ## How far the allowlist holds -/

/--
In allowlist mode a page is allowed if a rule catches it, and else sent away,
unless the text of its address does not begin with the letters that are looked
for there.  Where nothing of the text is dropped in reading, it always does.
-/
theorem allowlist_reach (hkeyed : before.table.Keyed)
    (hpass : before.pass now reason = (.ok report, e))
    (hroom : (e.settings.rulesInForce now e.suspendedRules).length ≤ Directive.idCount)
    (henabled : e.settings.enabled = true) (hmode : e.settings.allowlistMode = true)
    (hkept : Directive.catchAllRule ∉ e.suspendedRules)
    (hparse : Url.parse url = .ok u) (hweb : u.IsWeb) (o : Occasion) :
    (∀ r ∈ e.settings.rules, r.allow = true → r.id ∉ e.suspendedRules →
      r.catches url = true → e.Allows o url) ∧
    (e.Allows o url ∨
      (∃ location, (e.run o (.navigate url)).result =
        .ok (.verdict (.redirect Directive.catchAllId location))) ∨
      e.Proceeds o url) ∧
    (e.Proceeds o url ↔
      "http".toList.isPrefixOf (lower url.toList) = false ∧
        ¬∃ r ∈ e.settings.allowingRules e.suspendedRules,
          r.catches url = true ∨ r.overshoots url = true) ∧
    (Url.clean url.toList = url.toList → ¬e.Proceeds o url) := by
  rcases navigate_of_pass hkeyed hpass hroom hparse with ⟨ds, hds, hresult⟩
  have hproceeds : e.Proceeds o url ↔
      "http".toList.isPrefixOf (lower url.toList) = false ∧
        ¬∃ r ∈ e.settings.allowingRules e.suspendedRules,
          r.catches url = true ∨ r.overshoots url = true := by
    rw [proceeds_iff (hresult o)]
    exact Settings.proceed_iff_of_allowlist hds henabled hmode hkept hparse hweb
  refine ⟨?_, ?_, hproceeds, ?_⟩
  · intro r hr hallow hsuspended hcatches
    have hforce : r ∈ e.settings.allowingRules e.suspendedRules :=
      Settings.mem_allowingRules.mpr ⟨hr, hallow, hsuspended⟩
    exact (allows_iff_reached hkeyed hpass hroom hmode hparse hweb o).mpr
      ⟨henabled, r, hforce, Or.inl hcatches⟩
  · rw [allows_iff (hresult o), proceeds_iff (hresult o)]
    simp only [hresult o, Except.ok.injEq, Reply.verdict.injEq]
    exact Settings.allowlist_cases hds henabled hmode
  · intro hclean hproceed
    have hprefix := hweb.http_prefix hparse
    rw [hclean, ← List.isPrefixOf_iff_prefix, (hproceeds.mp hproceed).1] at hprefix
    cases hprefix

theorem loopback_allowed :
    (settled (loopbackRule "[::1]" true)).Allows atDawn "http://[::1]/" ∧
      ¬(settled (loopbackRule "[::1]" true)).Proceeds atDawn "http://[::1]/" := by
  have hpass : (finding (onlyRule (loopbackRule "[::1]" true))).pass dawn "boot" =
      (.ok ⟨"boot", 2, 2, 0⟩, settled (loopbackRule "[::1]" true)) :=
    Prod.ext rfl rfl
  rcases allowlist_reach (start_keyed _ _ _) hpass (by decide) rfl rfl (by decide)
    parse_loopbackUrl (by decide) atDawn with ⟨hallowed, _, _, hclean⟩
  constructor
  · exact hallowed _ (List.mem_singleton.mpr rfl) rfl (by decide) rfl
  · exact hclean rfl

/-- A blank in front keeps a page from being caught, though it is read as one of the web. -/
theorem blank_in_front_proceeds :
    ((finding (onlyRule (loopbackRule "[::2]" true))).pass dawn "boot").1 =
        .ok ⟨"boot", 2, 2, 0⟩ ∧
      (settled (loopbackRule "[::2]" true)).settings.enabled = true ∧
      (settled (loopbackRule "[::2]" true)).settings.allowlistMode = true ∧
      Directive.catchAllRule ∉ (settled (loopbackRule "[::2]" true)).suspendedRules ∧
      Url.parse " http://[::1]/" = .ok loopbackUrl ∧ loopbackUrl.IsWeb ∧
      (settled (loopbackRule "[::2]" true)).Proceeds atDawn " http://[::1]/" := by
  have hweb : loopbackUrl.IsWeb := by decide
  have hproceeds : (settled (loopbackRule "[::2]" true)).Proceeds atDawn " http://[::1]/" := by
    rfl
  exact ⟨rfl, rfl, rfl, by decide, rfl, hweb, hproceeds⟩

end Passed

end Engine
end SiteGuard
