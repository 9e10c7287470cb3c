import SiteGuard.Proofs.Engine.Commit
import SiteGuard.Proofs.Engine.Validity
import SiteGuard.Proofs.Plan.Exemptions

/-!
# Blocking a site

A site is blocked by a new rule for its host, unless some rule blocks that host already.
The new rule has no schedule, and the pass behind it puts it in force.  A rule that was
there may have one, and is returned without a pass, so the page is redirected only where
that rule or another one was in force when the table was last brought in step.
-/

namespace SiteGuard

open Calendar Text

/-! ## Rules for a host -/

/-- The rules that count as blocking a host; their schedule is not asked for. -/
structure Rule.IsForSite (r : Rule) (host : String) : Prop where
  kind : r.kind = .wildcard
  allow : r.allow = false
  pattern : lower r.pattern.toList = lower host.toList

def Settings.HasSite (s : Settings) (host : String) : Prop :=
  ∃ r ∈ s.rules, r.IsForSite host

namespace Rule

variable {r : Rule} {url host : String} {u : Url}

theorem catchesHost_self {host : List Char} (htext : Url.IsHostText host) {pattern : List Char}
    (hpattern : lower pattern = host) (hbare : ∀ c ∈ host, isBlank c = false) :
    HostPattern.catchesHost pattern host = true := by
  have htrim : trim pattern = pattern := by
    apply trim_eq_self
    apply trimmed_of_all
    intro c hc
    rw [← isBlank_toLower]
    apply hbare
    rw [← hpattern]
    exact List.mem_map_of_mem hc
  unfold HostPattern.catchesHost
  dsimp only
  rw [htrim, hpattern, htext.lower]
  cases hstar : stripStart HostPattern.star host with
  | none =>
      exact Bool.or_eq_true_iff.mpr (Or.inl (beq_self_eq_true host))
  | some base =>
      have hhost : host = HostPattern.star ++ base := stripStart_eq_some_iff.mp hstar
      rw [hhost]
      exact HostPattern.isBelow_iff.mpr ⟨['*'], rfl⟩

theorem IsForSite.catches (h : r.IsForSite host) (hparse : Url.parse url = .ok u)
    (hweb : u.IsWeb) (hhost : u.host? = some host) : r.catches url = true := by
  have htext : Url.IsHostText host.toList := by
    rcases hweb.exists_host hparse with ⟨found, hfound, htext⟩
    cases hhost.symm.trans hfound
    exact htext
  have hbare : ∀ c ∈ host.toList, isBlank c = false := by
    rcases Option.map_eq_some_iff.mp hhost with ⟨found, hfound, rfl⟩
    rw [String.toList_ofList]
    exact (Url.hostOf_parseChars hparse hfound).not_blank
  have hpattern : lower r.pattern.toList = host.toList := by
    rw [h.pattern, htext.lower]
  unfold Rule.catches
  simp only [hparse, h.kind, hhost]
  exact catchesHost_self htext hpattern hbare

end Rule

/-! ## Decisions -/

namespace Command

variable {o : Occasion} {e : Engine} {url host : String} {u : Url}

def siteRule (o : Occasion) (s : Settings) (host : String) : Rule :=
  ⟨o.freshRuleId, String.ofList (lower host.toList), .wildcard, s.defaultBlockMode, false, none,
    some siteNote⟩

theorem siteRule_isForSite (o : Occasion) (s : Settings) (host : String) :
    (siteRule o s host).IsForSite host := by
  refine ⟨rfl, rfl, ?_⟩
  show lower (String.ofList (lower host.toList)).toList = lower host.toList
  rw [String.toList_ofList, lower_lower]

theorem isForSite_iff {r : Rule} :
    (r.kind == .wildcard && !r.allow &&
      lower r.pattern.toList == lower (String.ofList (lower host.toList)).toList) = true ↔
    r.IsForSite host := by
  rw [String.toList_ofList, lower_lower]
  simp only [Bool.and_eq_true, beq_iff_eq, Bool.not_eq_true']
  exact ⟨fun h => ⟨h.1.1, h.1.2, h.2⟩, fun h => ⟨⟨h.kind, h.allow⟩, h.pattern⟩⟩

theorem decideSite_cases (o : Occasion) (e : Engine) (hparse : Url.parse url = .ok u)
    (hhost : u.host? = some host) :
    (∃ rule ∈ e.settings.rules, rule.IsForSite host ∧
      decideSite o e url = .ok (.answer (.rule rule))) ∨
    (¬e.settings.HasSite host ∧
      decideSite o e url = .ok (commit
        { e.settings with rules := e.settings.rules ++ [siteRule o e.settings host] } e.suspended
        "addCurrentSite" (.rule (siteRule o e.settings host)))) := by
  have hread : urlOf url = .ok u := by
    unfold urlOf
    rw [hparse]
  unfold decideSite
  rw [hread]
  simp only [bind, Except.bind, hhost]
  split
  · rename_i rule hknown
    have hsite := List.find?_some hknown
    exact Or.inl ⟨rule, List.mem_of_find?_eq_some hknown, isForSite_iff.mp hsite, rfl⟩
  · rename_i hnone
    refine Or.inr ⟨?_, rfl⟩
    intro hknown
    rcases hknown with ⟨rule, hrule, hsite⟩
    exact List.find?_eq_none.mp hnone rule hrule (isForSite_iff.mpr hsite)

end Command

/-! ## Blocking -/

namespace Engine

variable {e : Engine} {o : Occasion} {url : String} {u : Url} {reply : Reply}

theorem not_isShielded {overrides : Overrides} {now : Instant}
    (h : ∀ host, ¬overrides.Frees now host) (r : Rule) : r.isShielded overrides now = false := by
  rw [← Bool.not_eq_true, Rule.isShielded_iff]
  intro hshielded
  rcases hshielded with ⟨key, _, hfrees⟩ | ⟨host, hfrees, _⟩
  · exact h key hfrees
  · exact h host hfrees

section Blocking

variable {host : String}

/-- A site that is blocked already is answered with its rule, and nothing else is done. -/
theorem run_known_site (o : Occasion) (hparse : Url.parse url = .ok u)
    (hhost : u.host? = some host) (hknown : e.settings.HasSite host) :
    ∃ r ∈ e.settings.rules, r.IsForSite host ∧
      e.run o (.blockSite url) = ⟨.ok (.rule r), e, false⟩ := by
  rcases Command.decideSite_cases o e hparse hhost with ⟨r, hr, hsite, hdecide⟩ | ⟨hnew, _⟩
  · refine ⟨r, hr, hsite, ?_⟩
    have hanswer : Command.decide o e (.blockSite url) = .ok (.answer (.rule r)) := hdecide
    rw [run_of_decided hanswer]
    rfl
  · exact absurd hknown hnew

/-- The rule for a site that is not blocked yet is in force right after it has been added. -/
theorem run_new_site (hkeyed : e.table.Keyed)
    (hroom : e.settings.rules.length < Directive.idCount)
    (hbare : ∀ host, ¬e.settings.overrides.Frees o.now.instant host)
    (hfree : e.suspendedRules = []) (hparse : Url.parse url = .ok u)
    (hhost : u.host? = some host) (hnew : ¬e.settings.HasSite host)
    (hok : (e.run o (.blockSite url)).result = .ok reply) :
    let after := (e.run o (.blockSite url)).engine
    let r := Command.siteRule o e.settings host
    reply = .rule r ∧ after.InStep o.now ∧ r ∈ after.settings.rules ∧
      after.settings.enabled = e.settings.enabled ∧
      after.settings.allowlistMode = e.settings.allowlistMode ∧
      r ∈ after.settings.blockingRules o.now after.suspendedRules := by
  intro after r
  rcases Command.decideSite_cases o e hparse hhost with ⟨r, hr, hsite, _⟩ | ⟨_, hdecide⟩
  · exact absurd ⟨r, hr, hsite⟩ hnew
  have hcommit : Command.decide o e (.blockSite url) = .ok (Command.commit
      { e.settings with rules := e.settings.rules ++ [r] } e.suspended "addCurrentSite"
      (.rule r)) := hdecide
  have hlength : (e.settings.rules ++ [r]).length ≤ Directive.idCount := by
    rw [List.length_append]
    exact hroom
  have hcommitted := committed_of_run hkeyed hlength hcommit hok
  rcases saved_of_commit hcommit hok with ⟨_, _, _, hreply, _⟩
  have hstays : after.suspendedRules = [] := by
    rw [← hfree, suspendedRules, hcommitted.suspended]
    rfl
  have hmem : r ∈ e.settings.rules ++ [r] :=
    List.mem_append_right _ (List.mem_singleton_self r)
  refine ⟨hreply, hcommitted.inStep, ?_, ?_, ?_, ?_⟩
  · rw [hcommitted.settings]
    exact hmem
  · rw [hcommitted.settings]
    rfl
  · rw [hcommitted.settings]
    rfl
  · rw [hstays, hcommitted.settings, Settings.blockingRules_purged]
    exact Settings.mem_blockingRules.mpr
      ⟨hmem, rfl, List.not_mem_nil, rfl, not_isShielded hbare r⟩

end Blocking

/--
A site of the web that may be blocked is blocked by a rule that catches its page.  Where
that rule is new, the page is redirected from then on.  A rule that was there is returned
as it is, and the page is redirected exactly if, when the table was brought in step, some
rule was in force that catches it or overshoots to it.
-/
theorem site_blocked (hkeyed : e.table.Keyed)
    (hroom : e.settings.rules.length < Directive.idCount) (henabled : e.settings.enabled = true)
    (hmode : e.settings.allowlistMode = false)
    (hbare : ∀ host, ¬e.settings.overrides.Frees o.now.instant host)
    (hfree : e.suspendedRules = []) (hparse : Url.parse url = .ok u) (hweb : u.IsWeb)
    (hok : (e.run o (.blockSite url)).result = .ok reply) :
    let after := (e.run o (.blockSite url)).engine
    ∃ r host, reply = .rule r ∧ u.host? = some host ∧ r.IsForSite host ∧
      r.catches url = true ∧ r ∈ after.settings.rules ∧
      (¬e.settings.HasSite host → ∀ later, after.Redirects later url) ∧
      (e.settings.HasSite host → after = e ∧
        (∀ moment, e.InStep moment → ∀ later,
          (e.Redirects later url ↔ ∃ known ∈ e.settings.blockingRules moment [],
            known.catches url = true ∨ known.overshoots url = true)) ∧
        (e.InStep o.now → activeAt r.schedule o.now = true → ∀ later, e.Redirects later url)) := by
  intro after
  rcases hweb.exists_host hparse with ⟨host, hhost, _⟩
  by_cases hknown : e.settings.HasSite host
  · rcases run_known_site o hparse hhost hknown with ⟨r, hr, hsite, hrun⟩
    have hafter : after = e := congrArg Outcome.engine hrun
    have hreply : reply = .rule r := by
      rw [hrun] at hok
      exact (Except.ok.inj hok).symm
    have hcatches := hsite.catches hparse hweb hhost
    have hreached : ∀ moment, e.InStep moment → ∀ later,
        (e.Redirects later url ↔ ∃ known ∈ e.settings.blockingRules moment [],
          known.catches url = true ∨ known.overshoots url = true) := by
      intro moment hstep later
      rw [redirects_iff_of_inStep hstep hmode hparse hweb later, hfree, and_iff_right henabled]
    refine ⟨r, host, hreply, hhost, hsite, hcatches, hafter ▸ hr, absurd hknown, ?_⟩
    intro _
    refine ⟨hafter, hreached, ?_⟩
    intro hstep hactive later
    have hforce : r ∈ e.settings.blockingRules o.now [] :=
      Settings.mem_blockingRules.mpr
        ⟨hr, hsite.allow, List.not_mem_nil, hactive, not_isShielded hbare r⟩
    exact (hreached o.now hstep later).mpr ⟨r, hforce, Or.inl hcatches⟩
  · rcases run_new_site hkeyed hroom hbare hfree hparse hhost hknown hok with
      ⟨hreply, hstep, hmem, hsame, hkept, hforce⟩
    have hsite := Command.siteRule_isForSite o e.settings host
    have hcatches := hsite.catches hparse hweb hhost
    refine ⟨_, host, hreply, hhost, hsite, hcatches, hmem, ?_, fun h => absurd h hknown⟩
    intro _ later
    exact (redirects_iff_of_inStep hstep (hkept.trans hmode) hparse hweb later).mpr
      ⟨hsame.trans henabled, _, hforce, Or.inl hcatches⟩

/-! ## Samples -/

theorem nothing_frees {now : Instant} (host : String) :
    ¬Settings.default.overrides.Frees now host := by
  intro hfrees
  rcases hfrees with ⟨till, htill, _⟩
  cases htill

set_option maxRecDepth 10000 in
theorem loopback_site_redirected :
    (∃ r, ((finding Settings.default).run firstDawn (.blockSite "http://[::1]/")).result =
      .ok (.rule r)) ∧
    ((finding Settings.default).run firstDawn (.blockSite "http://[::1]/")).engine.Redirects
      firstDawn "http://[::1]/" := by
  have hok : ((finding Settings.default).run firstDawn (.blockSite "http://[::1]/")).result =
      .ok (.rule (Command.siteRule firstDawn Settings.default "[::1]")) := by
    rfl
  rcases site_blocked (e := finding Settings.default) (o := firstDawn) (start_keyed _ _ _)
    (by decide) rfl rfl nothing_frees rfl parse_loopbackUrl (by decide) hok with
    ⟨r, host, hreply, _, _, _, _, hnew, _⟩
  have hnone : ¬(finding Settings.default).settings.HasSite host := by
    intro hsite
    rcases hsite with ⟨known, hknown, _⟩
    cases hknown
  exact ⟨⟨_, hok⟩, hnew hnone firstDawn⟩

def eveningRule : Rule :=
  { loopbackRule "[::1]" false with
    schedule := some ⟨some [4], some "22:00", some "23:00", "UTC"⟩ }

set_option maxRecDepth 10000 in
/-- In the morning the page goes through, though its site counts as blocked. -/
theorem evening_site_proceeds :
    (settled eveningRule).InStep dawn ∧
      (settled eveningRule).settings.enabled = true ∧
      (settled eveningRule).settings.allowlistMode = false ∧
      (∀ host, ¬(settled eveningRule).settings.overrides.Frees dawn.instant host) ∧
      (settled eveningRule).suspended = [] ∧
      Url.parse "http://[::1]/" = .ok loopbackUrl ∧ loopbackUrl.IsWeb ∧
      ((settled eveningRule).run atDawn (.blockSite "http://[::1]/")).result =
        .ok (.rule eveningRule) ∧
      ((settled eveningRule).run atDawn (.blockSite "http://[::1]/")).engine.Proceeds atDawn
        "http://[::1]/" := by
  have hpass : (finding (onlyRule eveningRule)).pass dawn "boot" =
      (.ok ⟨"boot", 0, 0, 0⟩, settled eveningRule) :=
    Prod.ext rfl rfl
  have hstep : (settled eveningRule).InStep dawn :=
    inStep_of_pass (start_keyed _ _ _) hpass (by decide)
  exact ⟨hstep, rfl, rfl, nothing_frees, rfl, parse_loopbackUrl, by decide, rfl, rfl⟩

end Engine
end SiteGuard
