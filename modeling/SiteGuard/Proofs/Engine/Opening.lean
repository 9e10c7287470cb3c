import SiteGuard.Proofs.Enforcement
import SiteGuard.Proofs.Engine.Retention
import SiteGuard.Proofs.Plan.Exemptions

/-!
# What an override opens

An override shields every rule that catches the page of its host.  The page is
still redirected where a directive overshoots to it, and nowhere else.
-/

namespace SiteGuard

open Calendar Text

/-! ## Pages of hosts -/

theorem isWeb_homePage {host : String} {u : Url} (hparse : Url.parse (homePage host) = .ok u) :
    u.IsWeb := by
  have htext : (homePage host).toList = "https:".toList ++ ("//".toList ++ host.toList) := by
    unfold homePage
    rw [String.toList_append]
    rfl
  have hfront : ∀ c ∈ "https:".toList, Url.isOuterBlank c = false := by
    simp [Url.isOuterBlank]
  rcases Url.clean_append (by decide) hfront ("//".toList ++ host.toList) with ⟨more, hclean⟩
  rcases Url.exists_locator_of_parse hparse with ⟨rest, _, _, v, hscheme, _, hsame, _⟩
  have hread : Url.scheme? ("https:".toList ++ more) = some ("https".toList, more) := by
    rfl
  rw [htext, hclean, hread] at hscheme
  right
  rw [hsame]
  exact (congrArg Prod.fst (Option.some.inj hscheme)).symm

theorem overshoots_of_parse_error {r : Rule} {url : String} {f : Url.Fault}
    (hparse : Url.parse url = .error f) : r.overshoots url = false := by
  unfold Rule.overshoots
  rw [hparse]
  cases r.kind <;> rfl

/-! ## Shields -/

theorem Overrides.LastsTo.mem_live {o : Overrides} {host : String} {till now : Instant}
    (h : o.LastsTo host till) (hnow : now < till) : host ∈ (o.live now).keys := by
  rcases h with ⟨known, hknown, hlasts⟩
  exact Overrides.mem_keys_live.mpr
    ⟨known, hknown, Instant.lt_of_lt_of_not_lt hnow hlasts⟩

theorem Rule.isShielded_of_catches {r : Rule} {o : Overrides} {host : String} {now : Instant}
    (hlive : host ∈ (o.live now).keys) (hcatches : r.catches (homePage host) = true) :
    r.isShielded o now = true :=
  Rule.isShielded_iff.mpr (Or.inr ⟨host, Overrides.mem_keys_live.mp hlive, hcatches⟩)

namespace Engine

variable {e before : Engine} {o : Occasion} {url : String}

theorem not_redirects_of_parse_error {f : Url.Fault} (hparse : Url.parse url = .error f) :
    ¬e.Redirects o url := by
  intro hredirects
  rcases hredirects with ⟨id, location, hresult⟩
  have hdecide : Command.decide o e (.navigate url) = .error (.invalidUrl url (.fault f)) := by
    simp only [Command.decide, Command.urlOf, hparse, bind, Except.bind]
  rw [run_of_refused hdecide] at hresult
  cases hresult

/-- A page of which each rule that catches it is shielded is redirected by overshooting alone. -/
theorem redirects_iff_overshoots {now : Moment} {reason : String} {report : Report}
    (hkeyed : before.table.Keyed) (hpass : before.pass now reason = (.ok report, e))
    (hroom : (e.settings.rulesInForce now e.suspendedRules).length ≤ Directive.idCount)
    (hmode : e.settings.allowlistMode = false)
    (hweb : ∀ u, Url.parse url = .ok u → u.IsWeb)
    (hshielded : ∀ r : Rule, r.catches url = true →
      r.isShielded e.settings.overrides now.instant = true) (o : Occasion) :
    e.Redirects o url ↔ e.settings.enabled = true ∧
      ∃ r ∈ e.settings.blockingRules now e.suspendedRules, r.overshoots url = true := by
  cases hparse : Url.parse url with
  | error f =>
      constructor
      · intro hredirects
        exact absurd hredirects (not_redirects_of_parse_error hparse)
      · intro hreached
        rcases hreached with ⟨_, r, _, hover⟩
        rw [overshoots_of_parse_error hparse] at hover
        cases hover
  | ok u =>
      rw [redirects_iff_reached hkeyed hpass hroom hmode hparse (hweb u hparse)]
      refine and_congr_right fun _ => exists_congr fun r => and_congr_right fun hforce => ?_
      have hbare : r.isShielded e.settings.overrides now.instant = false :=
        (Settings.mem_blockingRules.mp hforce).2.2.2.2
      constructor
      · intro hreached
        rcases hreached with hcatches | hover
        · rw [hshielded r hcatches] at hbare
          cases hbare
        · exact hover
      · exact Or.inr

/-! ## Grants -/

section Grants

variable {hostname : String} {minutes : Int64} {link : Option String} {g : Grant}

theorem pass_of_grant
    (hok : (e.run o (.grantOverride hostname minutes link)).result = .ok (.grant g)) :
    ∃ (requested : Instant) (before : Engine) (report : Report),
      g.navigateTo = link.getD (homePage g.hostname) ∧
      before.settings = { e.settings with
        overrides := e.settings.overrides.extend g.hostname requested } ∧
      before.table = e.table ∧ before.suspended = e.suspended ∧
      before.pass o.now "override" =
        (.ok report, (e.run o (.grantOverride hostname minutes link)).engine) := by
  have hdecided : ∃ decision, Command.decideOverride o e hostname minutes link = .ok decision := by
    rcases run_eq_ok hok with ⟨hanswer, _⟩ | ⟨_, hreport⟩ | ⟨_, hedit, _⟩
    · exact ⟨_, hanswer⟩
    · cases hreport
    · exact ⟨_, hedit⟩
  rcases hdecided with ⟨decision, hdecide⟩
  rcases Command.decideOverride_eq_ok hdecide with ⟨host, requested, _, _, _, _, rfl⟩
  rcases @run_commit e o (.grantOverride hostname minutes link) _ _ _ _ _ hdecide hok with
    ⟨before, report, hsettings, htable, hsuspended, hreply, hpass⟩
  cases hreply
  exact ⟨requested, before, report, rfl, hsettings, htable, hsuspended, hpass⟩

/--
Right after an override has been granted, no rule in force catches the page that it
names.  The page is redirected, as long as blocking is on, just where a rule in
force overshoots to it.
-/
theorem grant_opens {granted : Engine} (hkeyed : e.table.Keyed)
    (hrules : e.settings.rules.length ≤ Directive.idCount)
    (hmode : e.settings.allowlistMode = false)
    (hok : (e.run o (.grantOverride hostname minutes none)).result = .ok (.grant g))
    (hgranted : granted = (e.run o (.grantOverride hostname minutes none)).engine) :
    g.navigateTo = homePage g.hostname ∧ granted.settings.rules = e.settings.rules ∧
      (∀ r : Rule, r.catches g.navigateTo = true →
        r.isShielded granted.settings.overrides o.now.instant = true) ∧
      ∀ later : Occasion, granted.Redirects later g.navigateTo ↔
        e.settings.enabled = true ∧
          ∃ r ∈ granted.settings.blockingRules o.now e.suspendedRules,
            r.overshoots g.navigateTo = true := by
  rcases pass_of_grant hok with
    ⟨requested, before, report, hpage, hsettings, htable, hsuspended, hpass⟩
  rcases lastsTo_of_reply hok with ⟨hnow, hlasts⟩
  rw [← hgranted] at hpass hlasts
  rcases kept_of_pass hpass with ⟨hkeptRules, henabled, hkeptMode, hkeptSuspended⟩
  rw [hsettings] at hkeptRules henabled hkeptMode
  have hshielded : ∀ r : Rule, r.catches g.navigateTo = true →
      r.isShielded granted.settings.overrides o.now.instant = true := by
    intro r hcatches
    rw [hpage] at hcatches
    exact Rule.isShielded_of_catches (hlasts.mem_live hnow) hcatches
  have hroom : (granted.settings.rulesInForce o.now granted.suspendedRules).length ≤
      Directive.idCount :=
    Settings.length_rulesInForce_le.trans (hkeptRules ▸ hrules)
  have hweb : ∀ u, Url.parse g.navigateTo = .ok u → u.IsWeb := by
    intro u hparse
    rw [hpage] at hparse
    exact isWeb_homePage hparse
  have hsame : granted.suspendedRules = e.suspendedRules := by
    rw [hkeptSuspended]
    exact congrArg (List.map Suspension.rule) hsuspended
  refine ⟨hpage, hkeptRules, hshielded, ?_⟩
  intro later
  rw [redirects_iff_overshoots (htable ▸ hkeyed) hpass hroom (hkeptMode.trans hmode) hweb
    hshielded later, henabled, hsame]

end Grants

/-! ## Samples -/

/-- The engine with a rule alone after an override of the host of the machine itself. -/
def opened (pattern : String) : Engine :=
  ((settled (loopbackRule pattern false)).run atDawn
    (.grantOverride "http://[::1]/" 5 none)).engine

def loopbackGrant : Grant :=
  ⟨"[::1]", ⟨300, 0, by decide⟩, "https://[::1]"⟩

set_option maxRecDepth 10000 in
theorem loopback_opened :
    (settled (loopbackRule "[::1]" false)).Redirects atDawn loopbackGrant.navigateTo ∧
      ((settled (loopbackRule "[::1]" false)).run atDawn
        (.grantOverride "http://[::1]/" 5 none)).result = .ok (.grant loopbackGrant) ∧
      ¬(opened "[::1]").Redirects atDawn loopbackGrant.navigateTo := by
  have hok : ((settled (loopbackRule "[::1]" false)).run atDawn
      (.grantOverride "http://[::1]/" 5 none)).result = .ok (.grant loopbackGrant) := by
    rfl
  have hkeyed : (settled (loopbackRule "[::1]" false)).table.Keyed :=
    pass_keyed (start_keyed _ _ _) dawn "boot"
  rcases grant_opens hkeyed (by decide) rfl hok rfl with ⟨_, hrules, hshielded, hredirects⟩
  refine ⟨⟨_, _, rfl⟩, hok, ?_⟩
  intro hredirect
  rcases (hredirects atDawn).mp hredirect with ⟨_, r, hforce, _⟩
  rcases Settings.mem_blockingRules.mp hforce with ⟨hr, _, _, _, hbare⟩
  rw [hrules] at hr
  obtain rfl : r = loopbackRule "[::1]" false := List.mem_singleton.mp hr
  rw [hshielded _ rfl] at hbare
  cases hbare

set_option maxRecDepth 10000 in
/-- A star stands for subdomains only, but an override of the bare host does not open it. -/
theorem starred_stays_closed :
    (settled (loopbackRule "*.[::1]" false)).settings.enabled = true ∧
      (settled (loopbackRule "*.[::1]" false)).settings.allowlistMode = false ∧
      ((settled (loopbackRule "*.[::1]" false)).run atDawn
        (.grantOverride "http://[::1]/" 5 none)).result = .ok (.grant loopbackGrant) ∧
      (loopbackRule "*.[::1]" false).catches loopbackGrant.navigateTo = false ∧
      (opened "*.[::1]").Redirects atDawn loopbackGrant.navigateTo := by
  exact ⟨rfl, rfl, rfl, rfl, _, _, rfl⟩

end Engine
end SiteGuard
