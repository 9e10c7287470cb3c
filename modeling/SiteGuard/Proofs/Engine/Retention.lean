import SiteGuard.Proofs.Calendar.Order
import SiteGuard.Proofs.Engine.History

/-!
# Acknowledged changes stay

Every command reads the settings as a whole and writes them back as a whole, and
a pass may write them once more.  A rule that a reply has named stays through all
of that until a command is for it, and so does an override until it runs out.
-/

namespace SiteGuard

open Calendar

/-! ## Overrides that last -/

namespace Overrides

/-- There is an override of a host, and it does not end before an instant. -/
def LastsTo (o : Overrides) (host : String) (till : Instant) : Prop :=
  ∃ known, o.get? host = some known ∧ ¬known < till

variable {o : Overrides} {host : String} {till : Instant}

theorem lastsTo_extend (o : Overrides) (host : String) (till : Instant) :
    (o.extend host till).LastsTo host till := by
  unfold LastsTo extend
  rw [SortedMap.get?_insert, if_pos rfl]
  cases o.get? host with
  | none =>
      exact ⟨till, rfl, Instant.lt_irrefl till⟩
  | some known =>
      exact ⟨Instant.latest till known, rfl, Instant.not_latest_lt_left till known⟩

/-- Granting an override again, for however short a time, does not cut it short. -/
theorem LastsTo.extend (h : o.LastsTo host till) (other : String) (requested : Instant) :
    (o.extend other requested).LastsTo host till := by
  rcases h with ⟨known, hknown, hlasts⟩
  unfold LastsTo Overrides.extend
  rw [SortedMap.get?_insert]
  by_cases hother : other = host
  · subst hother
    rw [if_pos rfl, hknown]
    exact ⟨_, rfl, Instant.not_lt_trans hlasts (Instant.not_latest_lt_right requested known)⟩
  · rw [if_neg hother]
    exact ⟨known, hknown, hlasts⟩

theorem LastsTo.live (h : o.LastsTo host till) {now : Instant} (hnow : now < till) :
    (o.live now).LastsTo host till := by
  rcases h with ⟨known, hknown, hlasts⟩
  refine ⟨known, ?_, hlasts⟩
  unfold Overrides.live
  rw [SortedMap.get?_filter, hknown]
  exact Option.filter_eq_some_iff.mpr
    ⟨rfl, decide_eq_true (Instant.lt_of_lt_of_not_lt hnow hlasts)⟩

end Overrides

/-! ## Rules that are kept -/

namespace Settings

theorem mem_of_rule? {s : Settings} {id : String} {rule : Rule} (h : s.rule? id = some rule) :
    rule ∈ s.rules ∧ rule.id = id := by
  unfold rule? at h
  constructor
  · exact List.mem_of_find?_eq_some h
  · have hid := List.find?_some h
    exact beq_iff_eq.mp hid

theorem rules_of_normalized {s normal : Settings} (h : s.normalized = .ok normal) :
    normal.rules = s.rules := by
  unfold normalized at h
  split at h
  · cases h
    rfl
  · cases h

end Settings

namespace Outcome

variable {out : Outcome} {now : Instant} {s : Settings}

theorem Stores.rules (h : out.Stores now s) : out.engine.settings.rules = s.rules := by
  rcases h with hkept | ⟨_, hpurged⟩
  · rw [hkept]
  · rw [hpurged]
    rfl

theorem Stores.lastsTo (h : out.Stores now s) {host : String} {till : Instant}
    (hlasts : s.overrides.LastsTo host till) (hpassed : out.passed = true → now < till) :
    out.engine.settings.overrides.LastsTo host till := by
  rcases h with hkept | ⟨hpass, hpurged⟩
  · rw [hkept]
    exact hlasts
  · rw [hpurged]
    exact hlasts.live (hpassed hpass)

end Outcome

/-! ## Commands -/

namespace Command

/-- The commands that are for the rules with an id, or for all rules. -/
inductive Replaces (id : String) : Command → Prop where
  | removed : Replaces id (.removeRule id)
  | edited {patch : Json} (hid : (patch.get? "id").bind Json.text? = some id) :
      Replaces id (.patchRule patch)
  | patched {patch : Json} {pin : Option String} (hrules : patch.get? "rules" ≠ none) :
      Replaces id (.patchSettings patch pin)
  | imported {policy : PolicyExport} {pin : Option String} : Replaces id (.importPolicy policy pin)

/-- The commands that write all overrides anew. -/
inductive Rewrites : Command → Prop where
  | patched {patch : Json} {pin : Option String} : Rewrites (.patchSettings patch pin)
  | imported {policy : PolicyExport} {pin : Option String} : Rewrites (.importPolicy policy pin)

variable {o : Occasion} {e : Engine} {c : Command} {s : Settings} {reply : Reply}

theorem mem_replaceRule_self {id : String} {rule new : Rule} {rules : List Rule}
    (h : rule ∈ rules) (hid : rule.id = id) : new ∈ replaceRule id new rules := by
  induction rules with
  | nil =>
      cases h
  | cons first rest ih =>
      unfold replaceRule
      split
      · exact List.mem_cons_self
      · rename_i hfirst
        rcases List.mem_cons.mp h with rfl | hrest
        · exact absurd hid hfirst
        · exact List.mem_cons_of_mem _ (ih hrest)

theorem mem_replaceRule_of_ne {id : String} {rule new : Rule} {rules : List Rule}
    (h : rule ∈ rules) (hid : rule.id ≠ id) : rule ∈ replaceRule id new rules := by
  induction rules with
  | nil =>
      cases h
  | cons first rest ih =>
      unfold replaceRule
      split
      · rename_i hfirst
        rcases List.mem_cons.mp h with rfl | hrest
        · exact absurd hfirst hid
        · exact List.mem_cons_of_mem _ hrest
      · rcases List.mem_cons.mp h with rfl | hrest
        · exact List.mem_cons_self
        · exact List.mem_cons_of_mem _ (ih hrest)

theorem Saves.mem_rules_of_reply {rule : Rule} (h : c.Saves o e s (.rule rule)) :
    rule ∈ s.rules := by
  cases h with
  | added hrule _ _ =>
      exact List.mem_append_right _ (List.mem_singleton.mpr rfl)
  | edited _ hrule _ _ =>
      rcases Settings.mem_of_rule? hrule with ⟨hmem, hid⟩
      exact mem_replaceRule_self hmem hid
  | blocked _ _ hrule =>
      exact List.mem_append_right _ (List.mem_singleton.mpr rfl)

/-- What a command saves has each rule that was there, unless the command is for it. -/
theorem Saves.mem_rules {rule : Rule} (h : c.Saves o e s reply) (hrule : rule ∈ e.settings.rules)
    (hother : ¬c.Replaces rule.id) : rule ∈ s.rules := by
  cases h with
  | switched =>
      exact hrule
  | @patched patch pin merged normal _ hmerge hnormal _ =>
      have hpatch : patch.get? "rules" = none := by
        by_contra hrules
        exact hother (.patched hrules)
      rw [Settings.rules_of_normalized hnormal, Settings.rules_of_merge hmerge hpatch]
      exact hrule
  | added =>
      exact List.mem_append_left _ hrule
  | @removed id _ _ =>
      have hid : ¬(rule.id == id) = true := by
        intro hsame
        exact hother (beq_iff_eq.mp hsame ▸ .removed)
      exact (List.mem_eraseP_of_neg (p := fun r : Rule => r.id == id) hid).mpr hrule
  | @edited patch id _ _ hpatch _ _ _ =>
      have hid : rule.id ≠ id := by
        intro hsame
        subst hsame
        exact hother (.edited hpatch)
      exact mem_replaceRule_of_ne hrule hid
  | granted =>
      exact hrule
  | blocked =>
      exact List.mem_append_left _ hrule
  | pinned =>
      exact hrule
  | imported =>
      exact absurd .imported hother

theorem Saves.lastsTo {host : String} {till : Instant} (h : c.Saves o e s reply)
    (hlasts : e.settings.overrides.LastsTo host till) (hother : ¬c.Rewrites) :
    s.overrides.LastsTo host till := by
  cases h with
  | patched =>
      exact absurd .patched hother
  | imported =>
      exact absurd .imported hother
  | granted =>
      exact hlasts.extend _ _
  | switched =>
      exact hlasts
  | added =>
      exact hlasts
  | removed =>
      exact hlasts
  | edited =>
      exact hlasts
  | blocked =>
      exact hlasts
  | pinned =>
      exact hlasts

theorem Saves.lastsTo_of_reply {g : Grant} (h : c.Saves o e s (.grant g)) :
    o.now.instant < g.till ∧ s.overrides.LastsTo g.hostname g.till := by
  cases h with
  | @granted _ minutes _ host requested hleast _ _ hrequested =>
      rcases Overrides.lastsTo_extend e.settings.overrides host requested with
        ⟨till, htill, hlate⟩
      have hpositive : 0 < minutes.toInt.toNat * Instant.minuteNanos := by
        unfold Instant.minuteNanos
        omega
      have hlater : o.now.instant < requested :=
        Instant.lt_of_after? hpositive hrequested
      simp only [htill, Option.getD_some]
      exact ⟨Instant.lt_of_lt_of_not_lt hlater hlate, till, htill, Instant.lt_irrefl till⟩

end Command

/-! ## Runs -/

namespace Engine

variable {e : Engine} {o : Occasion} {c : Command}

theorem mem_rules_of_reply {rule : Rule} (hok : (e.run o c).result = .ok (.rule rule)) :
    rule ∈ (e.run o c).engine.settings.rules := by
  rcases run_eq_ok hok with ⟨hanswer, hsame⟩ | ⟨_, hreport⟩ | ⟨edit, hedit, hreply, hstores⟩
  · rw [hsame]
    exact Command.mem_rules_of_answer hanswer
  · cases hreport
  · rcases Command.edit_of_decide hedit with ⟨s, hsaved, hsaves⟩ | ⟨_, hdone | ⟨_, hallowance⟩⟩
    · rw [← hreply] at hsaves
      rw [(hstores s hsaved).rules]
      exact hsaves.mem_rules_of_reply
    · cases hreply.trans hdone
    · cases hreply.trans hallowance

theorem mem_rules_run {rule : Rule} (hrule : rule ∈ e.settings.rules)
    (hother : ¬c.Replaces rule.id) (o : Occasion) :
    rule ∈ (e.run o c).engine.settings.rules := by
  rcases e.run_stores o c with ⟨s, rfl | ⟨reply, hsaves⟩, hstores⟩
  · rw [hstores.rules]
    exact hrule
  · rw [hstores.rules]
    exact hsaves.mem_rules hrule hother

theorem lastsTo_of_reply {hostname : String} {minutes : Int64} {url : Option String} {g : Grant}
    (hok : (e.run o (.grantOverride hostname minutes url)).result = .ok (.grant g)) :
    o.now.instant < g.till ∧
      (e.run o (.grantOverride hostname minutes url)).engine.settings.overrides.LastsTo
        g.hostname g.till := by
  rcases run_eq_ok hok with ⟨hanswer, _⟩ | ⟨_, hreport⟩ | ⟨edit, hedit, hreply, hstores⟩
  · have hdecide : Command.decideOverride o e hostname minutes url = .ok (.answer (.grant g)) :=
      hanswer
    rcases Command.decideOverride_eq_ok hdecide with ⟨_, _, _, _, _, _, hcommit⟩
    cases hcommit
  · cases hreport
  · rcases Command.edit_of_decide hedit with ⟨s, hsaved, hsaves⟩ | ⟨_, hdone | ⟨_, hallowance⟩⟩
    · rw [← hreply] at hsaves
      rcases hsaves.lastsTo_of_reply with ⟨hnow, hlasts⟩
      exact ⟨hnow, (hstores s hsaved).lastsTo hlasts fun _ => hnow⟩
    · cases hreply.trans hdone
    · cases hreply.trans hallowance

theorem lastsTo_run {host : String} {till : Instant}
    (hlasts : e.settings.overrides.LastsTo host till) (hother : ¬c.Rewrites)
    (hpassed : (e.run o c).passed = true → o.now.instant < till) :
    (e.run o c).engine.settings.overrides.LastsTo host till := by
  rcases e.run_stores o c with ⟨s, rfl | ⟨reply, hsaves⟩, hstores⟩
  · exact hstores.lastsTo hlasts hpassed
  · exact hstores.lastsTo (hsaves.lastsTo hlasts hother) hpassed

/-! ## Histories -/

/--
A rule that a reply has named is among the stored ones until a command is for it,
for all rules, or for the whole policy.  An override that has been granted is stored
and lasts as long as was promised until the first pass, if only a failing one, at
which that time is over, as long as no command rewrites the overrides.
-/
theorem acknowledged_stays {events : List Event} (hown : ∀ event ∈ events, event.IsOwn)
    (e : Engine) (o : Occasion) :
    (∀ (c : Command) (rule : Rule), (e.run o c).result = .ok (.rule rule) →
      (∀ later c', .command later c' ∈ events → ¬c'.Replaces rule.id) →
      rule ∈ ((e.run o c).engine.afterAll events).settings.rules) ∧
    ∀ (hostname : String) (minutes : Int64) (url : Option String) (g : Grant) (granted : Engine),
      (e.run o (.grantOverride hostname minutes url)).result = .ok (.grant g) →
      granted = (e.run o (.grantOverride hostname minutes url)).engine →
      (∀ later c', .command later c' ∈ events → ¬c'.Rewrites) →
      (∀ before later c' rest, events = before ++ .command later c' :: rest →
        ((granted.afterAll before).run later c').passed = true → later.now.instant < g.till) →
      ∃ till, (granted.afterAll events).settings.overrides.get? g.hostname = some till ∧
        ¬till < g.till := by
  have hcommand : ∀ {before : List Event} {later : Occasion} {c' : Command} {rest : List Event},
      events = before ++ .command later c' :: rest → Event.command later c' ∈ events := by
    intro before later c' rest hevents
    rw [hevents]
    exact List.mem_append_right _ List.mem_cons_self
  constructor
  · intro c rule hok hother
    apply settings_afterAll (I := fun s => rule ∈ s.rules) hown (mem_rules_of_reply hok)
    intro before later c' rest hevents hrule
    exact mem_rules_run hrule (hother later c' (hcommand hevents)) later
  · intro hostname minutes url g granted hok hgranted hother hpassed
    subst hgranted
    apply settings_afterAll (I := fun s => s.overrides.LastsTo g.hostname g.till) hown
      (lastsTo_of_reply hok).2
    intro before later c' rest hevents hlasts
    exact lastsTo_run hlasts (hother later c' (hcommand hevents))
      (hpassed before later c' rest hevents)

/-! ## A sample -/

def firstDawn : Occasion := ⟨dawn, "r_first", []⟩

def interruptions : List Event :=
  [.outage ⟨true, true, false⟩, .command firstDawn (.refresh "alarm"), .restart,
    .command firstDawn (.switchTo false)]

set_option maxRecDepth 10000 in
theorem loopback_site_stays :
    ∃ rule g, ((finding Settings.default).run firstDawn (.blockSite "http://[::1]/")).result =
        .ok (.rule rule) ∧
      rule ∈ (((finding Settings.default).run firstDawn
        (.blockSite "http://[::1]/")).engine.afterAll interruptions).settings.rules ∧
      ((finding Settings.default).run firstDawn (.grantOverride "http://[::1]/" 5 none)).result =
        .ok (.grant g) ∧
      ∃ till, (((finding Settings.default).run firstDawn
          (.grantOverride "http://[::1]/" 5 none)).engine.afterAll
          interruptions).settings.overrides.get? g.hostname = some till ∧ ¬till < g.till := by
  have hown : ∀ event ∈ interruptions, event.IsOwn := by
    intro event hevent
    simp only [interruptions, List.mem_cons, List.not_mem_nil, or_false] at hevent
    rcases hevent with rfl | rfl | rfl | rfl
    · exact .outage
    · exact .command
    · exact .restart
    · exact .command
  have hcommands : ∀ later c, Event.command later c ∈ interruptions →
      later = firstDawn ∧ (c = .refresh "alarm" ∨ c = .switchTo false) := by
    intro later c hmem
    simp only [interruptions, List.mem_cons, List.not_mem_nil, or_false] at hmem
    rcases hmem with hmem | hmem | hmem | hmem
    · cases hmem
    · cases hmem
      exact ⟨rfl, Or.inl rfl⟩
    · cases hmem
    · cases hmem
      exact ⟨rfl, Or.inr rfl⟩
  rcases acknowledged_stays hown (finding Settings.default) firstDawn with ⟨hrules, hoverrides⟩
  have hblocked : ((finding Settings.default).run firstDawn
      (.blockSite "http://[::1]/")).result =
      .ok (.rule ⟨"r_first", "[::1]", .wildcard, .hard, false, none, some Command.siteNote⟩) := by
    rfl
  have hgranted : ((finding Settings.default).run firstDawn
      (.grantOverride "http://[::1]/" 5 none)).result =
      .ok (.grant ⟨"[::1]", ⟨300, 0, by decide⟩, "https://[::1]"⟩) := by
    rfl
  refine ⟨_, _, hblocked, hrules _ _ hblocked ?_, hgranted,
    hoverrides _ _ _ _ _ hgranted rfl ?_ ?_⟩
  · intro later c hmem hreplaces
    rcases (hcommands later c hmem).2 with rfl | rfl
    · cases hreplaces
    · cases hreplaces
  · intro later c hmem hrewrites
    rcases (hcommands later c hmem).2 with rfl | rfl
    · cases hrewrites
    · cases hrewrites
  · intro before later c rest hevents _
    have hmem : Event.command later c ∈ interruptions := by
      rw [hevents]
      exact List.mem_append_right _ List.mem_cons_self
    rw [(hcommands later c hmem).1]
    decide

end Engine
end SiteGuard
