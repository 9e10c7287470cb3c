import SiteGuard.Proofs.Engine.Retention
import SiteGuard.Proofs.Enforcement
import SiteGuard.Proofs.Settings.Validity

/-!
# Stored settings stay valid

Each command that writes rules checks them in a way of its own, and all of them
together keep the settings valid as a whole.  So no directive is ever installed
whose regular expression cannot be compiled.
-/

namespace SiteGuard

open Calendar Text

/-! ## New ids -/

/-- An id that is made for a new rule: it begins like all of them, and no rule has it. -/
structure Occasion.Fresh (o : Occasion) (s : Settings) : Prop where
  made : "r_".toList <+: o.freshRuleId.toList
  new : ∀ r ∈ s.rules, r.id ≠ o.freshRuleId

theorem Occasion.Fresh.not_blank {o : Occasion} {s : Settings} (h : o.Fresh s) :
    isBlankString o.freshRuleId = false := by
  have hmem : 'r' ∈ o.freshRuleId.toList := h.made.subset (by decide)
  exact isBlankString_of_mem hmem (by decide)

theorem RuleDraft.id_not_blank {d : RuleDraft} {freshId : String} (mode : BlockMode)
    (hfresh : d.chosenId? = none → isBlankString freshId = false) :
    isBlankString (d.toRule freshId mode).id = false := by
  show isBlankString (d.chosenId?.getD freshId) = false
  cases hchosen : d.chosenId? with
  | none =>
      exact hfresh hchosen
  | some id =>
      have hid := (Option.filter_eq_some_iff.mp hchosen).2
      simpa using hid

namespace Command

/-- The commands that need an id for a new rule. -/
inductive Mints (o : Occasion) (e : Engine) : Command → Prop where
  | added {draft : RuleDraft} (hopen : draft.chosenId? = none) : Mints o e (.addRule draft)
  | blocked {url : String} {edit : Edit} (hnew : decideSite o e url = .ok (.edit edit)) :
      Mints o e (.blockSite url)

theorem not_blank_of_urlOf {url host : String} {u : Url} (hread : urlOf url = .ok u)
    (hhost : u.host? = some host) : isBlankString (String.ofList (lower host.toList)) = false := by
  have hparse : Url.parseChars url.toList = .ok u := by
    unfold urlOf Url.parse at hread
    split at hread
    · rename_i hparse
      cases hread
      exact hparse
    · cases hread
  rcases Option.map_eq_some_iff.mp hhost with ⟨found, hfound, rfl⟩
  rcases (Url.hostOf_parseChars hparse hfound).exists_not_blank with ⟨c, hc, hblank⟩
  have hmem : c.toLower ∈ (String.ofList (lower (String.ofList found.text).toList)).toList := by
    rw [String.toList_ofList, String.toList_ofList]
    exact List.mem_map_of_mem hc
  rw [← isBlank_toLower] at hblank
  exact isBlankString_of_mem hmem hblank

/-! ## Saved settings -/

theorem replaceRule_ids {id : String} {new : Rule} (hid : new.id = id) (rules : List Rule) :
    (replaceRule id new rules).map (·.id) = rules.map (·.id) := by
  induction rules with
  | nil =>
      rfl
  | cons r rest ih =>
      unfold replaceRule
      split
      · rename_i hsame
        rw [List.map_cons, List.map_cons, hid, hsame]
      · rw [List.map_cons, List.map_cons, ih]

theorem of_mem_replaceRule {id : String} {new r : Rule} {rules : List Rule}
    (h : r ∈ replaceRule id new rules) : r = new ∨ r ∈ rules := by
  induction rules with
  | nil =>
      cases h
  | cons first rest ih =>
      unfold replaceRule at h
      split at h
      · rcases List.mem_cons.mp h with hnew | hrest
        · exact Or.inl hnew
        · exact Or.inr (List.mem_cons_of_mem _ hrest)
      · rcases List.mem_cons.mp h with rfl | hrest
        · exact Or.inr List.mem_cons_self
        · rcases ih hrest with hnew | hold
          · exact Or.inl hnew
          · exact Or.inr (List.mem_cons_of_mem _ hold)

/-- What is saved is valid if what was there is, whichever command has checked it. -/
theorem Saves.valid {o : Occasion} {e : Engine} {c : Command} {edit : Edit} {s : Settings}
    {reply : Reply} (h : c.Saves o e s reply) (hdecide : c.decide o e = .ok (.edit edit))
    (hvalid : e.settings.Valid) (hfresh : c.Mints o e → o.Fresh e.settings) : s.Valid := by
  cases h with
  | switched =>
      exact hvalid.of_same rfl rfl
  | patched _ _ _ hfault =>
      exact Settings.fault?_eq_none_iff.mp hfault
  | added hrule hfault hnew =>
      subst hrule
      apply hvalid.append
      · exact RuleDraft.id_not_blank _ fun hopen => (hfresh (.added hopen)).not_blank
      · intro r hr hsame
        exact List.find?_eq_none.mp hnew r hr (beq_iff_eq.mpr hsame)
      · exact Rule.fault?_eq_none_iff.mp hfault
  | removed =>
      exact hvalid.sublist List.eraseP_sublist
  | @edited patch id rule updated _ hrule hmerge hfault =>
      have hid : updated.id = id := by
        rw [Rule.id_of_merge (by decide) hmerge]
        exact (Settings.mem_of_rule? hrule).2
      apply hvalid.of_same_ids (replaceRule_ids hid _)
      intro r hr
      rcases of_mem_replaceRule hr with rfl | hold
      · exact Rule.fault?_eq_none_iff.mp hfault
      · exact hvalid.rules r hold
  | granted =>
      exact hvalid.of_same rfl rfl
  | blocked hread hhost hrule =>
      subst hrule
      have hminted := hfresh (.blocked hdecide)
      apply hvalid.append
      · exact hminted.not_blank
      · exact hminted.new
      · refine ⟨not_blank_of_urlOf hread hhost, ?_, ?_⟩
        · intro hkind
          cases hkind
        · intro s hs
          cases hs
  | pinned =>
      exact hvalid.of_same rfl rfl
  | imported _ _ hfault =>
      exact Settings.fault?_eq_none_iff.mp hfault

end Command

/-! ## Expressions that can be compiled -/

def Condition.Compiles (c : Condition) : Prop :=
  ∀ filter, c.regexFilter = some filter → (Pattern.compile? filter).isSome = true

theorem Directive.compiles_ofRule {r : Rule} (h : r.Valid) (interstitial : Url)
    (priority : UInt32) : (ofRule interstitial priority r).condition.Compiles := by
  intro filter hfilter
  change (conditionOf r).regexFilter = some filter at hfilter
  unfold conditionOf at hfilter
  cases hkind : r.kind with
  | exact =>
      rw [hkind] at hfilter
      cases hfilter
  | wildcard =>
      rw [hkind] at hfilter
      cases hfilter
  | regex =>
      rw [hkind] at hfilter
      cases hfilter
      exact h.regex hkind

theorem Settings.Valid.compiles {s : Settings} (h : s.Valid) {now : Moment}
    {suspended : List String} {interstitial : Url} {d : Directive}
    (hd : d ∈ s.plan now suspended interstitial) : d.condition.Compiles := by
  rcases mem_plan_cases hd with rfl | ⟨r, hr, priority, hsame⟩
  · intro filter hfilter
    cases hfilter
  · rw [hsame.condition]
    exact Directive.compiles_ofRule (h.rules r hr) interstitial priority

namespace DirectiveTable

def Compiles (t : DirectiveTable) : Prop :=
  ∀ row ∈ t.rows.entries, ∀ d, row.2 = .ok d → d.condition.Compiles

theorem Compiles.replace {t t' : DirectiveTable} {remove : List UInt32} {add : List Directive}
    (h : t.Compiles) (hadd : ∀ d ∈ add, d.condition.Compiles)
    (hreplace : t.replace remove add = .ok t') : t'.Compiles := by
  intro row hrow d hcontent
  rcases (mem_replace hreplace).mp hrow with ⟨d', hd', rfl⟩ | ⟨hold, _⟩
  · cases hcontent
    exact hadd d hd'
  · exact h row hold d hcontent

end DirectiveTable

theorem Rule.catches_of_compiled {r : Rule} {p : Pattern} (hkind : r.kind = .regex)
    (hcompile : Pattern.compile? r.pattern = some p) (url : String) :
    r.catches url = (Url.isUrl url && p.occursIn url) := by
  unfold catches Url.isUrl
  rw [hkind, hcompile]
  cases Url.parse url with
  | ok u =>
      rfl
  | error f =>
      rfl

theorem Condition.holds_of_compiled {c : Condition} {filter : String} {p : Pattern}
    (hurl : c.urlFilter = none) (hregex : c.regexFilter = some filter)
    (hcompile : Pattern.compile? filter = some p) (url : String) :
    c.holds url = p.occursIn url := by
  simp only [holds, hurl, hregex, hcompile]

/-! ## Engines -/

namespace Engine

/-- The settings are valid, and so is what was installed on their account. -/
structure Sound (e : Engine) : Prop where
  valid : e.settings.Valid
  compiles : e.table.Compiles

namespace Sound

variable {e e' : Engine}

theorem pass (h : e.Sound) (now : Moment) (reason : String) : (e.pass now reason).2.Sound := by
  constructor
  · rcases e.pass_settings now reason with hkept | hpurged
    · rw [hkept]
      exact h.valid
    · rw [hpurged]
      exact h.valid.of_same rfl rfl
  · rcases e.pass_table now reason with hsame | ⟨remove, add, hadd, hreplace⟩
    · rw [hsame]
      exact h.compiles
    · apply h.compiles.replace _ hreplace
      intro d hd
      exact h.valid.compiles (hadd d hd)

theorem saved (h : e.Sound) {s : Settings} (hs : s.Valid) (hsaved : e.saved s = .ok e') :
    e'.Sound := by
  constructor
  · rw [(saved_eq_ok hsaved).2]
    exact hs
  · rw [saved_table hsaved]
    exact h.compiles

theorem run (h : e.Sound) {o : Occasion} {c : Command}
    (hfresh : c.Mints o e → o.Fresh e.settings) : (e.run o c).engine.Sound := by
  apply run_keeps h
  · intro held suspended hheld
    exact ⟨hheld.valid, hheld.compiles⟩
  · intro held reason hheld
    exact hheld.pass o.now reason
  · intro edit s held e' hdecide hedit hheld hsave
    have hsaves := Command.saves_of_decide hdecide hedit
    exact hheld.saved (hsaves.valid hdecide h.valid hfresh) hsave

theorem restarted (h : e.Sound) : e.restarted.Sound := by
  constructor
  · rw [settings_restarted]
    exact h.valid
  · exact h.compiles

end Sound

/-! ## Histories -/

theorem start_sound {store : Store} (hprimary : store.primaryDocument? = none)
    (hfallback : store.fallbackDocument? = none) (interstitial : Url) (graceSeconds : Nat) :
    (start store interstitial graceSeconds).Sound := by
  have hdefault : store.load = Settings.default := by
    unfold Store.load
    rw [hprimary, hfallback]
    rfl
  constructor
  · show store.load.Valid
    rw [hdefault]
    exact Settings.default_valid
  · intro row hrow
    cases hrow

theorem afterAll_sound {store : Store} {interstitial : Url} {graceSeconds : Nat}
    {events : List Event} (hprimary : store.primaryDocument? = none)
    (hfallback : store.fallbackDocument? = none)
    (h : Untampered (start store interstitial graceSeconds) events)
    (hfresh : ∀ before o c rest, events = before ++ .command o c :: rest →
      c.Mints o ((start store interstitial graceSeconds).afterAll before) →
      o.Fresh ((start store interstitial graceSeconds).afterAll before).settings) :
    ((start store interstitial graceSeconds).afterAll events).Sound := by
  apply h.invariant (start_sound hprimary hfallback interstitial graceSeconds)
  · intro before o c rest hevents hbefore
    exact hbefore.run (hfresh before o c rest hevents)
  · intro e he
    exact he.restarted
  · intro e o he
    exact ⟨he.valid, he.compiles⟩
  · intro e store hload he
    refine ⟨?_, he.compiles⟩
    show store.load.Valid
    rw [hload]
    exact he.valid

/--
Whatever commands come, and whether or not they can be carried out, the settings
that are stored are valid.  Their regular expressions can all be compiled, and so
can those of the directives that are installed, so what they catch is what occurs.
-/
theorem stored_valid {store : Store} {interstitial : Url} {graceSeconds : Nat}
    {events : List Event} (hprimary : store.primaryDocument? = none)
    (hfallback : store.fallbackDocument? = none)
    (h : Untampered (start store interstitial graceSeconds) events)
    (hfresh : ∀ before o c rest, events = before ++ .command o c :: rest →
      c.Mints o ((start store interstitial graceSeconds).afterAll before) →
      o.Fresh ((start store interstitial graceSeconds).afterAll before).settings) :
    let e := (start store interstitial graceSeconds).afterAll events
    e.settings.fault? = none ∧ e.settings.Valid ∧
      (∀ r ∈ e.settings.rules, r.kind = .regex →
        ∃ p, Pattern.compile? r.pattern = some p ∧
          ∀ url, r.catches url = (Url.isUrl url && p.occursIn url)) ∧
      ∀ row ∈ e.table.rows.entries, ∀ d, row.2 = .ok d →
        ∀ filter, d.condition.regexFilter = some filter →
          ∃ p, Pattern.compile? filter = some p ∧
            (d.condition.urlFilter = none →
              ∀ url, d.condition.holds url = p.occursIn url) := by
  intro e
  have hsound : e.Sound := afterAll_sound hprimary hfallback h hfresh
  refine ⟨Settings.fault?_eq_none_iff.mpr hsound.valid, hsound.valid, ?_, ?_⟩
  · intro r hr hkind
    rcases Option.isSome_iff_exists.mp ((hsound.valid.rules r hr).regex hkind) with ⟨p, hp⟩
    exact ⟨p, hp, Rule.catches_of_compiled hkind hp⟩
  · intro row hrow d hd filter hfilter
    rcases Option.isSome_iff_exists.mp (hsound.compiles row hrow d hd filter hfilter) with ⟨p, hp⟩
    exact ⟨p, hp, fun hurl => Condition.holds_of_compiled hurl hfilter hp⟩

/-! ## A sample -/

def emptied : Engine :=
  start Store.inMemory loopbackUrl 60

def plainDraft : RuleDraft :=
  ⟨some "plain", "^http:", some .regex, none, false, none, none⟩

def plainRule : Rule :=
  ⟨"plain", "^http:", .regex, .hard, false, none, none⟩

def beginnings : List Event :=
  [.command firstDawn (.blockSite "http://[::1]/"), .command firstDawn (.addRule plainDraft),
    .restart]

theorem plain_compiles :
    (emptied.afterAll beginnings).settings.Valid ∧
      plainRule ∈ (emptied.afterAll beginnings).settings.rules ∧
      ∃ p, Pattern.compile? "^http:" = some p ∧
        ∀ url, plainRule.catches url = (Url.isUrl url && p.occursIn url) := by
  have huntampered : Untampered emptied beginnings :=
    .own .command (.own .command (.own .restart .nil))
  have hfresh : ∀ before o c rest, beginnings = before ++ .command o c :: rest →
      c.Mints o (emptied.afterAll before) → o.Fresh (emptied.afterAll before).settings := by
    intro before o c rest hevents hmints
    rcases before with _ | ⟨first, _ | ⟨second, before⟩⟩
    · cases hevents
      exact ⟨by decide, fun r hr => nomatch hr⟩
    · cases hevents
      cases hmints with
      | added hopen =>
          cases hopen
    · cases before with
      | nil =>
          cases hevents
      | cons third before =>
          simp [beginnings] at hevents
  have hmem : plainRule ∈ (emptied.afterAll beginnings).settings.rules := by
    decide +kernel
  rcases stored_valid rfl rfl huntampered hfresh with ⟨_, hvalid, hrules, _⟩
  exact ⟨hvalid, hmem, hrules plainRule hmem rfl⟩

end Engine
end SiteGuard
