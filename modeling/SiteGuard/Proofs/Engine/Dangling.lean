import SiteGuard.Proofs.Engine.Retention
import SiteGuard.Proofs.Engine.Suspension
import SiteGuard.Proofs.Enforcement

/-!
# What suspensions are of

Every suspension is of a rule that the settings have, or of what catches
everything.  A rule that comes in under an id that was not there therefore starts
without a suspension, whatever was suspended under that id before.
-/

namespace SiteGuard

/-! ## Rules that are known -/

/-- What can be suspended. -/
def Settings.Knows (s : Settings) (id : String) : Prop :=
  id = Directive.catchAllRule ∨ ∃ r ∈ s.rules, r.id = id

namespace Settings

variable {s s' : Settings} {id : String}

theorem knows_of_rule? {r : Rule} (h : s.rule? id = some r) : s.Knows id :=
  Or.inr ⟨r, mem_of_rule? h⟩

theorem Knows.of_rules (h : s.Knows id) (hrules : s'.rules = s.rules) : s'.Knows id := by
  unfold Knows
  rw [hrules]
  exact h

theorem Knows.ne_of_rule? (h : s.Knows id) {other : String} (hnone : s.rule? other = none)
    (hother : other ≠ Directive.catchAllRule) : id ≠ other := by
  rintro rfl
  rcases h with hcaught | ⟨r, hr, hid⟩
  · exact hother hcaught
  · exact List.find?_eq_none.mp hnone r hr (beq_iff_eq.mpr hid)

end Settings

namespace Engine

/-- No suspension is of a rule that is not there. -/
def Anchored (e : Engine) : Prop :=
  ∀ x ∈ e.suspended, e.settings.Knows x.rule

variable {e : Engine} {o : Occasion} {c : Command}

theorem Grants.knows {rule url : String} (h : e.Grants rule url) : e.settings.Knows rule := by
  rcases h with ⟨decision, hdecide⟩
  unfold Command.decideSuspend at hdecide
  rcases bind_eq_ok hdecide with ⟨_, _, hdecide⟩
  rcases unless_eq_ok hdecide with ⟨hfound, _⟩
  by_cases hcaught : rule = Directive.catchAllRule
  · exact Or.inl hcaught
  · cases hrule : e.settings.rule? rule with
    | none =>
        rw [hrule] at hfound
        exact absurd ⟨hcaught, rfl⟩ hfound
    | some r =>
        exact Settings.knows_of_rule? hrule

/-! ## Edits -/

theorem Anchored.resuspends (h : e.Anchored) {suspended : List Suspension}
    (hchange : e.Resuspends c suspended) {x : Suspension} (hx : x ∈ suspended) :
    e.settings.Knows x.rule := by
  by_cases hold : x ∈ e.suspended
  · exact h x hold
  · rcases hchange.of_new hx hold with ⟨url, _, hgrants⟩
    exact hgrants.knows

/-- Where a command puts other rules in the place of one, it ends the suspension of that one. -/
theorem knows_of_replaces {edit : Edit} {s : Settings} {x : Suspension}
    (h : c.decide o e = .ok (.edit edit)) (hsaved : edit.saved = some s)
    (hx : x ∈ edit.suspended) (hreplaces : c.Replaces x.rule) : s.Knows x.rule := by
  have hreleased : x ∉ e.released x.rule := by
    intro hmem
    simpa using (List.mem_filter.mp hmem).2
  cases hreplaces with
  | removed =>
      rcases Command.decideRemove_eq_ok h with ⟨_, hcommit⟩
      cases hcommit
      exact absurd hx hreleased
  | edited hid =>
      rcases Command.decideRulePatch_eq_ok h with ⟨_, _, _, hid', _, _, _, hcommit⟩
      cases hcommit
      cases hid.symm.trans hid'
      exact absurd hx hreleased
  | patched =>
      rcases Command.decidePatch_eq_ok h with ⟨_, normal, _, _, _, _, hcommit⟩
      cases hcommit
      cases hsaved
      rcases Bool.or_eq_true_iff.mp (List.mem_filter.mp hx).2 with hcaught | hfound
      · exact Or.inl (beq_iff_eq.mp hcaught)
      · rcases Option.isSome_iff_exists.mp hfound with ⟨r, hr⟩
        exact Settings.knows_of_rule? hr
  | imported =>
      rcases Command.decideImport_eq_ok h with ⟨_, _, _, _, hcommit⟩
      cases hcommit
      cases hx

theorem Anchored.saved (h : e.Anchored) {edit : Edit} {s : Settings} {x : Suspension}
    (hdecide : c.decide o e = .ok (.edit edit)) (hsaved : edit.saved = some s)
    (hx : x ∈ edit.suspended) : s.Knows x.rule := by
  by_cases hreplaces : c.Replaces x.rule
  · exact knows_of_replaces hdecide hsaved hx hreplaces
  · rcases h.resuspends (resuspends_of_decide hdecide) hx with hcaught | ⟨r, hr, hid⟩
    · exact Or.inl hcaught
    · have hother : ¬c.Replaces r.id := by
        rw [hid]
        exact hreplaces
      exact Or.inr ⟨r, (Command.saves_of_decide hdecide hsaved).mem_rules hr hother, hid⟩

/-! ## Commands -/

/-- Suspensions are settled before anything is saved, and fit whether it can be saved or not. -/
theorem Anchored.run (h : e.Anchored) (o : Occasion) (c : Command) :
    (e.run o c).engine.Anchored := by
  cases hdecide : c.decide o e with
  | error f =>
      rw [Engine.run_of_refused hdecide]
      exact h
  | ok decision =>
      have hrun := Engine.run_of_decided hdecide
      cases decision with
      | answer r =>
          rw [hrun]
          exact h
      | pass reason =>
          intro x hx
          rw [hrun] at hx ⊢
          have hold : x ∈ e.suspended := by
            rw [← pass_suspended e o.now reason]
            exact hx
          exact (h x hold).of_rules (e.passThen_stores o.now reason .report).rules
      | edit edit =>
          intro x hx
          rw [(run_of_edit hdecide).1] at hx
          rw [hrun]
          rcases e.apply_stores o.now edit with ⟨s, rfl | hsaved, hstores⟩
          · exact (h.resuspends (resuspends_of_decide hdecide) hx).of_rules hstores.rules
          · exact (h.saved hdecide hsaved hx).of_rules hstores.rules

theorem Anchored.not_suspended (h : e.Anchored) {id : String} (hnone : e.settings.rule? id = none)
    (hother : id ≠ Directive.catchAllRule) (o : Occasion) (c : Command) :
    id ∉ (e.run o c).engine.suspendedRules := by
  intro hmem
  rcases List.mem_map.mp hmem with ⟨x, hx, hid⟩
  exact (h.resuspends (e.run_resuspends o c) hx).ne_of_rule? hnone hother hid

/-! ## Histories -/

theorem start_anchored (store : Store) (interstitial : Url) (graceSeconds : Nat) :
    (start store interstitial graceSeconds).Anchored := by
  intro x hx
  cases hx

theorem Untampered.anchored {events : List Event} (h : Untampered e events)
    (hstart : e.Anchored) : (e.afterAll events).Anchored := by
  apply h.invariant hstart
  · intro before o c rest _ hbefore
    exact hbefore.run o c
  · intro e _ x hx
    cases hx
  · intro e outage he
    exact he
  · intro e store hload he x hx
    show store.load.Knows x.rule
    rw [hload]
    exact he x hx

/-- Whatever happens, a rule that is not suspended comes to be so by a command alone. -/
theorem exists_suspend {id : String} {events : List Event} (hbefore : id ∉ e.suspendedRules)
    (hafter : id ∈ (e.afterAll events).suspendedRules) :
    ∃ before o url rest, events = before ++ .command o (.suspend id url) :: rest ∧
      (e.afterAll before).Grants id url := by
  induction events generalizing e with
  | nil =>
      exact absurd hafter hbefore
  | cons event rest ih =>
      by_cases hfirst : id ∈ (e.after event).suspendedRules
      · cases event with
        | command o c =>
            rcases List.mem_map.mp hfirst with ⟨x, hx, rfl⟩
            have hnew : x ∉ e.suspended := by
              intro hold
              exact hbefore (List.mem_map_of_mem hold)
            rcases (e.run_resuspends o c).of_new hx hnew with ⟨url, rfl, hgrants⟩
            exact ⟨[], o, url, rest, rfl, hgrants⟩
        | restart =>
            cases hfirst
        | outage o =>
            exact absurd hfirst hbefore
        | stored store =>
            exact absurd hfirst hbefore
      · rcases ih hfirst hafter with ⟨before, o, url, rest', hrest, hgrants⟩
        exact ⟨event :: before, o, url, rest', congrArg (event :: ·) hrest, hgrants⟩

/--
At any time, what is suspended is a rule of the settings or the sentinel, whatever
could not be saved or installed up to then.  So a rule that comes in by a command
under an id of its own is not suspended, and is never suspended later but by a
command that comes after it and finds it there.
-/
theorem suspended_known {store : Store} {interstitial : Url} {graceSeconds : Nat}
    {events : List Event} (h : Untampered (start store interstitial graceSeconds) events) :
    let e := (start store interstitial graceSeconds).afterAll events
    (∀ id ∈ e.suspendedRules, id = Directive.catchAllRule ∨ ∃ r ∈ e.settings.rules, r.id = id) ∧
      ∀ (o : Occasion) (c : Command) (r : Rule), r ∈ (e.run o c).engine.settings.rules →
        e.settings.rule? r.id = none → r.id ≠ Directive.catchAllRule →
        r.id ∉ (e.run o c).engine.suspendedRules ∧
          ∀ later, r.id ∈ ((e.run o c).engine.afterAll later).suspendedRules →
            ∃ before o' url rest, later = before ++ .command o' (.suspend r.id url) :: rest ∧
              ((e.run o c).engine.afterAll before).Grants r.id url := by
  intro e
  have hanchored : e.Anchored := h.anchored (start_anchored store interstitial graceSeconds)
  constructor
  · intro id hid
    rcases List.mem_map.mp hid with ⟨x, hx, rfl⟩
    exact hanchored x hx
  · intro o c r _ hnone hother
    have hfree := hanchored.not_suspended hnone hother o c
    exact ⟨hfree, fun later => exists_suspend hfree⟩

/-! ## A sample -/

def loopbackDraft : RuleDraft :=
  ⟨some "loopback", "[::1]", none, none, false, none, none⟩

def watching : Engine :=
  finding (onlyRule (loopbackRule "[::1]" false))

/-- A rule is suspended twice, and goes once the medium takes the settings without it. -/
def comings : List Event :=
  [.outage ⟨false, true, true⟩, .command firstDawn (.suspend "loopback" "http://[::1]/"),
    .command firstDawn (.removeRule "loopback"), .outage Outage.none,
    .stored { watching.store with quota := 1000 },
    .command firstDawn (.suspend "loopback" "http://[::1]/"),
    .command firstDawn (.removeRule "loopback")]

theorem loopback_back_in_force :
    (watching.afterAll (comings.take 6)).suspendedRules = ["loopback"] ∧
      loopbackRule "[::1]" false ∈ ((watching.afterAll comings).run firstDawn
        (.addRule loopbackDraft)).engine.settings.rules ∧
      "loopback" ∉ ((watching.afterAll comings).run firstDawn
        (.addRule loopbackDraft)).engine.suspendedRules := by
  have huntampered : Untampered watching comings :=
    .own .outage (.own .command (.own .command (.own .outage (.medium rfl (.own .command
      (.own .command .nil))))))
  have hgone : (watching.afterAll comings).settings.rules = [] := by
    decide +kernel
  have hnone : (watching.afterAll comings).settings.rule? "loopback" = none := by
    unfold Settings.rule?
    rw [hgone]
    rfl
  have hadded : loopbackRule "[::1]" false ∈ ((watching.afterAll comings).run firstDawn
      (.addRule loopbackDraft)).engine.settings.rules := by
    decide +kernel
  rcases suspended_known huntampered with ⟨_, hnew⟩
  refine ⟨rfl, hadded, ?_⟩
  exact (hnew firstDawn (.addRule loopbackDraft) _ hadded hnone (by decide)).1

end Engine
end SiteGuard
