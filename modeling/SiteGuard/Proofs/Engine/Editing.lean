import SiteGuard.Proofs.Engine.Dangling
import SiteGuard.Proofs.Engine.Validity

/-!
# Edited rules

Removals, edits of a rule, patches of the settings and imports can put another content
under the id of a rule.  All but the patches end the suspension of that rule; a patch
ends only those of rules that it drops.  An edited rule that is not suspended any more is
enforced by the pass of the command that has edited it.
-/

namespace SiteGuard

open Calendar

/-! ## Contents -/

/-- What a rule does is the same, in which its id and its notes have no part. -/
structure Rule.SameContent (r r' : Rule) : Prop where
  pattern : r'.pattern = r.pattern
  kind : r'.kind = r.kind
  mode : r'.mode = r.mode
  allow : r'.allow = r.allow
  schedule : r'.schedule = r.schedule

theorem Rule.SameContent.refl (r : Rule) : r.SameContent r :=
  ⟨rfl, rfl, rfl, rfl, rfl⟩

/-! ## Rules that a command is not for -/

namespace Settings

variable {s s' : Settings} {id other : String}

theorem rule?_of_rules (h : s'.rules = s.rules) (id : String) : s'.rule? id = s.rule? id := by
  unfold rule?
  rw [h]

theorem rule?_append {r : Rule} (h : s.rule? id = some r) (rules : List Rule) :
    { s with rules := s.rules ++ rules }.rule? id = some r := by
  unfold rule? at h ⊢
  rw [List.find?_append, h, Option.some_or]

end Settings

namespace Command

theorem find?_eraseP_of_ne {id other : String} (hne : id ≠ other) (rules : List Rule) :
    (rules.eraseP fun r => r.id == other).find? (fun r => r.id == id) =
      rules.find? fun r => r.id == id := by
  induction rules with
  | nil =>
      rfl
  | cons first rest ih =>
      rw [List.eraseP_cons]
      cases hother : first.id == other with
      | true =>
          have hid : (first.id == id) = false := by
            rw [beq_iff_eq.mp hother]
            exact beq_false_of_ne hne.symm
          rw [cond_true, List.find?_cons, hid]
      | false =>
          rw [cond_false, List.find?_cons, List.find?_cons, ih]

theorem find?_replaceRule_of_ne {id : String} {new : Rule} (hne : id ≠ new.id)
    (rules : List Rule) :
    (replaceRule new.id new rules).find? (fun r => r.id == id) =
      rules.find? fun r => r.id == id := by
  induction rules with
  | nil =>
      rfl
  | cons first rest ih =>
      unfold replaceRule
      split
      · rename_i hfirst
        have hold : (first.id == id) = false := by
          rw [hfirst]
          exact beq_false_of_ne hne.symm
        have hnew : (new.id == id) = false :=
          beq_false_of_ne hne.symm
        rw [List.find?_cons, List.find?_cons, hold, hnew]
      · rw [List.find?_cons, List.find?_cons, ih]

variable {o : Occasion} {e : Engine} {c : Command} {s : Settings} {reply : Reply}

/-- What a command saves has the same rule under an id, unless the command is for it. -/
theorem Saves.rule?_eq {id : String} {r : Rule} (h : c.Saves o e s reply)
    (hrule : e.settings.rule? id = some r) (hother : ¬c.Replaces id) : s.rule? id = some r := by
  cases h with
  | switched =>
      exact hrule
  | @patched patch pin merged normal _ hmerge hnormal _ =>
      have hpatch : patch.get? "rules" = none := by
        by_contra hrules
        exact hother (.patched hrules)
      rw [← hrule]
      apply Settings.rule?_of_rules
      rw [Settings.rules_of_normalized hnormal, Settings.rules_of_merge hmerge hpatch]
  | added =>
      exact Settings.rule?_append hrule _
  | @removed removedId _ _ =>
      have hne : id ≠ removedId := by
        intro hsame
        subst hsame
        exact hother .removed
      exact (find?_eraseP_of_ne hne _).trans hrule
  | @edited patch editedId old updated hpatch hold hmerge _ =>
      have hid : updated.id = editedId := by
        rw [Rule.id_of_merge (by decide) hmerge]
        exact (Settings.mem_of_rule? hold).2
      have hne : id ≠ updated.id := by
        intro hsame
        subst hsame
        exact hother (.edited (hid ▸ hpatch))
      subst hid
      exact (find?_replaceRule_of_ne hne _).trans hrule
  | granted =>
      exact hrule
  | blocked =>
      exact Settings.rule?_append hrule _
  | pinned =>
      exact hrule
  | imported =>
      exact absurd .imported hother

/-- Of the commands that are for a rule only a patch of the settings leaves it suspended. -/
theorem commit_of_replaces {id : String} {decision : Decision} (h : c.Replaces id)
    (hdecide : c.decide o e = .ok decision) :
    ∃ s suspended reason reply, decision = commit s suspended reason reply ∧
      ((s.rule? id).isSome = true →
        (id ∈ suspended.map (·.rule) ↔
          id ∈ e.suspendedRules ∧ ∃ patch pin, c = .patchSettings patch pin)) := by
  have hreleased : id ∉ (e.released id).map (·.rule) := by
    intro hmem
    rcases List.mem_map.mp hmem with ⟨x, hx, hid⟩
    rw [← hid] at hx
    simpa using (List.mem_filter.mp hx).2
  cases h with
  | removed =>
      rcases decideRemove_eq_ok hdecide with ⟨_, hcommit⟩
      refine ⟨_, _, _, _, hcommit, fun _ => ?_⟩
      exact iff_of_false hreleased fun hpatched => nomatch hpatched.2
  | edited hid =>
      rcases decideRulePatch_eq_ok hdecide with ⟨_, _, _, hid', _, _, _, hcommit⟩
      cases hid.symm.trans hid'
      refine ⟨_, _, _, _, hcommit, fun _ => ?_⟩
      exact iff_of_false hreleased fun hpatched => nomatch hpatched.2
  | @patched patch pin _ =>
      rcases decidePatch_eq_ok hdecide with ⟨_, _, _, _, _, _, hcommit⟩
      refine ⟨_, _, _, _, hcommit, fun hstays => ?_⟩
      constructor
      · intro hmem
        rcases List.mem_map.mp hmem with ⟨x, hx, hid⟩
        exact ⟨List.mem_map.mpr ⟨x, List.mem_of_mem_filter hx, hid⟩, patch, pin, rfl⟩
      · intro hpatched
        rcases hpatched with ⟨hmem, _⟩
        rcases List.mem_map.mp hmem with ⟨x, hx, rfl⟩
        refine List.mem_map.mpr ⟨x, List.mem_filter.mpr ⟨hx, ?_⟩, rfl⟩
        rw [hstays, Bool.or_true]
  | imported =>
      rcases decideImport_eq_ok hdecide with ⟨_, _, _, _, hcommit⟩
      refine ⟨_, _, _, _, hcommit, fun _ => ?_⟩
      exact iff_of_false List.not_mem_nil fun hpatched => nomatch hpatched.2

end Command

/-! ## Edits -/

namespace Engine

variable {e : Engine} {o : Occasion} {c : Command} {reply : Reply} {id : String} {r r' : Rule}

theorem replaces_of_edited (hbefore : e.settings.rule? id = some r)
    (hafter : (e.run o c).engine.settings.rule? id = some r') (hedited : ¬r.SameContent r') :
    c.Replaces id := by
  by_contra hother
  have hkept : (e.run o c).engine.settings.rule? id = some r := by
    rcases e.run_stores o c with ⟨s, rfl | ⟨reply, hsaves⟩, hstores⟩
    · rw [Settings.rule?_of_rules hstores.rules, hbefore]
    · rw [Settings.rule?_of_rules hstores.rules, hsaves.rule?_eq hbefore hother]
  cases hkept.symm.trans hafter
  exact hedited (.refl r)

theorem decision_of_run (hok : (e.run o c).result = .ok reply) :
    ∃ decision, c.decide o e = .ok decision := by
  cases hdecide : c.decide o e with
  | error f =>
      rw [run_of_refused hdecide] at hok
      cases hok
  | ok decision =>
      exact ⟨decision, rfl⟩

/--
Where a command has put another content under the id of a rule, the rule stays suspended
exactly if it was and the command is a patch of the settings.  Else the table is in step
with the edited rules: pages that it catches are redirected, or allowed if it allows.
-/
theorem edit_ends_suspension (hkeyed : e.table.Keyed)
    (hroom : (e.run o c).engine.settings.rules.length ≤ Directive.idCount)
    (hok : (e.run o c).result = .ok reply) (hbefore : e.settings.rule? id = some r)
    (hafter : (e.run o c).engine.settings.rule? id = some r') (hedited : ¬r.SameContent r') :
    let after := (e.run o c).engine
    (id ∈ after.suspendedRules ↔
      id ∈ e.suspendedRules ∧ ∃ patch pin, c = .patchSettings patch pin) ∧
    after.InStep o.now ∧
    (id ∉ after.suspendedRules → after.settings.enabled = true →
      ∀ (later : Occasion) (url : String) (u : Url), Url.parse url = .ok u → u.IsWeb →
        r'.catches url = true →
          (after.settings.allowlistMode = false → r'.allow = false →
            activeAt r'.schedule o.now = true →
            r'.isShielded after.settings.overrides o.now.instant = false →
            after.Redirects later url) ∧
          (after.settings.allowlistMode = true → r'.allow = true → after.Allows later url)) := by
  intro after
  have hreplaces := replaces_of_edited hbefore hafter hedited
  rcases decision_of_run hok with ⟨decision, hdecide⟩
  rcases Command.commit_of_replaces hreplaces hdecide with
    ⟨s, suspended, reason, reply', rfl, hsuspended⟩
  rcases run_commit hdecide hok with
    ⟨before, report, hsettings, htable, hheld, _, hpass⟩
  rcases kept_of_pass hpass with ⟨hrules, _, _, hkept⟩
  rw [hsettings] at hrules
  have hfound : (s.rule? id).isSome = true := by
    rw [← Settings.rule?_of_rules hrules, hafter]
    rfl
  have hnow : after.suspendedRules = suspended.map (·.rule) := by
    rw [hkept, suspendedRules, hheld]
  have hstep : after.InStep o.now :=
    inStep_of_pass (htable ▸ hkeyed) hpass (Nat.le_trans Settings.length_rulesInForce_le hroom)
  rcases Settings.mem_of_rule? hafter with ⟨hmem, hid⟩
  refine ⟨?_, hstep, ?_⟩
  · rw [hnow]
    exact hsuspended hfound
  · intro hfree henabled later url u hparse hweb hcatches
    constructor
    · intro hmode hblock hactive hbare
      have hforce : r' ∈ after.settings.blockingRules o.now after.suspendedRules :=
        Settings.mem_blockingRules.mpr ⟨hmem, hblock, hid ▸ hfree, hactive, hbare⟩
      exact (redirects_iff_of_inStep hstep hmode hparse hweb later).mpr
        ⟨henabled, r', hforce, Or.inl hcatches⟩
    · intro hmode hallow
      have hforce : r' ∈ after.settings.allowingRules after.suspendedRules :=
        Settings.mem_allowingRules.mpr ⟨hmem, hallow, hid ▸ hfree⟩
      exact (allows_iff_of_inStep hstep hmode hparse hweb later).mpr
        ⟨henabled, r', hforce, Or.inl hcatches⟩

/-! ## Samples -/

def excused : Engine :=
  (watching.run firstDawn (.suspend "loopback" "http://[::1]/")).engine

def turned : Json :=
  .object [("id", .text "loopback"), ("pattern", .text "[::2]")]

def turnedRules : Json :=
  .object [("rules", .list [turned])]

def turnedUrl : Url :=
  { loopbackUrl with
    authority := some ⟨[], none, some (.ipv6 ⟨[0, 0, 0, 0, 0, 0, 0, 2], rfl⟩), none⟩ }

theorem not_sameContent_turned :
    ¬(loopbackRule "[::1]" false).SameContent (loopbackRule "[::2]" false) := by
  intro hsame
  exact absurd hsame.pattern (by decide)

set_option maxRecDepth 10000 in
theorem turned_enforced :
    excused.suspendedRules = ["loopback"] ∧
      "loopback" ∉ (excused.run firstDawn (.patchRule turned)).engine.suspendedRules ∧
      (excused.run firstDawn (.patchRule turned)).engine.Redirects firstDawn "http://[::2]/" := by
  have hok : (excused.run firstDawn (.patchRule turned)).result =
      .ok (.rule (loopbackRule "[::2]" false)) := by
    rfl
  have hsettings : (excused.run firstDawn (.patchRule turned)).engine.settings =
      onlyRule (loopbackRule "[::2]" false) := by
    rfl
  have hroom : (excused.run firstDawn (.patchRule turned)).engine.settings.rules.length ≤
      Directive.idCount := by
    rw [hsettings]
    decide
  have hafter : (excused.run firstDawn (.patchRule turned)).engine.settings.rule? "loopback" =
      some (loopbackRule "[::2]" false) := by
    rw [hsettings]
    rfl
  have hkeyed : excused.table.Keyed :=
    run_keyed (start_keyed _ _ _) firstDawn (.suspend "loopback" "http://[::1]/")
  rcases edit_ends_suspension hkeyed hroom hok rfl hafter not_sameContent_turned with
    ⟨hsuspended, _, henforced⟩
  have hfree : "loopback" ∉ (excused.run firstDawn (.patchRule turned)).engine.suspendedRules := by
    intro hmem
    rcases (hsuspended.mp hmem).2 with ⟨patch, pin, hpatch⟩
    cases hpatch
  rw [hsettings] at henforced
  refine ⟨rfl, hfree, ?_⟩
  exact (henforced hfree rfl firstDawn _ turnedUrl rfl (by decide) rfl).1 rfl rfl rfl rfl

set_option maxRecDepth 10000 in
/-- A patch of the settings turns the rule as well, and leaves it suspended. -/
theorem turned_stays_excused :
    (excused.run firstDawn (.patchSettings turnedRules none)).result = .ok .done ∧
      excused.settings.rule? "loopback" = some (loopbackRule "[::1]" false) ∧
      (excused.run firstDawn (.patchSettings turnedRules none)).engine.settings.rule?
        "loopback" = some (loopbackRule "[::2]" false) ∧
      ¬(loopbackRule "[::1]" false).SameContent (loopbackRule "[::2]" false) ∧
      "loopback" ∈
        (excused.run firstDawn (.patchSettings turnedRules none)).engine.suspendedRules ∧
      (excused.run firstDawn (.patchSettings turnedRules none)).engine.Proceeds firstDawn
        "http://[::2]/" := by
  have hsuspended :
      (excused.run firstDawn (.patchSettings turnedRules none)).engine.suspendedRules =
        ["loopback"] := by
    rfl
  refine ⟨rfl, rfl, rfl, not_sameContent_turned, ?_, rfl⟩
  rw [hsuspended]
  exact List.mem_singleton_self _

end Engine
end SiteGuard
