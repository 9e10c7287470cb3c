import SiteGuard.Proofs.Engine.Course
import SiteGuard.Proofs.Steps

/-!
# What commands come to

A command that is not refused either is answered, or asks for a pass, or comes to
an edit.  For each of them it is said here what has been checked by then, which
settings the edit saves, and which suspensions it leaves.
-/

namespace SiteGuard

open Calendar

namespace Command

variable {e : Engine} {o : Occasion}

theorem orFail_eq_ok {fault : Option Failure} {u : Unit} (h : orFail fault = .ok u) :
    fault = none := by
  cases fault with
  | none =>
      rfl
  | some f =>
      cases h

theorem decidePatch_eq_ok {patch : Json} {pin : Option String} {decision : Decision}
    (h : decidePatch e patch pin = .ok decision) :
    ∃ merged normal, e.settings.authorize pin = .ok () ∧
      Json.merge e.settings patch ["pin"] = .ok merged ∧ merged.normalized = .ok normal ∧
      normal.fault? = none ∧
      decision = commit normal
        (e.suspended.filter fun s =>
          s.rule == Directive.catchAllRule || (normal.rule? s.rule).isSome) "save" .done := by
  unfold decidePatch at h
  rcases bind_eq_ok h with ⟨_, hauthorized, h⟩
  rcases bind_eq_ok h with ⟨merged, hmerge, h⟩
  rcases bind_eq_ok h with ⟨normal, hnormal, h⟩
  rcases bind_eq_ok h with ⟨_, hvalid, h⟩
  cases h
  exact ⟨merged, normal, hauthorized, hmerge, hnormal, orFail_eq_ok hvalid, rfl⟩

theorem decideAdd_eq_ok {draft : RuleDraft} {decision : Decision}
    (h : decideAdd o e draft = .ok decision) :
    ∃ rule, rule = draft.toRule o.freshRuleId e.settings.defaultBlockMode ∧
      rule.fault? = none ∧ e.settings.rule? rule.id = none ∧
      decision = commit { e.settings with rules := e.settings.rules ++ [rule] } e.suspended
        "addRule" (.rule rule) := by
  unfold decideAdd at h
  rcases bind_eq_ok h with ⟨_, hvalid, h⟩
  rcases unless_eq_ok h with ⟨hnew, h⟩
  cases h
  exact ⟨_, rfl, orFail_eq_ok hvalid, by simpa using hnew, rfl⟩

theorem decideRemove_eq_ok {id : String} {decision : Decision}
    (h : decideRemove e id = .ok decision) :
    (∃ rule, e.settings.rule? id = some rule) ∧
      decision = commit
        { e.settings with rules := e.settings.rules.eraseP fun r => r.id == id }
        (e.released id) "removeRule" .done := by
  unfold decideRemove at h
  rcases unless_eq_ok h with ⟨hfound, h⟩
  cases h
  exact ⟨Option.ne_none_iff_exists'.mp fun hnone => hfound (Option.isNone_iff_eq_none.mpr hnone),
    rfl⟩

theorem decideRulePatch_eq_ok {patch : Json} {decision : Decision}
    (h : decideRulePatch e patch = .ok decision) :
    ∃ id rule updated, (patch.get? "id").bind Json.text? = some id ∧
      e.settings.rule? id = some rule ∧ Json.merge rule patch ["id"] = .ok updated ∧
      updated.fault? = none ∧
      decision = commit { e.settings with rules := replaceRule id updated e.settings.rules }
        (e.released id) "updateRule" (.rule updated) := by
  unfold decideRulePatch at h
  dsimp only at h
  split at h
  · cases h
  · rename_i id hid
    split at h
    · cases h
    · rename_i rule hrule
      rcases bind_eq_ok h with ⟨updated, hmerge, h⟩
      rcases bind_eq_ok h with ⟨_, hvalid, h⟩
      cases h
      exact ⟨id, rule, updated, hid, hrule, hmerge, orFail_eq_ok hvalid, rfl⟩

theorem decideSuspend_eq_ok {rule url : String} {decision : Decision}
    (h : decideSuspend e rule url = .ok decision) :
    decision = .edit ⟨none, e.suspending rule, some "temporaryAllow",
      .allowance ⟨rule, e.graceSeconds, url⟩⟩ := by
  unfold decideSuspend at h
  rcases bind_eq_ok h with ⟨_, _, h⟩
  rcases unless_eq_ok h with ⟨_, h⟩
  cases h
  rfl

theorem decideOverride_eq_ok {hostname : String} {minutes : Int64} {url : Option String}
    {decision : Decision} (h : decideOverride o e hostname minutes url = .ok decision) :
    ∃ host requested, 1 ≤ minutes.toInt ∧ minutes.toInt ≤ maxOverrideMinutes ∧
      HostPattern.hostname? hostname = some host ∧
      o.now.instant.after? (minutes.toInt.toNat * Instant.minuteNanos) = some requested ∧
      decision = commit
        { e.settings with overrides := e.settings.overrides.extend host requested } e.suspended
        "override"
        (.grant ⟨host, ((e.settings.overrides.extend host requested).get? host).getD requested,
          url.getD (homePage host)⟩) := by
  unfold decideOverride at h
  dsimp only at h
  rcases unless_eq_ok h with ⟨hminutes, h⟩
  split at h
  · cases h
  · rename_i host hhost
    split at h
    · cases h
    · rename_i requested hrequested
      cases h
      rw [not_or, Int.not_lt, Int.not_lt] at hminutes
      exact ⟨host, requested, hminutes.1, hminutes.2, hhost, hrequested, rfl⟩

theorem decideSite_eq_ok {url : String} {decision : Decision}
    (h : decideSite o e url = .ok decision) :
    (∃ rule ∈ e.settings.rules, decision = .answer (.rule rule)) ∨
      ∃ u host rule, urlOf url = .ok u ∧ u.host? = some host ∧
        rule = ⟨o.freshRuleId, String.ofList (Text.lower host.toList), .wildcard,
          e.settings.defaultBlockMode, false, none, some siteNote⟩ ∧
        decision = commit { e.settings with rules := e.settings.rules ++ [rule] } e.suspended
          "addCurrentSite" (.rule rule) := by
  unfold decideSite at h
  rcases bind_eq_ok h with ⟨u, hread, h⟩
  split at h
  · cases h
  · rename_i host hhost
    dsimp only at h
    split at h
    · rename_i rule hknown
      cases h
      exact Or.inl ⟨rule, List.mem_of_find?_eq_some hknown, rfl⟩
    · cases h
      exact Or.inr ⟨u, host, _, hread, hhost, rfl, rfl⟩

theorem decidePin_eq_ok {pin : String} {current : Option String} {decision : Decision}
    (h : decidePin o e pin current = .ok decision) :
    Text.isBlankString pin = false ∧ e.settings.checkPin current = .ok () ∧
      decision = commit { e.settings with pin := PinRecord.ofPin pin o.freshSalt } e.suspended
        "setPin" .done := by
  unfold decidePin at h
  rcases unless_eq_ok h with ⟨hblank, h⟩
  rcases bind_eq_ok h with ⟨_, hcurrent, h⟩
  cases h
  exact ⟨Bool.eq_false_iff.mpr hblank, hcurrent, rfl⟩

theorem decideImport_eq_ok {policy : PolicyExport} {pin : Option String} {decision : Decision}
    (h : decideImport e policy pin = .ok decision) :
    ∃ normal, e.settings.authorize pin = .ok () ∧
      (e.settings.imported policy).normalized = .ok normal ∧ normal.fault? = none ∧
      decision = commit normal [] "import" .done := by
  unfold decideImport at h
  rcases bind_eq_ok h with ⟨_, hauthorized, h⟩
  rcases bind_eq_ok h with ⟨normal, hnormal, h⟩
  rcases bind_eq_ok h with ⟨_, hvalid, h⟩
  cases h
  exact ⟨normal, hauthorized, hnormal, orFail_eq_ok hvalid, rfl⟩

theorem decideResume_eq_edit {rule : String} {edit : Edit} (h : decideResume e rule = .edit edit) :
    edit.suspended = e.released rule ∧ edit.saved = none ∧ edit.reply = .done := by
  unfold decideResume at h
  split at h
  · cases h
  · cases h
    exact ⟨rfl, rfl, rfl⟩

end Command
end SiteGuard
