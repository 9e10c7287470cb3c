import SiteGuard.Proofs.Engine.Decision
import SiteGuard.Proofs.Engine.Refusal

/-!
# What commands save

Settings change in two ways alone: a command saves new ones, which are described
here command by command, or a pass drops overrides that have run out.
-/

namespace SiteGuard

open Calendar

/-! ## Saved settings -/

/-- The settings that a command saves, and the reply that goes with them. -/
inductive Command.Saves (o : Occasion) (e : Engine) : Command → Settings → Reply → Prop where
  | switched {enabled : Bool} :
      Command.Saves o e (.switchTo enabled) { e.settings with enabled } .done
  | patched {patch : Json} {pin : Option String} {merged normal : Settings}
      (hauthorized : e.settings.authorize pin = .ok ())
      (hmerge : Json.merge e.settings patch ["pin"] = .ok merged)
      (hnormal : merged.normalized = .ok normal) (hvalid : normal.fault? = none) :
      Command.Saves o e (.patchSettings patch pin) normal .done
  | added {draft : RuleDraft} {rule : Rule}
      (hrule : rule = draft.toRule o.freshRuleId e.settings.defaultBlockMode)
      (hvalid : rule.fault? = none) (hnew : e.settings.rule? rule.id = none) :
      Command.Saves o e (.addRule draft)
        { e.settings with rules := e.settings.rules ++ [rule] } (.rule rule)
  | removed {id : String} {rule : Rule} (hrule : e.settings.rule? id = some rule) :
      Command.Saves o e (.removeRule id)
        { e.settings with rules := e.settings.rules.eraseP fun r => r.id == id } .done
  | edited {patch : Json} {id : String} {rule updated : Rule}
      (hid : (patch.get? "id").bind Json.text? = some id)
      (hrule : e.settings.rule? id = some rule)
      (hmerge : Json.merge rule patch ["id"] = .ok updated) (hvalid : updated.fault? = none) :
      Command.Saves o e (.patchRule patch)
        { e.settings with rules := Command.replaceRule id updated e.settings.rules }
        (.rule updated)
  | granted {hostname : String} {minutes : Int64} {url : Option String} {host : String}
      {requested : Instant} (hleast : 1 ≤ minutes.toInt)
      (hmost : minutes.toInt ≤ Command.maxOverrideMinutes)
      (hhost : HostPattern.hostname? hostname = some host)
      (hrequested : o.now.instant.after? (minutes.toInt.toNat * Instant.minuteNanos) =
        some requested) :
      Command.Saves o e (.grantOverride hostname minutes url)
        { e.settings with overrides := e.settings.overrides.extend host requested }
        (.grant ⟨host, ((e.settings.overrides.extend host requested).get? host).getD requested,
          url.getD (homePage host)⟩)
  | blocked {url host : String} {u : Url} {rule : Rule} (hread : Command.urlOf url = .ok u)
      (hhost : u.host? = some host)
      (hrule : rule = ⟨o.freshRuleId, String.ofList (Text.lower host.toList), .wildcard,
        e.settings.defaultBlockMode, false, none, some Command.siteNote⟩) :
      Command.Saves o e (.blockSite url)
        { e.settings with rules := e.settings.rules ++ [rule] } (.rule rule)
  | pinned {pin : String} {current : Option String} (hpin : Text.isBlankString pin = false)
      (hcurrent : e.settings.checkPin current = .ok ()) :
      Command.Saves o e (.changePin pin current)
        { e.settings with pin := PinRecord.ofPin pin o.freshSalt } .done
  | imported {policy : PolicyExport} {pin : Option String} {normal : Settings}
      (hauthorized : e.settings.authorize pin = .ok ())
      (hnormal : (e.settings.imported policy).normalized = .ok normal)
      (hvalid : normal.fault? = none) :
      Command.Saves o e (.importPolicy policy pin) normal .done

namespace Command

variable {o : Occasion} {e : Engine}

theorem Saves.of_commit {c : Command} {s : Settings} {suspended : List Suspension}
    {reason : String} {reply : Reply} {edit : Edit} (h : c.Saves o e s reply)
    (hcommit : commit s suspended reason reply = .edit edit) :
    ∃ s', edit.saved = some s' ∧ c.Saves o e s' edit.reply := by
  cases hcommit
  exact ⟨s, rfl, h⟩

theorem edit_of_decide {c : Command} {edit : Edit} (h : c.decide o e = .ok (.edit edit)) :
    (∃ s, edit.saved = some s ∧ c.Saves o e s edit.reply) ∨
      edit.saved = none ∧ (edit.reply = .done ∨ ∃ a, edit.reply = .allowance a) := by
  cases c with
  | refresh reason =>
      cases h
  | viewSettings =>
      cases h
  | switchTo enabled =>
      exact Or.inl (Saves.switched.of_commit (Except.ok.inj h))
  | patchSettings patch pin =>
      rcases decidePatch_eq_ok h with ⟨_, _, hauthorized, hmerge, hnormal, hvalid, hcommit⟩
      exact Or.inl ((Saves.patched hauthorized hmerge hnormal hvalid).of_commit hcommit.symm)
  | addRule draft =>
      rcases decideAdd_eq_ok h with ⟨_, hrule, hvalid, hnew, hcommit⟩
      exact Or.inl ((Saves.added hrule hvalid hnew).of_commit hcommit.symm)
  | removeRule id =>
      rcases decideRemove_eq_ok h with ⟨⟨_, hrule⟩, hcommit⟩
      exact Or.inl ((Saves.removed hrule).of_commit hcommit.symm)
  | patchRule patch =>
      rcases decideRulePatch_eq_ok h with ⟨_, _, _, hid, hrule, hmerge, hvalid, hcommit⟩
      exact Or.inl ((Saves.edited hid hrule hmerge hvalid).of_commit hcommit.symm)
  | findBlocker url =>
      rcases bind_eq_ok h with ⟨_, _, hanswer⟩
      cases hanswer
  | suspend rule url =>
      cases decideSuspend_eq_ok h
      exact Or.inr ⟨rfl, Or.inr ⟨_, rfl⟩⟩
  | resume rule =>
      rcases decideResume_eq_edit (Except.ok.inj h) with ⟨_, hsaved, hreply⟩
      exact Or.inr ⟨hsaved, Or.inl hreply⟩
  | grantOverride hostname minutes url =>
      have hdecide : decideOverride o e hostname minutes url = .ok (.edit edit) := h
      rcases decideOverride_eq_ok hdecide with
        ⟨_, _, hleast, hmost, hhost, hrequested, hcommit⟩
      exact Or.inl ((Saves.granted hleast hmost hhost hrequested).of_commit hcommit.symm)
  | blockSite url =>
      rcases decideSite_eq_ok h with ⟨_, _, hanswer⟩ | ⟨_, _, _, hread, hhost, hrule, hcommit⟩
      · cases hanswer
      · exact Or.inl ((Saves.blocked hread hhost hrule).of_commit hcommit.symm)
  | changePin pin current =>
      rcases decidePin_eq_ok h with ⟨hpin, hcurrent, hcommit⟩
      exact Or.inl ((Saves.pinned hpin hcurrent).of_commit hcommit.symm)
  | exportPolicy =>
      cases h
  | importPolicy policy pin =>
      rcases decideImport_eq_ok h with ⟨_, hauthorized, hnormal, hvalid, hcommit⟩
      exact Or.inl ((Saves.imported hauthorized hnormal hvalid).of_commit hcommit.symm)
  | listDirectives =>
      rcases bind_eq_ok h with ⟨_, _, hanswer⟩
      cases hanswer
  | navigate url =>
      rcases bind_eq_ok h with ⟨_, _, h⟩
      rcases bind_eq_ok h with ⟨_, _, hanswer⟩
      cases hanswer

theorem saves_of_decide {c : Command} {edit : Edit} {s : Settings}
    (h : c.decide o e = .ok (.edit edit)) (hsaved : edit.saved = some s) :
    c.Saves o e s edit.reply := by
  rcases edit_of_decide h with ⟨s', hs', hsaves⟩ | ⟨hnone, _⟩
  · cases hs'.symm.trans hsaved
    exact hsaves
  · cases hnone.symm.trans hsaved

/-- The only rule that is answered without an edit is one that blocks the site already. -/
theorem mem_rules_of_answer {c : Command} {rule : Rule}
    (h : c.decide o e = .ok (.answer (.rule rule))) : rule ∈ e.settings.rules := by
  cases c with
  | blockSite url =>
      rcases decideSite_eq_ok h with ⟨known, hknown, hanswer⟩ | ⟨_, _, _, _, _, _, hcommit⟩
      · cases hanswer
        exact hknown
      · cases hcommit
  | patchSettings patch pin =>
      rcases decidePatch_eq_ok h with ⟨_, _, _, _, _, _, hcommit⟩
      cases hcommit
  | addRule draft =>
      rcases decideAdd_eq_ok h with ⟨_, _, _, _, hcommit⟩
      cases hcommit
  | removeRule id =>
      rcases decideRemove_eq_ok h with ⟨_, hcommit⟩
      cases hcommit
  | patchRule patch =>
      rcases decideRulePatch_eq_ok h with ⟨_, _, _, _, _, _, _, hcommit⟩
      cases hcommit
  | findBlocker url =>
      rcases bind_eq_ok h with ⟨_, _, hanswer⟩
      cases hanswer
  | suspend rule url =>
      cases decideSuspend_eq_ok h
  | resume rule =>
      have hresume : decideResume e rule = .answer (.rule _) := Except.ok.inj h
      unfold decideResume at hresume
      split at hresume
      · cases hresume
      · cases hresume
  | grantOverride hostname minutes url =>
      have hdecide : decideOverride o e hostname minutes url = .ok (.answer (.rule _)) := h
      rcases decideOverride_eq_ok hdecide with ⟨_, _, _, _, _, _, hcommit⟩
      cases hcommit
  | changePin pin current =>
      rcases decidePin_eq_ok h with ⟨_, _, hcommit⟩
      cases hcommit
  | importPolicy policy pin =>
      rcases decideImport_eq_ok h with ⟨_, _, _, _, hcommit⟩
      cases hcommit
  | listDirectives =>
      rcases bind_eq_ok h with ⟨_, _, hanswer⟩
      cases hanswer
  | navigate url =>
      rcases bind_eq_ok h with ⟨_, _, h⟩
      rcases bind_eq_ok h with ⟨_, _, hanswer⟩
      cases hanswer
  | _ =>
      cases h

end Command

/-! ## Stored settings -/

/-- Settings are stored in the end, or what a pass has left of them. -/
def Outcome.Stores (out : Outcome) (now : Instant) (s : Settings) : Prop :=
  out.engine.settings = s ∨ (out.passed = true ∧ out.engine.settings = s.purged now)

namespace Engine

theorem pass_store (e : Engine) (now : Moment) (reason : String) :
    (e.pass now reason).2.store = (e.purged now.instant).store := by
  cases hresult : (e.pass now reason).1 with
  | ok report =>
      have hpass : e.pass now reason = (.ok report, (e.pass now reason).2) :=
        Prod.ext hresult rfl
      rw [pass_frame hpass]
  | error f =>
      rw [(pass_error hresult).2]

theorem pass_settings (e : Engine) (now : Moment) (reason : String) :
    (e.pass now reason).2.settings = e.settings ∨
      (e.pass now reason).2.settings = e.settings.purged now.instant := by
  have hstore : (e.pass now reason).2.settings = (e.purged now.instant).settings :=
    congrArg Store.load (e.pass_store now reason)
  rw [hstore]
  exact e.settings_purged now.instant

/-- Apart from the overrides a pass keeps the settings, and it keeps the suspensions. -/
theorem kept_of_pass {before e : Engine} {now : Moment} {reason : String} {report : Report}
    (hpass : before.pass now reason = (.ok report, e)) :
    e.settings.rules = before.settings.rules ∧ e.settings.enabled = before.settings.enabled ∧
      e.settings.allowlistMode = before.settings.allowlistMode ∧
      e.suspendedRules = before.suspendedRules := by
  have hsuspended : e.suspendedRules = before.suspendedRules := by
    rw [pass_frame hpass]
    rfl
  have hstored := before.pass_settings now reason
  rw [hpass] at hstored
  rcases hstored with hsame | hpurged
  · rw [hsame]
    exact ⟨rfl, rfl, rfl, hsuspended⟩
  · rw [hpurged]
    exact ⟨rfl, rfl, rfl, hsuspended⟩

theorem passThen_stores (e : Engine) (now : Moment) (reason : String) (reply : Report → Reply) :
    (e.passThen now reason reply).Stores now.instant e.settings := by
  rcases e.pass_settings now reason with hkept | hpurged
  · exact Or.inl hkept
  · exact Or.inr ⟨rfl, hpurged⟩

theorem passFor_stores (e : Engine) (now : Moment) (reason : Option String) (reply : Reply) :
    (e.passFor now reason reply).Stores now.instant e.settings := by
  cases reason with
  | none =>
      exact Or.inl rfl
  | some reason =>
      exact e.passThen_stores now reason _

/-! ## Edits -/

theorem store_of_saved {e e' : Engine} {s : Settings} (h : e.saved s = .ok e') :
    e.outage.save = false ∧ e.store.save s = .ok e'.store := by
  unfold saved at h
  split at h
  · cases h
  · rename_i hout
    rcases map_eq_ok h with ⟨store, hstore, rfl⟩
    exact ⟨Bool.eq_false_of_not_eq_true hout, hstore⟩

theorem saved_of_store {e : Engine} {s : Settings} {store : Store} (hout : e.outage.save = false)
    (h : e.store.save s = .ok store) : e.saved s = .ok { e with store } := by
  unfold saved
  rw [hout, h]
  rfl

theorem saved_withSuspended (e : Engine) (suspended : List Suspension) (s : Settings) :
    (e.withSuspended suspended).saved s = (e.saved s).map (·.withSuspended suspended) := by
  cases hout : e.outage.save with
  | true =>
      simp only [saved, withSuspended, hout, if_true, Except.map]
  | false =>
      simp only [saved, withSuspended, hout, Bool.false_eq_true, if_false]
      cases e.store.save s with
      | error f =>
          rfl
      | ok store =>
          rfl

theorem apply_of_saved {e e' : Engine} {edit : Edit} {s : Settings} (hedit : edit.saved = some s)
    (hsaved : e.saved s = .ok e') (now : Moment) :
    e.apply now edit = (e'.withSuspended edit.suspended).passFor now edit.reason edit.reply := by
  unfold apply
  simp only [hedit, saved_withSuspended, hsaved, Except.map]

theorem apply_of_unsaved {e : Engine} {edit : Edit} {s : Settings} {f : Failure}
    (hedit : edit.saved = some s) (hsaved : e.saved s = .error f) (now : Moment) :
    e.apply now edit = ⟨.error f, e.withSuspended edit.suspended, false⟩ := by
  unfold apply
  simp only [hedit, saved_withSuspended, hsaved, Except.map]

theorem apply_stores (e : Engine) (now : Moment) (edit : Edit) :
    ∃ s, (s = e.settings ∨ edit.saved = some s) ∧ (e.apply now edit).Stores now.instant s := by
  unfold apply
  cases hedit : edit.saved with
  | none =>
      exact ⟨e.settings, Or.inl rfl, passFor_stores _ now edit.reason edit.reply⟩
  | some s =>
      cases hsaved : (e.withSuspended edit.suspended).saved s with
      | error f =>
          simp only [hsaved]
          exact ⟨e.settings, Or.inl rfl, Or.inl rfl⟩
      | ok e' =>
          simp only [hsaved]
          have hstores := passFor_stores e' now edit.reason edit.reply
          rw [(saved_eq_ok hsaved).2] at hstores
          exact ⟨s, Or.inr rfl, hstores⟩

/-- A command leaves the settings that there were or those that it saves, up to a pass. -/
theorem run_stores (e : Engine) (o : Occasion) (c : Command) :
    ∃ s, (s = e.settings ∨ ∃ reply, c.Saves o e s reply) ∧
      (e.run o c).Stores o.now.instant s := by
  rw [run_eq]
  unfold settle
  cases hdecide : c.decide o e with
  | error f =>
      exact ⟨e.settings, Or.inl rfl, Or.inl rfl⟩
  | ok decision =>
      cases decision with
      | answer r =>
          exact ⟨e.settings, Or.inl rfl, Or.inl rfl⟩
      | pass reason =>
          exact ⟨e.settings, Or.inl rfl, e.passThen_stores o.now reason .report⟩
      | edit edit =>
          rcases e.apply_stores o.now edit with ⟨s, hkept | hsaved, hstores⟩
          · exact ⟨s, Or.inl hkept, hstores⟩
          · exact ⟨s, Or.inr ⟨edit.reply, Command.saves_of_decide hdecide hsaved⟩, hstores⟩

/-! ## Replies -/

theorem passFor_reply {e : Engine} {now : Moment} {reason : Option String} {reply r : Reply}
    (hok : (e.passFor now reason reply).result = .ok r) : r = reply := by
  cases reason with
  | none =>
      cases hok
      rfl
  | some reason =>
      rcases map_eq_ok hok with ⟨_, _, hreply⟩
      exact hreply.symm

theorem apply_eq_ok {e : Engine} {now : Moment} {edit : Edit} {r : Reply}
    (hok : (e.apply now edit).result = .ok r) :
    r = edit.reply ∧ ∀ s, edit.saved = some s → (e.apply now edit).Stores now.instant s := by
  unfold apply at hok ⊢
  cases hedit : edit.saved with
  | none =>
      rw [hedit] at hok
      refine ⟨passFor_reply hok, ?_⟩
      intro s hs
      cases hs
  | some s =>
      rw [hedit] at hok
      cases hsaved : (e.withSuspended edit.suspended).saved s with
      | error f =>
          simp only [hsaved] at hok
          cases hok
      | ok e' =>
          simp only [hsaved] at hok ⊢
          refine ⟨passFor_reply hok, ?_⟩
          intro s' hs'
          cases hs'
          have hstores := passFor_stores e' now edit.reason edit.reply
          rw [(saved_eq_ok hsaved).2] at hstores
          exact hstores

/-- A reply is an answer, or the report of a pass, or it comes with what has been saved. -/
theorem run_eq_ok {e : Engine} {o : Occasion} {c : Command} {r : Reply}
    (hok : (e.run o c).result = .ok r) :
    (c.decide o e = .ok (.answer r) ∧ (e.run o c).engine = e) ∨ (∃ report, r = .report report) ∨
      ∃ edit, c.decide o e = .ok (.edit edit) ∧ r = edit.reply ∧
        ∀ s, edit.saved = some s → (e.run o c).Stores o.now.instant s := by
  cases hdecide : c.decide o e with
  | error f =>
      rw [run_of_refused hdecide] at hok
      cases hok
  | ok decision =>
      rw [run_of_decided hdecide] at hok ⊢
      cases decision with
      | answer reply =>
          cases hok
          exact Or.inl ⟨rfl, rfl⟩
      | pass reason =>
          rcases map_eq_ok hok with ⟨report, _, hreply⟩
          exact Or.inr (Or.inl ⟨report, hreply.symm⟩)
      | edit edit =>
          rcases apply_eq_ok hok with ⟨hreply, hstores⟩
          exact Or.inr (Or.inr ⟨edit, rfl, hreply, hstores⟩)

theorem run_of_commit {e after : Engine} {o : Occasion} {c : Command} {s : Settings}
    {suspended : List Suspension} {reason : String} {reply : Reply}
    (hdecide : c.decide o e = .ok (Command.commit s suspended reason reply))
    (hsaved : e.saved s = .ok after) :
    e.run o c = (after.withSuspended suspended).passThen o.now reason fun _ => reply := by
  rw [run_of_decided hdecide]
  show e.apply o.now ⟨some s, suspended, some reason, reply⟩ = _
  exact apply_of_saved rfl hsaved o.now

/-- A command that saves and has not failed has saved, and come to a pass on what it saved. -/
theorem saved_of_commit {e : Engine} {o : Occasion} {c : Command} {s : Settings}
    {suspended : List Suspension} {reason : String} {reply r : Reply}
    (hdecide : c.decide o e = .ok (Command.commit s suspended reason reply))
    (hok : (e.run o c).result = .ok r) :
    ∃ (after : Engine) (report : Report), e.saved s = .ok after ∧ r = reply ∧
      (after.withSuspended suspended).pass o.now reason = (.ok report, (e.run o c).engine) := by
  cases hsaved : e.saved s with
  | error f =>
      have hrun : e.run o c = e.apply o.now ⟨some s, suspended, some reason, reply⟩ :=
        run_of_decided hdecide
      rw [hrun, apply_of_unsaved rfl hsaved] at hok
      cases hok
  | ok after =>
      rw [run_of_commit hdecide hsaved] at hok ⊢
      rcases pass_of_passThen hok with ⟨report, hpass⟩
      rcases map_eq_ok hok with ⟨_, _, hreply⟩
      exact ⟨after, report, rfl, hreply.symm, hpass⟩

theorem run_commit {e : Engine} {o : Occasion} {c : Command} {s : Settings}
    {suspended : List Suspension} {reason : String} {reply r : Reply}
    (hdecide : c.decide o e = .ok (Command.commit s suspended reason reply))
    (hok : (e.run o c).result = .ok r) :
    ∃ (before : Engine) (report : Report), before.settings = s ∧ before.table = e.table ∧
      before.suspended = suspended ∧ r = reply ∧
      before.pass o.now reason = (.ok report, (e.run o c).engine) := by
  rcases saved_of_commit hdecide hok with ⟨after, report, hsaved, hreply, hpass⟩
  have htable : after.table = e.table := saved_table hsaved
  exact ⟨after.withSuspended suspended, report, (saved_eq_ok hsaved).2, htable, rfl, hreply, hpass⟩

end Engine
end SiteGuard
