import SiteGuard.Proofs.Engine.Pass
import SiteGuard.Proofs.Engine.Procedure

/-!
# The course of commands

Every command can be decided on the state as it is, which may refuse it and changes nothing;
what was decided is then carried out: suspensions end, settings are saved, and a pass brings
the table in step.  The procedures of the commands come to just that.
-/

namespace SiteGuard

open Calendar

/-! ## Decisions -/

/-- A change of the state; a pass with a reason may follow. -/
structure Edit where
  saved : Option Settings
  suspended : List Suspension
  reason : Option String
  reply : Reply

inductive Decision where
  | answer (r : Reply)
  | pass (reason : String)
  | edit (e : Edit)

namespace Command

def orFail (fault : Option Failure) : Except Failure Unit :=
  match fault with
  | none => .ok ()
  | some f => .error f

/-- Saves settings and passes; the suspensions are those given. -/
def commit (s : Settings) (suspended : List Suspension) (reason : String) (reply : Reply) :
    Decision :=
  .edit ⟨some s, suspended, some reason, reply⟩

def decidePatch (e : Engine) (patch : Json) (pin : Option String) : Except Failure Decision := do
  e.settings.authorize pin
  let merged ← (← Json.merge e.settings patch ["pin"]).normalized
  orFail merged.fault?
  .ok (commit merged (e.suspended.filter fun s => isRetained merged s.rule) "save" .done)

def decideAdd (o : Occasion) (e : Engine) (draft : RuleDraft) : Except Failure Decision := do
  let s := e.settings
  let rule := draft.toRule o.freshRuleId s.defaultBlockMode
  orFail rule.fault?
  if (s.rule? rule.id).isSome then throw (.duplicateRuleId rule.id)
  .ok (commit { s with rules := s.rules ++ [rule] } e.suspended "addRule" (.rule rule))

def decideRemove (e : Engine) (id : String) : Except Failure Decision := do
  let s := e.settings
  if (s.rule? id).isNone then throw (.notFound id)
  .ok (commit { s with rules := s.rules.eraseP fun r => r.id == id } (e.released id) "removeRule"
    .done)

def decideRulePatch (e : Engine) (patch : Json) : Except Failure Decision := do
  let s := e.settings
  match (patch.get? "id").bind Json.text? with
  | none => .error (.invalidSettings .ruleIdMissing)
  | some id =>
    match s.rule? id with
    | none => .error (.notFound id)
    | some rule =>
      let updated ← Json.merge rule patch ["id"]
      orFail updated.fault?
      .ok (commit { s with rules := replaceRule id updated s.rules } (e.released id) "updateRule"
        (.rule updated))

def decideSuspend (e : Engine) (rule url : String) : Except Failure Decision := do
  let _ ← urlOf url
  if rule ≠ Directive.catchAllRule ∧ (e.settings.rule? rule).isNone then throw (.notFound rule)
  .ok (.edit ⟨none, e.suspending rule, some "temporaryAllow",
    .allowance ⟨rule, e.graceSeconds, url⟩⟩)

/-- A suspension that has ended already is left alone. -/
def decideResume (e : Engine) (rule : String) : Decision :=
  if !e.isSuspended rule then .answer .done
  else
    let reason := if isRetained e.settings rule then some "restore" else none
    .edit ⟨none, e.released rule, reason, .done⟩

def decideOverride (o : Occasion) (e : Engine) (hostname : String) (minutes : Int64)
    (url : Option String) : Except Failure Decision := do
  let s := e.settings
  let n := minutes.toInt
  if n < 1 ∨ maxOverrideMinutes < n then throw (.invalidMinutes n)
  match HostPattern.hostname? hostname with
  | none => .error (.invalidHostname hostname)
  | some host =>
    match o.now.instant.after? (n.toNat * Instant.minuteNanos) with
    | none => .error (.invalidMinutes n)
    | some requested =>
      let overrides := s.overrides.extend host requested
      let till := (overrides.get? host).getD requested
      .ok (commit { s with overrides } e.suspended "override"
        (.grant ⟨host, till, url.getD (homePage host)⟩))

def decideSite (o : Occasion) (e : Engine) (url : String) : Except Failure Decision := do
  let s := e.settings
  match (← urlOf url).host? with
  | none => .error (.invalidUrl url .noHost)
  | some host =>
    let host := String.ofList (Text.lower host.toList)
    let known := s.rules.find? fun r =>
      r.kind == .wildcard && !r.allow && Text.lower r.pattern.toList == Text.lower host.toList
    match known with
    | some rule => .ok (.answer (.rule rule))
    | none =>
      let rule : Rule :=
        ⟨o.freshRuleId, host, .wildcard, s.defaultBlockMode, false, none, some siteNote⟩
      .ok (commit { s with rules := s.rules ++ [rule] } e.suspended "addCurrentSite" (.rule rule))

def decidePin (o : Occasion) (e : Engine) (pin : String) (current : Option String) :
    Except Failure Decision := do
  let s := e.settings
  if Text.isBlankString pin then throw (.invalidSettings .emptyPin)
  s.checkPin current
  .ok (commit { s with pin := PinRecord.ofPin pin o.freshSalt } e.suspended "setPin" .done)

def decideImport (e : Engine) (policy : PolicyExport) (pin : Option String) :
    Except Failure Decision := do
  e.settings.authorize pin
  let s ← (e.settings.imported policy).normalized
  orFail s.fault?
  .ok (commit s [] "import" .done)

def decide (o : Occasion) (e : Engine) : Command → Except Failure Decision
  | refresh reason => .ok (.pass reason)
  | viewSettings => .ok (.answer (.settings e.settings.redacted))
  | switchTo enabled => .ok (commit { e.settings with enabled } e.suspended "toggle" .done)
  | patchSettings patch pin => decidePatch e patch pin
  | addRule draft => decideAdd o e draft
  | removeRule id => decideRemove e id
  | patchRule patch => decideRulePatch e patch
  | findBlocker url => do
    let _ ← urlOf url
    .ok (.answer (.found (e.settings.rules.find? fun r => !r.allow && r.catches url)))
  | suspend rule url => decideSuspend e rule url
  | resume rule => .ok (decideResume e rule)
  | grantOverride hostname minutes url => decideOverride o e hostname minutes url
  | blockSite url => decideSite o e url
  | changePin pin current => decidePin o e pin current
  | exportPolicy => .ok (.answer (.policy e.settings.exported))
  | importPolicy policy pin => decideImport e policy pin
  | listDirectives => do .ok (.answer (.directives (← e.installed)))
  | navigate url => do
    let _ ← urlOf url
    .ok (.answer (.verdict (Verdict.of (← e.installed) url)))

end Command

/-! ## Carrying out -/

namespace Engine

def passThen (e : Engine) (now : Moment) (reason : String) (reply : Report → Reply) : Outcome :=
  let (result, e) := e.pass now reason
  ⟨result.map reply, e, true⟩

def passFor (e : Engine) (now : Moment) (reason : Option String) (reply : Reply) : Outcome :=
  match reason with
  | none => ⟨.ok reply, e, false⟩
  | some reason => e.passThen now reason fun _ => reply

def apply (e : Engine) (now : Moment) (edit : Edit) : Outcome :=
  let e := e.withSuspended edit.suspended
  match edit.saved with
  | none => e.passFor now edit.reason edit.reply
  | some s =>
    match e.saved s with
    | .error f => ⟨.error f, e, false⟩
    | .ok e => e.passFor now edit.reason edit.reply

def carryOut (e : Engine) (now : Moment) : Decision → Outcome
  | .answer r => ⟨.ok r, e, false⟩
  | .pass reason => e.passThen now reason .report
  | .edit edit => e.apply now edit

def settle (e : Engine) (now : Moment) : Except Failure Decision → Outcome
  | .error f => ⟨.error f, e, false⟩
  | .ok decision => e.carryOut now decision

/-! ## Suspensions that are left -/

theorem withSuspended_of_subset {e : Engine} {suspended : List Suspension}
    (h : ∀ s ∈ suspended, s ∈ e.suspended) :
    e.withSuspended suspended = { e with suspended } := by
  have hold : (suspended.any fun s => s.ticket == e.nextTicket && !e.suspended.contains s) =
      false := by
    rw [List.any_eq_false]
    intro s hs
    rw [List.contains_iff_mem.mpr (h s hs), Bool.not_true, Bool.and_false]
    exact Bool.false_ne_true
  unfold withSuspended
  rw [hold]
  rfl

theorem withSuspended_self (e : Engine) : e.withSuspended e.suspended = e :=
  withSuspended_of_subset fun _ hs => hs

theorem withSuspended_released (e : Engine) (rule : String) :
    e.withSuspended (e.released rule) = { e with suspended := e.released rule } :=
  withSuspended_of_subset fun _ hs => (List.mem_filter.mp hs).1

end Engine

namespace Procedure

/-! ## Procedures that end suspensions -/

theorem on_cancelAll (rules : List String) (w : Work) :
    (rules.forM cancel).on w =
      (.ok (), { w with engine :=
        w.engine.withSuspended (w.engine.suspended.filter fun s => !rules.contains s.rule) }) := by
  rw [Engine.withSuspended_of_subset fun _ hs => (List.mem_filter.mp hs).1]
  induction rules generalizing w with
  | nil =>
      have hall : (w.engine.suspended.filter fun s => !([] : List String).contains s.rule) =
          w.engine.suspended := List.filter_eq_self.mpr fun _ _ => rfl
      rw [hall]
      rfl
  | cons rule rest ih =>
      have hcancel := on_cancel rule w
      rw [Engine.withSuspended_released] at hcancel
      show (cancel rule >>= fun _ => rest.forM cancel).on w = _
      rw [on_bind_of_ok hcancel, ih]
      unfold Engine.released
      simp only [List.filter_filter, List.contains_cons, Bool.not_or]
      congr 3
      apply List.filter_congr
      intro s _
      rw [Bool.and_comm]
      rfl

/-! ## Procedures that go as decided -/

/-- A procedure comes to what was decided on the engine that it finds. -/
def GoesAs (p : Procedure Reply) (e : Engine) (now : Moment) (decided : Except Failure Decision) :
    Prop :=
  p.outcome e = e.settle now decided

section

variable {α : Type} {e : Engine} {now : Moment} {decided : Except Failure Decision}

theorem goesAs_answer (r : Reply) : GoesAs (pure r) e now (.ok (.answer r)) :=
  rfl

theorem goesAs_throw (f : Failure) : GoesAs (throw f) e now (.error f) :=
  rfl

/-- What is only looked at decides nothing. -/
theorem goesAs_look {p : Procedure α} {a : α} {next : α → Procedure Reply}
    (hlook : p.on ⟨e, false⟩ = (.ok a, ⟨e, false⟩)) (h : (next a).GoesAs e now decided) :
    (p >>= next).GoesAs e now decided := by
  unfold GoesAs outcome
  rw [on_bind_of_ok hlook]
  exact h

theorem goesAs_load {next : Settings → Procedure Reply}
    (h : (next e.settings).GoesAs e now decided) : (load >>= next).GoesAs e now decided :=
  goesAs_look (on_load _) h

theorem goesAs_suspendedRules {next : List String → Procedure Reply}
    (h : (next e.suspendedRules).GoesAs e now decided) :
    (suspendedRules >>= next).GoesAs e now decided :=
  goesAs_look (on_suspendedRules _) h

theorem goesAs_isSuspended {rule : String} {next : Bool → Procedure Reply}
    (h : (next (e.isSuspended rule)).GoesAs e now decided) :
    (isSuspended rule >>= next).GoesAs e now decided :=
  goesAs_look (on_isSuspended rule _) h

theorem goesAs_attempt {x : Except Failure α} {next : α → Procedure Reply}
    {decide : α → Except Failure Decision} (h : ∀ a, (next a).GoesAs e now (decide a)) :
    (attempt x >>= next).GoesAs e now (x >>= decide) := by
  unfold GoesAs outcome
  cases x with
  | error f =>
      rw [on_bind_of_error (on_attempt (.error f) ⟨e, false⟩)]
      rfl
  | ok a =>
      rw [on_bind_of_ok (on_attempt (.ok a) ⟨e, false⟩)]
      exact h a

theorem goesAs_check {fault : Option Failure} {next : Unit → Procedure Reply}
    {decide : Unit → Except Failure Decision} (h : (next ()).GoesAs e now (decide ())) :
    (check fault >>= next).GoesAs e now (Command.orFail fault >>= decide) := by
  have hattempt : (attempt (Command.orFail fault) >>= next).GoesAs e now
      (Command.orFail fault >>= decide) := goesAs_attempt fun _ => h
  cases fault with
  | none =>
      exact hattempt
  | some f =>
      exact hattempt

theorem goesAs_refuseIf {refused : Bool} {c : Prop} [Decidable c] {f : Failure}
    {next : Unit → Procedure Reply} {decide : Unit → Except Failure Decision}
    (hrefused : refused = true ↔ c) (h : (next ()).GoesAs e now decided) :
    (refuseIf refused f >>= next).GoesAs e now (if c then throw f >>= decide else decided) := by
  unfold GoesAs outcome
  by_cases hc : c
  · rw [if_pos hc, hrefused.mpr hc]
    rfl
  · rw [if_neg hc, Bool.eq_false_iff.mpr fun hrefuses => hc (hrefused.mp hrefuses)]
    exact h

theorem goesAs_installed {next : List Directive → Procedure Reply}
    {decide : List Directive → Except Failure Decision}
    (h : ∀ ds, (next ds).GoesAs e now (decide ds)) :
    (installed >>= next).GoesAs e now (e.installed >>= decide) :=
  goesAs_attempt (x := e.installed) h

theorem goesAs_edit {effect : Procedure Unit} {suspended : List Suspension} {s : Settings}
    {reason : String} {r : Reply}
    (heffect : effect.on ⟨e, false⟩ = (.ok (), ⟨e.withSuspended suspended, false⟩)) :
    GoesAs (effect >>= fun _ => commit now s reason >>= fun _ => pure r) e now
      (.ok (Command.commit s suspended reason r)) := by
  unfold GoesAs outcome
  rw [on_bind_of_ok heffect, on_bind]
  show Outcome.mk _ _ _ = e.apply now ⟨some s, suspended, some reason, r⟩
  unfold Engine.apply
  cases hsaved : (e.withSuspended suspended).saved s with
  | error f =>
      rw [on_commit_of_unsaved hsaved]
      simp only [hsaved]
  | ok stored =>
      rw [on_commit_of_saved hsaved]
      simp only [hsaved]
      unfold Engine.passFor Engine.passThen
      dsimp only
      cases (stored.pass now reason).1 with
      | error f =>
          rfl
      | ok report =>
          rfl

theorem goesAs_commit {s : Settings} {reason : String} {r : Reply} :
    GoesAs (commit now s reason >>= fun _ => pure r) e now
      (.ok (Command.commit s e.suspended reason r)) := by
  have heffect : (pure () : Procedure Unit).on ⟨e, false⟩ =
      (.ok (), ⟨e.withSuspended e.suspended, false⟩) := by
    rw [Engine.withSuspended_self]
    rfl
  exact goesAs_edit heffect

theorem goesAs_cancel {rule : String} {s : Settings} {reason : String} {r : Reply} :
    GoesAs (cancel rule >>= fun _ => commit now s reason >>= fun _ => pure r) e now
      (.ok (Command.commit s (e.released rule) reason r)) :=
  goesAs_edit (on_cancel rule ⟨e, false⟩)

theorem goesAs_cancelAll {rules : List String} {suspended : List Suspension} {s : Settings}
    {reason : String} {r : Reply}
    (hleft : suspended = e.suspended.filter fun held => !rules.contains held.rule) :
    GoesAs (rules.forM cancel >>= fun _ => commit now s reason >>= fun _ => pure r) e now
      (.ok (Command.commit s suspended reason r)) := by
  rw [hleft]
  exact goesAs_edit (on_cancelAll rules ⟨e, false⟩)

theorem goesAs_suspend {rule url reason : String} :
    GoesAs (schedule rule >>= fun _ => pass now reason >>= fun _ => grace >>= fun seconds =>
        pure (.allowance ⟨rule, seconds, url⟩)) e now
      (.ok (.edit ⟨none, e.suspending rule, some reason,
        .allowance ⟨rule, e.graceSeconds, url⟩⟩)) := by
  have hgrace := congrArg Engine.graceSeconds
    ((e.withSuspended (e.suspending rule)).pass_eq_with_backends now reason)
  unfold GoesAs outcome
  rw [on_bind_of_ok (on_schedule rule ⟨e, false⟩), on_bind, on_pass]
  show _ = Engine.passThen _ now reason _
  unfold Engine.passThen
  dsimp only at hgrace ⊢
  cases ((e.withSuspended (e.suspending rule)).pass now reason).1 with
  | error f =>
      rfl
  | ok report =>
      dsimp only
      rw [on_bind_of_ok (on_grace _), hgrace]
      rfl

theorem goesAs_pass {reason : String} {reply : Engine.Report → Reply} :
    (pass now reason >>= fun report => pure (reply report)).outcome e =
      e.passThen now reason reply := by
  unfold outcome Engine.passThen
  rw [on_bind, on_pass]
  dsimp only
  cases (e.pass now reason).1 with
  | error f =>
      rfl
  | ok report =>
      rfl

/-- A suspension ends, and there is a pass unless the settings say that there need be none. -/
theorem goesAs_release {rule reason : String} {passes : Settings → Bool} {r : Reply} :
    GoesAs (cancel rule >>= fun _ => load >>= fun s =>
        if !passes s then pure r else pass now reason >>= fun _ => pure r) e now
      (.ok (.edit ⟨none, e.released rule, if passes e.settings then some reason else none, r⟩)) := by
  show (if !passes e.settings then pure r else pass now reason >>= fun _ => pure r).outcome
      (e.withSuspended (e.released rule)) =
    (e.withSuspended (e.released rule)).passFor now
      (if passes e.settings then some reason else none) r
  cases passes e.settings with
  | false =>
      rfl
  | true =>
      exact goesAs_pass

end

end Procedure

/-! ## Commands -/

namespace Command

variable {e : Engine} {o : Occasion}

open Procedure

theorem switch_goes (enabled : Bool) :
    (switch o enabled).GoesAs e o.now
      (.ok (commit { e.settings with enabled } e.suspended "toggle" .done)) :=
  goesAs_load goesAs_commit

theorem isRetained_eq_not_dropped (s : Settings) {held : Suspension} (h : held ∈ e.suspended) :
    isRetained s held.rule =
      !(e.suspendedRules.filter fun rule => !isRetained s rule).contains held.rule := by
  have hrule : held.rule ∈ e.suspendedRules := List.mem_map_of_mem h
  cases hretained : isRetained s held.rule with
  | true =>
      have hkept : held.rule ∉ e.suspendedRules.filter fun rule => !isRetained s rule := by
        intro hdropped
        have hgone := (List.mem_filter.mp hdropped).2
        rw [hretained] at hgone
        cases hgone
      rw [Bool.eq_false_iff.mpr fun hcontains => hkept (List.contains_iff_mem.mp hcontains)]
      rfl
  | false =>
      have hdropped : held.rule ∈ e.suspendedRules.filter fun rule => !isRetained s rule :=
        List.mem_filter.mpr ⟨hrule, by rw [hretained]; rfl⟩
      rw [List.contains_iff_mem.mpr hdropped]
      rfl

theorem patch_goes (changes : Json) (pin : Option String) :
    (patch o changes pin).GoesAs e o.now (decidePatch e changes pin) := by
  refine goesAs_load (goesAs_attempt fun _ => goesAs_attempt fun merged => goesAs_attempt
    fun normal => goesAs_check (goesAs_suspendedRules (goesAs_cancelAll ?_)))
  apply List.filter_congr
  intro s hs
  exact isRetained_eq_not_dropped normal hs

theorem add_goes (draft : RuleDraft) :
    (add o draft).GoesAs e o.now (decideAdd o e draft) :=
  goesAs_load (goesAs_check (goesAs_refuseIf Iff.rfl goesAs_commit))

theorem remove_goes (id : String) :
    (remove o id).GoesAs e o.now (decideRemove e id) :=
  goesAs_load (goesAs_refuseIf Iff.rfl goesAs_cancel)

theorem patchedRule_goes (changes : Json) :
    (patchedRule o changes).GoesAs e o.now (decideRulePatch e changes) := by
  unfold patchedRule decideRulePatch
  cases (changes.get? "id").bind Json.text? with
  | none =>
      exact goesAs_throw _
  | some id =>
      apply goesAs_load
      dsimp only
      cases e.settings.rule? id with
      | none =>
          exact goesAs_throw _
      | some rule =>
          exact goesAs_attempt fun updated => goesAs_check goesAs_cancel

theorem blocker_goes (url : String) :
    (blocker url).GoesAs e o.now (decide o e (.findBlocker url)) :=
  goesAs_attempt fun _ => goesAs_load (goesAs_answer _)

theorem letThrough_goes (rule url : String) :
    (letThrough o rule url).GoesAs e o.now (decideSuspend e rule url) := by
  refine goesAs_attempt fun _ => goesAs_load (goesAs_refuseIf ?_ goesAs_suspend)
  rw [Bool.and_eq_true, bne_iff_ne]

theorem restore_goes (rule : String) :
    (restore o rule).GoesAs e o.now (.ok (decideResume e rule)) := by
  unfold restore decideResume
  refine goesAs_isSuspended ?_
  cases e.isSuspended rule with
  | false =>
      exact goesAs_answer _
  | true =>
      exact goesAs_release

theorem override_goes (hostname : String) (minutes : Int64) (url : Option String) :
    (override o hostname minutes url).GoesAs e o.now
      (decideOverride o e hostname minutes url) := by
  unfold override decideOverride
  refine goesAs_refuseIf decide_eq_true_iff ?_
  cases HostPattern.hostname? hostname with
  | none =>
      exact goesAs_throw _
  | some host =>
      dsimp only
      cases o.now.instant.after? (minutes.toInt.toNat * Instant.minuteNanos) with
      | none =>
          exact goesAs_throw _
      | some requested =>
          exact goesAs_load goesAs_commit

theorem block_goes (url : String) :
    (block o url).GoesAs e o.now (decideSite o e url) := by
  refine goesAs_attempt fun u => ?_
  cases u.host? with
  | none =>
      exact goesAs_throw _
  | some host =>
      refine goesAs_load ?_
      dsimp only
      cases e.settings.rules.find? fun r =>
          r.kind == .wildcard && !r.allow && Text.lower r.pattern.toList ==
            Text.lower (String.ofList (Text.lower host.toList)).toList with
      | some rule =>
          exact goesAs_answer _
      | none =>
          exact goesAs_commit

theorem choosePin_goes (pin : String) (current : Option String) :
    (choosePin o pin current).GoesAs e o.now (decidePin o e pin current) :=
  goesAs_refuseIf Iff.rfl (goesAs_load (goesAs_attempt fun _ => goesAs_commit))

theorem takeOver_goes (policy : PolicyExport) (pin : Option String) :
    (takeOver o policy pin).GoesAs e o.now (decideImport e policy pin) := by
  refine goesAs_load (goesAs_attempt fun _ => goesAs_attempt fun s => goesAs_check
    (goesAs_suspendedRules (goesAs_cancelAll ?_)))
  symm
  rw [List.filter_eq_nil_iff]
  intro held hheld
  have hrule : held.rule ∈ e.suspendedRules := List.mem_map_of_mem hheld
  rw [List.contains_iff_mem.mpr hrule]
  exact Bool.false_ne_true

theorem judge_goes (url : String) :
    (judge url).GoesAs e o.now (decide o e (.navigate url)) :=
  goesAs_attempt fun _ => goesAs_installed fun _ => goesAs_answer _

theorem procedure_goes (o : Occasion) (e : Engine) (c : Command) :
    (c.procedure o).GoesAs e o.now (c.decide o e) := by
  cases c with
  | refresh reason =>
      exact goesAs_pass
  | viewSettings =>
      exact goesAs_load (goesAs_answer _)
  | switchTo enabled =>
      exact switch_goes enabled
  | patchSettings changes pin =>
      exact patch_goes changes pin
  | addRule draft =>
      exact add_goes draft
  | removeRule id =>
      exact remove_goes id
  | patchRule changes =>
      exact patchedRule_goes changes
  | findBlocker url =>
      exact blocker_goes url
  | suspend rule url =>
      exact letThrough_goes rule url
  | resume rule =>
      exact restore_goes rule
  | grantOverride hostname minutes url =>
      exact override_goes hostname minutes url
  | blockSite url =>
      exact block_goes url
  | changePin pin current =>
      exact choosePin_goes pin current
  | exportPolicy =>
      exact goesAs_load (goesAs_answer _)
  | importPolicy policy pin =>
      exact takeOver_goes policy pin
  | listDirectives =>
      exact goesAs_installed fun _ => goesAs_answer _
  | navigate url =>
      exact judge_goes url

end Command

namespace Engine

variable {e : Engine} {o : Occasion} {c : Command}

theorem run_eq (e : Engine) (o : Occasion) (c : Command) :
    e.run o c = e.settle o.now (c.decide o e) :=
  Command.procedure_goes o e c

theorem run_of_refused {f : Failure} (h : c.decide o e = .error f) :
    e.run o c = ⟨.error f, e, false⟩ := by
  rw [run_eq, h]
  rfl

theorem run_of_decided {decision : Decision} (h : c.decide o e = .ok decision) :
    e.run o c = e.carryOut o.now decision := by
  rw [run_eq, h]
  rfl

end Engine
end SiteGuard
