import SiteGuard.Proofs.Engine.Refusal

/-!
# Commands are atomic

A command that is refused changes nothing at all, for what it has to check is checked before
it has any effect.  One that fails later does so because a backend has failed, and the table
then is as it was, for nothing touches it but a pass, and a pass comes last.
-/

namespace SiteGuard

open Calendar

namespace Procedure

variable {α β : Type}

/-! ## What procedures may do -/

def Looks (p : Procedure α) : Prop :=
  ∀ w, (p.on w).2 = w

def Answers (p : Procedure α) : Prop :=
  ∀ w, ∃ a, (p.on w).1 = .ok a

/-- The table is left alone, and nothing fails but a backend. -/
structure Works (p : Procedure α) : Prop where
  table : ∀ w, (p.on w).2.engine.table = w.engine.table
  backend : ∀ w f, (p.on w).1 = .error f → f.IsBackend

/-- Nothing fails but a backend, and the table is as it was if one does. -/
def Closes (p : Procedure α) : Prop :=
  ∀ w f, (p.on w).1 = .error f → f.IsBackend ∧ (p.on w).2.engine.table = w.engine.table

/-- If anything fails, the table is as it was, and so is the engine unless it was a backend. -/
def Atomic (p : Procedure α) : Prop :=
  ∀ w f, (p.on w).1 = .error f →
    (p.on w).2.engine.table = w.engine.table ∧ ((p.on w).2.engine = w.engine ∨ f.IsBackend)

/-! ## Sequences -/

theorem Looks.bind {p : Procedure α} {next : α → Procedure β} (h : p.Looks)
    (hnext : ∀ a, (next a).Looks) : (p >>= next).Looks := by
  intro w
  rw [on_bind, h w]
  cases (p.on w).1 with
  | ok a =>
      exact hnext a w
  | error f =>
      rfl

theorem Answers.bind {p : Procedure α} {next : α → Procedure β} (h : p.Answers)
    (hnext : ∀ a, (next a).Answers) : (p >>= next).Answers := by
  intro w
  rcases h w with ⟨a, ha⟩
  rw [on_bind, ha]
  exact hnext a _

theorem Looks.works {p : Procedure α} (h : p.Looks) (hanswers : p.Answers) : p.Works where
  table w := by
    rw [h w]
  backend w f hfails := by
    rcases hanswers w with ⟨a, ha⟩
    rw [ha] at hfails
    cases hfails

theorem Works.bind {p : Procedure α} {next : α → Procedure β} (h : p.Works)
    (hnext : ∀ a, (next a).Closes) : (p >>= next).Closes := by
  intro w f hfails
  rcases error_of_bind hfails with ⟨hfirst, hleft⟩ | ⟨a, _, hlater, hleft⟩
  · rw [hleft]
    exact ⟨h.backend w f hfirst, h.table w⟩
  · rw [hleft]
    rcases hnext a _ f hlater with ⟨hbackend, htable⟩
    exact ⟨hbackend, htable.trans (h.table w)⟩

theorem Closes.bind {p : Procedure α} {next : α → Procedure β} (h : p.Closes)
    (hnext : ∀ a, (next a).Answers) : (p >>= next).Closes := by
  intro w f hfails
  rcases error_of_bind hfails with ⟨hfirst, hleft⟩ | ⟨a, _, hlater, _⟩
  · rw [hleft]
    exact h w f hfirst
  · rcases hnext a (p.on w).2 with ⟨b, hanswer⟩
    rw [hanswer] at hlater
    cases hlater

theorem Answers.closes {p : Procedure α} (h : p.Answers) : p.Closes := by
  intro w f hfails
  rcases h w with ⟨a, ha⟩
  rw [ha] at hfails
  cases hfails

theorem Closes.atomic {p : Procedure α} (h : p.Closes) : p.Atomic := by
  intro w f hfails
  rcases h w f hfails with ⟨hbackend, htable⟩
  exact ⟨htable, Or.inr hbackend⟩

theorem Looks.atomic {p : Procedure α} (h : p.Looks) : p.Atomic := by
  intro w f _
  rw [h w]
  exact ⟨rfl, Or.inl rfl⟩

theorem Looks.bind_atomic {p : Procedure α} {next : α → Procedure β} (h : p.Looks)
    (hnext : ∀ a, (next a).Atomic) : (p >>= next).Atomic := by
  intro w f hfails
  rcases error_of_bind hfails with ⟨_, hleft⟩ | ⟨a, _, hlater, hleft⟩
  · rw [hleft, h w]
    exact ⟨rfl, Or.inl rfl⟩
  · rw [h w] at hlater hleft
    rw [hleft]
    exact hnext a w f hlater

/-! ## Steps -/

theorem pure_looks (a : α) : (pure a : Procedure α).Looks :=
  fun _ => rfl

theorem pure_answers (a : α) : (pure a : Procedure α).Answers :=
  fun _ => ⟨a, rfl⟩

theorem throw_looks (f : Failure) : (throw f : Procedure α).Looks :=
  fun _ => rfl

theorem load_looks : load.Looks :=
  fun _ => rfl

theorem load_works : load.Works :=
  load_looks.works fun w => ⟨w.engine.settings, rfl⟩

theorem suspendedRules_looks : suspendedRules.Looks :=
  fun _ => rfl

theorem isSuspended_looks (rule : String) : (isSuspended rule).Looks :=
  fun _ => rfl

theorem grace_answers : grace.Answers :=
  fun w => ⟨w.engine.graceSeconds, rfl⟩

theorem attempt_looks (x : Except Failure α) : (attempt x).Looks := by
  intro w
  rw [on_attempt]

theorem check_looks (fault : Option Failure) : (check fault).Looks := by
  intro w
  rw [on_check]

theorem refuseIf_looks (refused : Bool) (f : Failure) : (refuseIf refused f).Looks := by
  intro w
  rw [on_refuseIf]

theorem installed_looks : installed.Looks := by
  intro w
  rw [on_installed]

theorem cancel_works (rule : String) : (cancel rule).Works where
  table _ := rfl
  backend _ _ hfails := nomatch hfails

theorem cancelAll_works (rules : List String) : (rules.forM cancel).Works where
  table w := by
    rw [on_cancelAll]
    rfl
  backend w f hfails := by
    rw [on_cancelAll] at hfails
    cases hfails

theorem schedule_works (rule : String) : (schedule rule).Works where
  table _ := rfl
  backend _ _ hfails := nomatch hfails

theorem save_works (s : Settings) : (save s).Works where
  table w := by
    rw [on_save]
    cases hsaved : w.engine.saved s with
    | ok e =>
        exact Engine.saved_table hsaved
    | error f =>
        rfl
  backend w f hfails := by
    rw [on_save] at hfails
    cases hsaved : w.engine.saved s with
    | ok e =>
        rw [hsaved] at hfails
        cases hfails
    | error g =>
        rw [hsaved] at hfails
        cases hfails
        exact Engine.saved_error hsaved

theorem pass_closes (now : Moment) (reason : String) : (pass now reason).Closes := by
  intro w f hfails
  rw [on_pass] at hfails ⊢
  rcases Engine.pass_error hfails with ⟨hbackend, hleft⟩
  exact ⟨hbackend, hleft ▸ Engine.purged_table _ _⟩

theorem commit_closes (now : Moment) (s : Settings) (reason : String) :
    (commit now s reason).Closes :=
  (save_works s).bind fun _ => (pass_closes now reason).bind fun _ => pure_answers ()

section

variable (now : Moment) (s : Settings) (reason : String) (r : Reply)

theorem commit_pure_closes : (commit now s reason >>= fun _ => pure r).Closes :=
  (commit_closes now s reason).bind fun _ => pure_answers r

theorem commit_atomic : (commit now s reason >>= fun _ => pure r).Atomic :=
  (commit_pure_closes now s reason r).atomic

/-- What commands do once all is checked: suspensions end, and a reply follows the last pass. -/
theorem Works.commit_atomic {p : Procedure Unit} (h : p.Works) :
    (p >>= fun _ => commit now s reason >>= fun _ => pure r).Atomic :=
  (h.bind fun _ => commit_pure_closes now s reason r).atomic

end

end Procedure

/-! ## Commands -/

namespace Command

open Procedure

variable (o : Occasion)

theorem switch_atomic (enabled : Bool) : (switch o enabled).Atomic :=
  load_looks.bind_atomic fun _ => commit_atomic _ _ _ _

theorem patch_atomic (changes : Json) (pin : Option String) : (patch o changes pin).Atomic := by
  unfold patch
  refine load_looks.bind_atomic fun s => ?_
  refine (attempt_looks _).bind_atomic fun _ => ?_
  refine (attempt_looks _).bind_atomic fun merged => ?_
  refine (attempt_looks _).bind_atomic fun normal => ?_
  refine (check_looks _).bind_atomic fun _ => ?_
  refine suspendedRules_looks.bind_atomic fun rules => ?_
  exact (cancelAll_works _).commit_atomic _ _ _ _

theorem add_atomic (draft : RuleDraft) : (add o draft).Atomic := by
  unfold add
  refine load_looks.bind_atomic fun s => ?_
  refine (check_looks _).bind_atomic fun _ => ?_
  refine (refuseIf_looks _ _).bind_atomic fun _ => ?_
  exact commit_atomic _ _ _ _

theorem remove_atomic (id : String) : (remove o id).Atomic := by
  unfold remove
  refine load_looks.bind_atomic fun s => ?_
  refine (refuseIf_looks _ _).bind_atomic fun _ => ?_
  exact (cancel_works id).commit_atomic _ _ _ _

theorem patchedRule_atomic (changes : Json) : (patchedRule o changes).Atomic := by
  unfold patchedRule
  cases (changes.get? "id").bind Json.text? with
  | none =>
      exact (throw_looks _).atomic
  | some id =>
      refine load_looks.bind_atomic fun s => ?_
      cases s.rule? id with
      | none =>
          exact (throw_looks _).atomic
      | some rule =>
          refine (attempt_looks _).bind_atomic fun updated => ?_
          refine (check_looks _).bind_atomic fun _ => ?_
          exact (cancel_works id).commit_atomic _ _ _ _

theorem blocker_looks (url : String) : (blocker url).Looks :=
  (attempt_looks _).bind fun _ => load_looks.bind fun _ => pure_looks _

theorem letThrough_atomic (rule url : String) : (letThrough o rule url).Atomic := by
  unfold letThrough
  refine (attempt_looks _).bind_atomic fun _ => ?_
  refine load_looks.bind_atomic fun s => ?_
  refine (refuseIf_looks _ _).bind_atomic fun _ => ?_
  refine Closes.atomic ((schedule_works rule).bind fun _ => ?_)
  exact (pass_closes _ _).bind fun _ => grace_answers.bind fun _ => pure_answers _

theorem restore_atomic (rule : String) : (restore o rule).Atomic := by
  unfold restore
  refine (isSuspended_looks rule).bind_atomic fun suspended => ?_
  cases suspended with
  | false =>
      exact (pure_looks _).atomic
  | true =>
      refine Closes.atomic ((cancel_works rule).bind fun _ => load_works.bind fun s => ?_)
      cases isRetained s rule with
      | false =>
          exact (pure_answers _).closes
      | true =>
          exact (pass_closes _ _).bind fun _ => pure_answers _

theorem override_atomic (hostname : String) (minutes : Int64) (url : Option String) :
    (override o hostname minutes url).Atomic := by
  unfold override
  refine (refuseIf_looks _ _).bind_atomic fun _ => ?_
  cases HostPattern.hostname? hostname with
  | none =>
      exact (throw_looks _).atomic
  | some host =>
      dsimp only
      cases o.now.instant.after? (minutes.toInt.toNat * Instant.minuteNanos) with
      | none =>
          exact (throw_looks _).atomic
      | some requested =>
          exact load_looks.bind_atomic fun _ => commit_atomic _ _ _ _

theorem block_atomic (url : String) : (block o url).Atomic := by
  unfold block
  refine (attempt_looks _).bind_atomic fun u => ?_
  cases u.host? with
  | none =>
      exact (throw_looks _).atomic
  | some host =>
      refine load_looks.bind_atomic fun s => ?_
      dsimp only
      split
      · exact (pure_looks _).atomic
      · exact commit_atomic _ _ _ _

theorem choosePin_atomic (pin : String) (current : Option String) :
    (choosePin o pin current).Atomic := by
  unfold choosePin
  refine (refuseIf_looks _ _).bind_atomic fun _ => ?_
  refine load_looks.bind_atomic fun s => ?_
  refine (attempt_looks _).bind_atomic fun _ => ?_
  exact commit_atomic _ _ _ _

theorem takeOver_atomic (policy : PolicyExport) (pin : Option String) :
    (takeOver o policy pin).Atomic := by
  unfold takeOver
  refine load_looks.bind_atomic fun s => ?_
  refine (attempt_looks _).bind_atomic fun _ => ?_
  refine (attempt_looks _).bind_atomic fun normal => ?_
  refine (check_looks _).bind_atomic fun _ => ?_
  refine suspendedRules_looks.bind_atomic fun rules => ?_
  exact (cancelAll_works _).commit_atomic _ _ _ _

theorem judge_looks (url : String) : (judge url).Looks :=
  (attempt_looks _).bind fun _ => installed_looks.bind fun _ => pure_looks _

theorem procedure_atomic (c : Command) : (c.procedure o).Atomic := by
  cases c with
  | refresh reason =>
      exact ((pass_closes _ reason).bind fun _ => pure_answers _).atomic
  | viewSettings =>
      exact (load_looks.bind fun _ => pure_looks _).atomic
  | switchTo enabled =>
      exact switch_atomic o enabled
  | patchSettings changes pin =>
      exact patch_atomic o changes pin
  | addRule draft =>
      exact add_atomic o draft
  | removeRule id =>
      exact remove_atomic o id
  | patchRule changes =>
      exact patchedRule_atomic o changes
  | findBlocker url =>
      exact (blocker_looks url).atomic
  | suspend rule url =>
      exact letThrough_atomic o rule url
  | resume rule =>
      exact restore_atomic o rule
  | grantOverride hostname minutes url =>
      exact override_atomic o hostname minutes url
  | blockSite url =>
      exact block_atomic o url
  | changePin pin current =>
      exact choosePin_atomic o pin current
  | exportPolicy =>
      exact (load_looks.bind fun _ => pure_looks _).atomic
  | importPolicy policy pin =>
      exact takeOver_atomic o policy pin
  | listDirectives =>
      exact (installed_looks.bind fun _ => pure_looks _).atomic
  | navigate url =>
      exact (judge_looks url).atomic

end Command

namespace Engine

/--
A command that fails leaves the table as it was.  Where the fault is with who
asked, the engine as a whole is as it was, its settings and suspensions included.
-/
theorem run_atomic {e : Engine} {o : Occasion} {c : Command} {f : Failure}
    (h : (e.run o c).result = .error f) :
    (e.run o c).engine.table = e.table ∧
      (400 ≤ f.status → f.status < 500 → (e.run o c).engine = e) := by
  rcases Command.procedure_atomic o c ⟨e, false⟩ f h with ⟨htable, hengine⟩
  refine ⟨htable, ?_⟩
  intro _ hbelow
  rcases hengine with hsame | hbackend
  · exact hsame
  · rw [hbackend.status] at hbelow
    exact absurd hbelow (by decide)

/-- A table that holds what is no longer wanted, and lets rows go but takes none in. -/
def stuck : Engine :=
  { outOfStep with table := { outOfStep.table with refusesInsert := true } }

theorem stuck_unchanged :
    (stuck.run ⟨dawn, "", []⟩ (.refresh "again")).result =
        .error (.interception .insertionRefused) ∧
      (stuck.run ⟨dawn, "", []⟩ (.refresh "again")).engine.table = stuck.table ∧
      (stuck.run ⟨dawn, "", []⟩ (.removeRule "away")).result = .error (.notFound "away") ∧
      (stuck.run ⟨dawn, "", []⟩ (.removeRule "away")).engine = stuck := by
  have hbroken : (stuck.run ⟨dawn, "", []⟩ (.refresh "again")).result =
      .error (.interception .insertionRefused) := by
    rfl
  have hrefused : (stuck.run ⟨dawn, "", []⟩ (.removeRule "away")).result =
      .error (.notFound "away") := by
    rfl
  exact ⟨hbroken, (run_atomic hbroken).1, hrefused,
    (run_atomic hrefused).2 (by decide) (by decide)⟩

end Engine
end SiteGuard
