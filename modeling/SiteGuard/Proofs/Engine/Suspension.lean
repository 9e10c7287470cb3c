import SiteGuard.Proofs.Engine.Decision
import SiteGuard.Proofs.Engine.Refusal

/-!
# What commands do to suspensions

A pass leaves suspensions alone.  A command either adds one suspension, in the
place of an older one of the same rule, or keeps some of those that there are;
which ones it drops is said by `Command.Revokes`.
-/

namespace SiteGuard

open Calendar

/-! ## Ending a suspension -/

/--
What takes a suspension back before its time: the rule is removed or edited, it
is not among the settings that come of a patch, or a whole policy comes in.  A
command that is refused takes nothing back.
-/
inductive Command.Revokes (e : Engine) (rule : String) : Command → Prop where
  | removed {decision : Decision} (haccepted : Command.decideRemove e rule = .ok decision) :
      Command.Revokes e rule (.removeRule rule)
  | edited {patch : Json} {decision : Decision}
      (haccepted : Command.decideRulePatch e patch = .ok decision)
      (hid : (patch.get? "id").bind Json.text? = some rule) :
      Command.Revokes e rule (.patchRule patch)
  | dropped {patch : Json} {pin : Option String} {decision : Decision} {merged : Settings}
      (haccepted : Command.decidePatch e patch pin = .ok decision)
      (hmerge : Json.merge e.settings patch ["pin"] = .ok merged)
      (hgone : merged.rule? rule = none) (hrule : rule ≠ Directive.catchAllRule) :
      Command.Revokes e rule (.patchSettings patch pin)
  | imported {policy : PolicyExport} {pin : Option String} {decision : Decision}
      (haccepted : Command.decideImport e policy pin = .ok decision) :
      Command.Revokes e rule (.importPolicy policy pin)

def Command.Ends (e : Engine) (rule : String) (c : Command) : Prop :=
  c = .resume rule ∨ c.Revokes e rule

/-- The engine lets a rule be suspended: the page is one, and the rule is there. -/
def Engine.Grants (e : Engine) (rule url : String) : Prop :=
  ∃ decision, Command.decideSuspend e rule url = .ok decision

/-- What becomes of the suspensions. -/
inductive Engine.Resuspends (e : Engine) (c : Command) : List Suspension → Prop where
  | kept (keep : Suspension → Bool)
      (hends : ∀ s ∈ e.suspended, keep s = false → c.Ends e s.rule) :
      Engine.Resuspends e c (e.suspended.filter keep)
  | added {rule url : String} (hcommand : c = .suspend rule url)
      (hgrants : e.Grants rule url) : Engine.Resuspends e c (e.suspending rule)

namespace Engine

theorem Resuspends.same {e : Engine} {c : Command} : e.Resuspends c e.suspended := by
  have hall : e.suspended.filter (fun _ => true) = e.suspended :=
    List.filter_eq_self.mpr fun _ _ => rfl
  have hkept : e.Resuspends c (e.suspended.filter fun _ => true) :=
    .kept _ fun _ _ hdropped => nomatch hdropped
  rw [hall] at hkept
  exact hkept

theorem Resuspends.released {e : Engine} {c : Command} {rule : String}
    (hends : c.Ends e rule) : e.Resuspends c (e.released rule) := by
  refine .kept _ ?_
  intro s _ hdropped
  have hrule : s.rule = rule := by
    simpa using hdropped
  rw [hrule]
  exact hends

/-- A suspension that was not there before is the one that the command asks for. -/
theorem Resuspends.of_new {e : Engine} {c : Command} {suspended : List Suspension}
    {s : Suspension} (h : e.Resuspends c suspended) (hs : s ∈ suspended)
    (hnew : s ∉ e.suspended) : ∃ url, c = .suspend s.rule url ∧ e.Grants s.rule url := by
  cases h with
  | kept keep hends =>
      exact absurd (List.mem_of_mem_filter hs) hnew
  | @added rule url hcommand hgrants =>
      rcases List.mem_cons.mp hs with rfl | hs
      · exact ⟨url, hcommand, hgrants⟩
      · exact absurd (List.mem_of_mem_filter hs) hnew

theorem Resuspends.rule_mem {e : Engine} {c : Command} {suspended : List Suspension}
    {s : Suspension} (h : e.Resuspends c suspended) (hs : s ∈ e.suspended)
    (hstays : ¬ c.Ends e s.rule) : ∃ s' ∈ suspended, s'.rule = s.rule := by
  cases h with
  | kept keep hends =>
      cases hkeep : keep s with
      | true =>
          exact ⟨s, List.mem_filter.mpr ⟨hs, hkeep⟩, rfl⟩
      | false =>
          exact absurd (hends s hs hkeep) hstays
  | @added rule url hcommand hgrants =>
      by_cases hsame : s.rule = rule
      · exact ⟨⟨rule, e.nextTicket⟩, List.mem_cons_self, hsame.symm⟩
      · refine ⟨s, List.mem_cons_of_mem _ (List.mem_filter.mpr ⟨hs, ?_⟩), rfl⟩
        simpa using hsame

/-! ## Edits -/

theorem resuspends_of_commit {e : Engine} {c : Command} {s : Settings}
    {suspended : List Suspension} {reason : String} {reply : Reply} {edit : Edit}
    (h : Command.commit s suspended reason reply = .edit edit)
    (hsuspended : e.Resuspends c suspended) : e.Resuspends c edit.suspended := by
  cases h
  exact hsuspended

theorem resuspends_of_patch {e : Engine} {patch : Json} {pin : Option String}
    {decision : Decision} {merged normal : Settings}
    (haccepted : Command.decidePatch e patch pin = .ok decision)
    (hmerge : Json.merge e.settings patch ["pin"] = .ok merged)
    (hnormal : merged.normalized = .ok normal) :
    e.Resuspends (.patchSettings patch pin)
      (e.suspended.filter fun s =>
        s.rule == Directive.catchAllRule || (normal.rule? s.rule).isSome) := by
  refine .kept _ ?_
  intro s _ hdropped
  have hrules : normal.rules = merged.rules := by
    unfold Settings.normalized at hnormal
    split at hnormal
    · cases hnormal
      rfl
    · cases hnormal
  simp only [Bool.or_eq_false_iff, beq_eq_false_iff_ne, Option.isSome_eq_false_iff,
    Option.isNone_iff_eq_none] at hdropped
  have hgone : merged.rule? s.rule = none := by
    rw [← hdropped.2]
    unfold Settings.rule?
    rw [hrules]
  exact Or.inr (.dropped haccepted hmerge hgone hdropped.1)

theorem resuspends_of_decide {e : Engine} {o : Occasion} {c : Command} {edit : Edit}
    (h : c.decide o e = .ok (.edit edit)) : e.Resuspends c edit.suspended := by
  cases c with
  | refresh reason =>
      cases h
  | viewSettings =>
      cases h
  | switchTo enabled =>
      cases h
      exact .same
  | patchSettings patch pin =>
      rcases Command.decidePatch_eq_ok h with ⟨merged, normal, _, hmerge, hnormal, _, hcommit⟩
      exact resuspends_of_commit hcommit.symm (resuspends_of_patch h hmerge hnormal)
  | addRule draft =>
      rcases Command.decideAdd_eq_ok h with ⟨_, _, _, _, hcommit⟩
      exact resuspends_of_commit hcommit.symm .same
  | removeRule id =>
      rcases Command.decideRemove_eq_ok h with ⟨_, hcommit⟩
      exact resuspends_of_commit hcommit.symm (.released (Or.inr (.removed h)))
  | patchRule patch =>
      rcases Command.decideRulePatch_eq_ok h with ⟨_, _, _, hid, _, _, _, hcommit⟩
      exact resuspends_of_commit hcommit.symm (.released (Or.inr (.edited h hid)))
  | findBlocker url =>
      rcases bind_eq_ok h with ⟨_, _, hanswer⟩
      cases hanswer
  | suspend rule url =>
      cases Command.decideSuspend_eq_ok h
      exact .added rfl ⟨_, h⟩
  | resume rule =>
      have hedit : Command.decideResume e rule = .edit edit := Except.ok.inj h
      rw [(Command.decideResume_eq_edit hedit).1]
      exact .released (Or.inl rfl)
  | grantOverride hostname minutes url =>
      have hdecide : Command.decideOverride o e hostname minutes url = .ok (.edit edit) := h
      rcases Command.decideOverride_eq_ok hdecide with ⟨_, _, _, _, _, _, hcommit⟩
      exact resuspends_of_commit hcommit.symm .same
  | blockSite url =>
      rcases Command.decideSite_eq_ok h with ⟨_, _, hanswer⟩ | ⟨_, _, _, _, _, _, hcommit⟩
      · cases hanswer
      · exact resuspends_of_commit hcommit.symm .same
  | changePin pin current =>
      rcases Command.decidePin_eq_ok h with ⟨_, _, hcommit⟩
      exact resuspends_of_commit hcommit.symm .same
  | exportPolicy =>
      cases h
  | importPolicy policy pin =>
      rcases Command.decideImport_eq_ok h with ⟨_, _, _, _, hcommit⟩
      refine resuspends_of_commit hcommit.symm ?_
      have hnone : e.suspended.filter (fun _ => false) = [] :=
        List.filter_eq_nil_iff.mpr fun _ _ hkept => nomatch hkept
      have hkept : e.Resuspends (.importPolicy policy pin) (e.suspended.filter fun _ => false) :=
        .kept _ fun _ _ _ => Or.inr (.imported h)
      rw [hnone] at hkept
      exact hkept
  | listDirectives =>
      rcases bind_eq_ok h with ⟨_, _, hanswer⟩
      cases hanswer
  | navigate url =>
      rcases bind_eq_ok h with ⟨_, _, h⟩
      rcases bind_eq_ok h with ⟨_, _, hanswer⟩
      cases hanswer

/-! ## Passes -/

theorem pass_suspended (e : Engine) (now : Moment) (reason : String) :
    (e.pass now reason).2.suspended = e.suspended := by
  rw [pass_eq_with_backends]

theorem pass_nextTicket (e : Engine) (now : Moment) (reason : String) :
    (e.pass now reason).2.nextTicket = e.nextTicket := by
  rw [pass_eq_with_backends]

/-! ## Runs of one command -/

theorem passFor_suspensions (e : Engine) (now : Moment) (reason : Option String)
    (reply : Reply) :
    (e.passFor now reason reply).engine.suspended = e.suspended ∧
      (e.passFor now reason reply).engine.nextTicket = e.nextTicket := by
  cases reason with
  | none =>
      exact ⟨rfl, rfl⟩
  | some reason =>
      exact ⟨pass_suspended e now reason, pass_nextTicket e now reason⟩

theorem apply_suspensions (e : Engine) (now : Moment) (edit : Edit) :
    (e.apply now edit).engine.suspended = edit.suspended ∧
      (e.apply now edit).engine.nextTicket = (e.withSuspended edit.suspended).nextTicket := by
  unfold apply
  cases edit.saved with
  | none =>
      exact passFor_suspensions _ now edit.reason edit.reply
  | some s =>
      cases hsaved : (e.withSuspended edit.suspended).saved s with
      | error f =>
          simp only [hsaved]
          exact ⟨rfl, trivial⟩
      | ok e' =>
          simp only [hsaved]
          rcases passFor_suspensions e' now edit.reason edit.reply with ⟨hsuspended, hnext⟩
          rw [hsuspended, hnext, (saved_eq_ok hsaved).1]
          exact ⟨rfl, rfl⟩

/-- Suspensions change by what was decided, even where the command goes on to fail. -/
theorem run_of_edit {e : Engine} {o : Occasion} {c : Command} {edit : Edit}
    (h : c.decide o e = .ok (.edit edit)) :
    (e.run o c).engine.suspended = edit.suspended ∧
      (e.run o c).engine.nextTicket = (e.withSuspended edit.suspended).nextTicket := by
  rw [run_of_decided h]
  exact apply_suspensions e o.now edit

theorem run_suspensions (e : Engine) (o : Occasion) (c : Command) :
    (∃ edit, c.decide o e = .ok (.edit edit)) ∨
      ((e.run o c).engine.suspended = e.suspended ∧
        (e.run o c).engine.nextTicket = e.nextTicket) := by
  rw [run_eq]
  unfold settle
  cases hdecide : c.decide o e with
  | error f =>
      exact Or.inr ⟨rfl, rfl⟩
  | ok decision =>
      cases decision with
      | answer r =>
          exact Or.inr ⟨rfl, rfl⟩
      | pass reason =>
          exact Or.inr ⟨pass_suspended e o.now reason, pass_nextTicket e o.now reason⟩
      | edit edit =>
          exact Or.inl ⟨edit, rfl⟩

theorem run_resuspends (e : Engine) (o : Occasion) (c : Command) :
    e.Resuspends c (e.run o c).engine.suspended := by
  rcases e.run_suspensions o c with ⟨edit, hdecide⟩ | ⟨hsame, _⟩
  · rw [(run_of_edit hdecide).1]
    exact resuspends_of_decide hdecide
  · rw [hsame]
    exact .same

theorem released_eq_self {e : Engine} {rule : String} (h : e.isSuspended rule = false) :
    e.released rule = e.suspended := by
  unfold released
  apply List.filter_eq_self.mpr
  intro s hs
  have hother := List.any_eq_false.mp h s hs
  simpa using hother

theorem run_resume (e : Engine) (o : Occasion) (rule : String) :
    (e.run o (.resume rule)).engine.suspended = e.released rule := by
  rw [run_eq]
  show (e.carryOut o.now (Command.decideResume e rule)).engine.suspended = e.released rule
  unfold Command.decideResume
  cases hsuspended : e.isSuspended rule with
  | false =>
      exact (released_eq_self hsuspended).symm
  | true =>
      exact (apply_suspensions e o.now _).1

theorem rule_ne_of_mem_run_resume {e : Engine} {o : Occasion} {rule : String} {s : Suspension}
    (hs : s ∈ (e.run o (.resume rule)).engine.suspended) : s.rule ≠ rule := by
  rw [run_resume] at hs
  simpa using (List.mem_filter.mp hs).2

theorem run_suspend {e : Engine} {rule url : String} (h : e.Grants rule url) (o : Occasion) :
    (e.run o (.suspend rule url)).engine.suspended = e.suspending rule := by
  rcases h with ⟨decision, hdecide⟩
  cases Command.decideSuspend_eq_ok hdecide
  have hedit : Command.decide o e (.suspend rule url) = .ok (.edit ⟨none, e.suspending rule,
      some "temporaryAllow", .allowance ⟨rule, e.graceSeconds, url⟩⟩) := hdecide
  exact (run_of_edit hedit).1

/-! ## Tickets -/

/-- Every suspension has a ticket of its own, and there are always new ones. -/
structure Ticketed (e : Engine) : Prop where
  issued : ∀ s ∈ e.suspended, s.ticket < e.nextTicket
  distinct : (e.suspended.map (·.ticket)).Nodup

namespace Ticketed

variable {e : Engine}

theorem eq_of_ticket (h : e.Ticketed) {s s' : Suspension} (hs : s ∈ e.suspended)
    (hs' : s' ∈ e.suspended) (hticket : s.ticket = s'.ticket) : s = s' :=
  List.inj_on_of_nodup_map h.distinct hs hs' hticket

theorem nextTicket_of_kept (e : Engine) (keep : Suspension → Bool) :
    (e.withSuspended (e.suspended.filter keep)).nextTicket = e.nextTicket := by
  rw [withSuspended_of_subset fun _ hs => List.mem_of_mem_filter hs]

theorem filter (h : e.Ticketed) (keep : Suspension → Bool) :
    (e.withSuspended (e.suspended.filter keep)).Ticketed := by
  constructor
  · intro s hs
    rw [nextTicket_of_kept e keep]
    exact h.issued s (List.mem_of_mem_filter hs)
  · exact h.distinct.sublist (List.filter_sublist.map _)

theorem nextTicket_of_added (h : e.Ticketed) (rule : String) :
    (e.withSuspended (e.suspending rule)).nextTicket = e.nextTicket + 1 := by
  have hnew : e.suspended.contains ⟨rule, e.nextTicket⟩ = false := by
    rw [Bool.eq_false_iff]
    intro hcontains
    exact Nat.lt_irrefl _ (h.issued _ (List.contains_iff_mem.mp hcontains))
  apply if_pos
  refine List.any_eq_true.mpr ⟨_, List.mem_cons_self, ?_⟩
  rw [hnew, beq_self_eq_true]
  rfl

theorem suspending (h : e.Ticketed) (rule : String) :
    (e.withSuspended (e.suspending rule)).Ticketed := by
  have hreleased : (e.released rule).Sublist e.suspended := List.filter_sublist
  constructor
  · intro s hs
    rw [h.nextTicket_of_added]
    rcases List.mem_cons.mp hs with rfl | hs
    · exact Nat.lt_succ_self _
    · exact Nat.lt_succ_of_lt (h.issued s (hreleased.subset hs))
  · refine List.nodup_cons.mpr ⟨?_, h.distinct.sublist (hreleased.map _)⟩
    intro hmem
    rcases List.mem_map.mp hmem with ⟨s, hs, hticket⟩
    exact absurd hticket (Nat.ne_of_lt (h.issued s (hreleased.subset hs)))

theorem of_same {e' : Engine} (h : e.Ticketed) (hsuspended : e'.suspended = e.suspended)
    (hnext : e'.nextTicket = e.nextTicket) : e'.Ticketed := by
  constructor
  · rw [hsuspended, hnext]
    exact h.issued
  · rw [hsuspended]
    exact h.distinct

theorem withSuspended (h : e.Ticketed) {c : Command} {suspended : List Suspension}
    (hchange : e.Resuspends c suspended) : (e.withSuspended suspended).Ticketed := by
  cases hchange with
  | kept keep hends =>
      exact h.filter keep
  | added hcommand hgrants =>
      exact h.suspending _

theorem run (h : e.Ticketed) (o : Occasion) (c : Command) : (e.run o c).engine.Ticketed := by
  rcases e.run_suspensions o c with ⟨edit, hdecide⟩ | ⟨hsuspended, hnext⟩
  · rcases run_of_edit hdecide with ⟨hsuspended, hnext⟩
    exact (h.withSuspended (resuspends_of_decide hdecide)).of_same hsuspended hnext
  · exact h.of_same hsuspended hnext

end Ticketed
end Engine
end SiteGuard
