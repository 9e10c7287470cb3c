import SiteGuard.Engine.Command

/-!
# The steps of procedures

What each step comes to and what it leaves, and how a step is followed by others.
-/

namespace SiteGuard

open Calendar

namespace Procedure

variable {α β : Type}

/-! ## Sequences -/

theorem on_bind (p : Procedure α) (next : α → Procedure β) (w : Work) :
    (p >>= next).on w =
      match (p.on w).1 with
      | .ok a => (next a).on (p.on w).2
      | .error f => (.error f, (p.on w).2) := by
  show (ExceptT.bindCont next (p.on w).1).run (p.on w).2 = _
  cases (p.on w).1 with
  | ok a =>
      rfl
  | error f =>
      rfl

theorem on_bind_of_ok {p : Procedure α} {a : α} {w w' : Work} (h : p.on w = (.ok a, w'))
    (next : α → Procedure β) : (p >>= next).on w = (next a).on w' := by
  rw [on_bind, h]

theorem on_bind_of_error {p : Procedure α} {f : Failure} {w w' : Work}
    (h : p.on w = (.error f, w')) (next : α → Procedure β) :
    (p >>= next).on w = (.error f, w') := by
  rw [on_bind, h]

/-- Where a sequence fails, either its first part has failed, or what comes behind it. -/
theorem error_of_bind {p : Procedure α} {next : α → Procedure β} {w : Work} {f : Failure}
    (h : ((p >>= next).on w).1 = .error f) :
    ((p.on w).1 = .error f ∧ ((p >>= next).on w).2 = (p.on w).2) ∨
      ∃ a, (p.on w).1 = .ok a ∧ ((next a).on (p.on w).2).1 = .error f ∧
        ((p >>= next).on w).2 = ((next a).on (p.on w).2).2 := by
  rw [on_bind] at h ⊢
  cases hfirst : (p.on w).1 with
  | ok a =>
      rw [hfirst] at h
      exact Or.inr ⟨a, rfl, h, rfl⟩
  | error g =>
      rw [hfirst] at h
      cases h
      exact Or.inl ⟨rfl, rfl⟩

/-! ## Looking -/

theorem on_load (w : Work) : load.on w = (.ok w.engine.settings, w) :=
  rfl

theorem on_suspendedRules (w : Work) : suspendedRules.on w = (.ok w.engine.suspendedRules, w) :=
  rfl

theorem on_isSuspended (rule : String) (w : Work) :
    (isSuspended rule).on w = (.ok (w.engine.isSuspended rule), w) :=
  rfl

theorem on_grace (w : Work) : grace.on w = (.ok w.engine.graceSeconds, w) :=
  rfl

/-! ## Checks -/

theorem on_attempt (x : Except Failure α) (w : Work) : (attempt x).on w = (x, w) := by
  cases x with
  | ok a =>
      rfl
  | error f =>
      rfl

theorem on_check (fault : Option Failure) (w : Work) :
    (check fault).on w = (fault.elim (.ok ()) .error, w) := by
  cases fault with
  | none =>
      rfl
  | some f =>
      rfl

theorem on_refuseIf (refused : Bool) (f : Failure) (w : Work) :
    (refuseIf refused f).on w = (if refused then .error f else .ok (), w) := by
  cases refused with
  | false =>
      rfl
  | true =>
      rfl

theorem on_installed (w : Work) : installed.on w = (w.engine.installed, w) := by
  show (attempt w.engine.installed).on w = _
  exact on_attempt _ w

/-! ## Effects -/

theorem on_cancel (rule : String) (w : Work) :
    (cancel rule).on w =
      (.ok (), { w with engine := w.engine.withSuspended (w.engine.released rule) }) :=
  rfl

theorem on_schedule (rule : String) (w : Work) :
    (schedule rule).on w =
      (.ok (), { w with engine := w.engine.withSuspended (w.engine.suspending rule) }) :=
  rfl

theorem on_save (s : Settings) (w : Work) :
    (save s).on w =
      match w.engine.saved s with
      | .ok engine => (.ok (), { w with engine })
      | .error f => (.error f, w) := by
  show ((attempt (w.engine.saved s)) >>= fun engine => set { w with engine }).on w = _
  rw [on_bind, on_attempt]
  cases w.engine.saved s with
  | ok engine =>
      rfl
  | error f =>
      rfl

theorem on_pass (now : Moment) (reason : String) (w : Work) :
    (pass now reason).on w =
      ((w.engine.pass now reason).1, ⟨(w.engine.pass now reason).2, true⟩) := by
  show (attempt (w.engine.pass now reason).1).on ⟨(w.engine.pass now reason).2, true⟩ = _
  exact on_attempt _ _

theorem on_commit_of_unsaved {s : Settings} {w : Work} {f : Failure}
    (h : w.engine.saved s = .error f) (now : Moment) (reason : String) :
    (commit now s reason).on w = (.error f, w) := by
  have hsave := on_save s w
  rw [h] at hsave
  exact on_bind_of_error hsave _

theorem on_commit_of_saved {s : Settings} {w : Work} {e : Engine} (h : w.engine.saved s = .ok e)
    (now : Moment) (reason : String) :
    (commit now s reason).on w =
      ((e.pass now reason).1.map fun _ => (), ⟨(e.pass now reason).2, true⟩) := by
  have hsave := on_save s w
  rw [h] at hsave
  unfold commit
  rw [on_bind_of_ok hsave, on_bind, on_pass]
  cases (e.pass now reason).1 with
  | ok report =>
      rfl
  | error f =>
      rfl

end Procedure
end SiteGuard
