import SiteGuard.Proofs.Actor.Step
import SiteGuard.Proofs.Enforcement

/-!
# No rule stays suspended for good

Each suspension awaits the command that ends it: its own timer runs, or the
command is under way already.  The command names the rule only, so one that an
older timer has sent will do as well.
-/

namespace SiteGuard

open Calendar

/-! ## What ends a suspension -/

/--
Aborting a timer also stops the command that it has sent, as long as that waits
with its ticket; so the ticket has to be that of the suspension itself.
-/
inductive Actor.Awaits (a : Actor) (s : Suspension) : Prop where
  | running {t : Timer} (ht : t ∈ a.timers) (hrule : t.rule = s.rule)
      (hticket : t.ticket = s.ticket)
  | waiting {w : Waiting} (hw : w ∈ a.waiting) (hcommand : w.command = .resume s.rule)
      (hticket : ∀ ticket, w.ticket = some ticket → ticket = s.ticket)
  | queued (hqueued : .resume s.rule ∈ a.queue)

structure Actor.Guarded (a : Actor) : Prop where
  ticketed : a.engine.Ticketed
  awaited : ∀ s ∈ a.engine.suspended, a.Awaits s

namespace Actor

variable {a b : Actor} {s : Suspension}

/-! ## Steps that leave suspensions alone -/

namespace Awaits

theorem mono (h : a.Awaits s) (htimers : a.timers ⊆ b.timers) (hwaiting : a.waiting ⊆ b.waiting)
    (hqueue : a.queue ⊆ b.queue) : b.Awaits s := by
  cases h with
  | running ht hrule hticket =>
      exact .running (htimers ht) hrule hticket
  | waiting hw hcommand hticket =>
      exact .waiting (hwaiting hw) hcommand hticket
  | queued hqueued =>
      exact .queued (hqueue hqueued)

/-- One waiting command moves; the suspension may have waited for just that one. -/
theorem move (h : a.Awaits s) {w : Waiting} {front back : List Waiting}
    (hwaiting : a.waiting = front ++ w :: back) (htimers : a.timers ⊆ b.timers)
    (hothers : front ++ back ⊆ b.waiting) (hqueue : a.queue ⊆ b.queue)
    (hmoved : w.command = .resume s.rule → b.Awaits s) : b.Awaits s := by
  cases h with
  | running ht hrule hticket =>
      exact .running (htimers ht) hrule hticket
  | queued hqueued =>
      exact .queued (hqueue hqueued)
  | @waiting w' hw hcommand hticket =>
      rw [hwaiting] at hw
      rcases List.mem_append.mp hw with hfront | hw
      · exact .waiting (hothers (List.mem_append_left _ hfront)) hcommand hticket
      · rcases List.mem_cons.mp hw with rfl | hback
        · exact hmoved hcommand
        · exact .waiting (hothers (List.mem_append_right _ hback)) hcommand hticket

theorem expire (h : a.Awaits s) (t : Timer) :
    { a with
      timers := a.timers.erase t
      waiting := a.waiting ++ [⟨.resume t.rule, some t.ticket⟩] : Actor }.Awaits s := by
  cases h with
  | @running t' ht hrule hticket =>
      by_cases hsame : t' = t
      · subst hsame
        refine .waiting (List.mem_append_right _ (List.mem_singleton_self _)) ?_ ?_
        · exact congrArg Command.resume hrule
        · rintro ticket ⟨⟩
          exact hticket
      · exact .running ((List.mem_erase_of_ne hsame).mpr ht) hrule hticket
  | waiting hw hcommand hticket =>
      exact .waiting (List.mem_append_left _ hw) hcommand hticket
  | queued hqueued =>
      exact .queued hqueued

theorem adopt (h : a.Awaits s) {c : Command} {rest : List Command} {o : Outcome}
    (hticketed : a.engine.Ticketed) (hqueue : a.queue = c :: rest)
    (hbefore : s ∈ a.engine.suspended) (hafter : s ∈ o.engine.suspended)
    (hother : c ≠ .resume s.rule) : ({ a with queue := rest }.adopt c o).Awaits s := by
  have hspared : s.ticket ∉ abortedTickets c a.engine.suspended o.engine.suspended := by
    intro haborted
    rcases exists_lost_of_mem_abortedTickets haborted with ⟨lost, hlost, hgone, hticket⟩
    rw [hticketed.eq_of_ticket hlost hbefore hticket] at hgone
    exact hgone hafter
  cases h with
  | @running t ht hrule hticket =>
      refine .running (t := t) ?_ hrule hticket
      rw [adopt_timers]
      refine List.mem_append_left _ (List.mem_filter.mpr ⟨ht, ?_⟩)
      simpa [hticket] using hspared
  | @waiting w hw hcommand hticket =>
      refine .waiting (w := w) ?_ hcommand hticket
      rw [adopt_waiting]
      refine List.mem_filter.mpr ⟨hw, ?_⟩
      cases hcarried : w.ticket with
      | none =>
          rfl
      | some ticket =>
          rw [hticket ticket hcarried]
          simpa using hspared
  | queued hqueued =>
      rw [hqueue] at hqueued
      rcases List.mem_cons.mp hqueued with hhead | hrest
      · exact absurd hhead.symm hother
      · refine .queued ?_
        rw [adopt_queue]
        exact hrest

end Awaits

/-! ## Handling a command -/

theorem awaits_of_new (c : Command) {o : Outcome} (hnew : s ∉ a.engine.suspended)
    (hafter : s ∈ o.engine.suspended) : (a.adopt c o).Awaits s := by
  refine .running (t := ⟨s.rule, s.ticket, a.clock + o.engine.graceSeconds * 1000⟩) ?_ rfl rfl
  rw [adopt_timers]
  refine List.mem_append_right _ (List.mem_map.mpr ⟨s, ?_, rfl⟩)
  exact List.mem_filter.mpr ⟨hafter, by simpa using hnew⟩

namespace Guarded

theorem handling (h : a.Guarded) {c : Command} {rest : List Command} (o : Occasion)
    (hqueue : a.queue = c :: rest) :
    ({ a with queue := rest }.adopt c (a.engine.run o c)).Guarded := by
  constructor
  · rw [adopt_engine]
    exact h.ticketed.run o c
  · rw [adopt_engine]
    intro s hs
    by_cases hold : s ∈ a.engine.suspended
    · refine (h.awaited s hold).adopt h.ticketed hqueue hold hs ?_
      rintro rfl
      exact Engine.rule_ne_of_mem_run_resume hs rfl
    · exact awaits_of_new (a := { a with queue := rest }) c hold hs

/-! ## Every step -/

theorem of_engine (h : a.Guarded) (hsuspended : b.engine.suspended = a.engine.suspended)
    (hnext : b.engine.nextTicket = a.engine.nextTicket)
    (hawaits : ∀ s, a.Awaits s → b.Awaits s) : b.Guarded := by
  constructor
  · exact h.ticketed.of_same hsuspended hnext
  · intro s hs
    rw [hsuspended] at hs
    exact hawaits s (h.awaited s hs)

theorem of_same (h : a.Guarded) (hsuspended : b.engine.suspended = a.engine.suspended)
    (hnext : b.engine.nextTicket = a.engine.nextTicket) (htimers : b.timers = a.timers)
    (hwaiting : b.waiting = a.waiting) (hqueue : b.queue = a.queue) : b.Guarded := by
  refine h.of_engine hsuspended hnext ?_
  intro s hawaits
  refine hawaits.mono ?_ ?_ ?_
  · rw [htimers]
    exact List.Subset.refl _
  · rw [hwaiting]
    exact List.Subset.refl _
  · rw [hqueue]
    exact List.Subset.refl _

theorem step (h : a.Guarded) {happening : Happening} (hstep : Step a happening b) :
    b.Guarded := by
  cases hstep with
  | arrival hclient =>
      refine h.of_engine rfl rfl ?_
      intro s hawaits
      exact hawaits.mono (List.Subset.refl _) (List.subset_append_left _ _) (List.Subset.refl _)
  | withdrawal hwaiting hclient =>
      refine h.of_engine rfl rfl ?_
      intro s hawaits
      refine hawaits.move hwaiting (List.Subset.refl _) (List.Subset.refl _)
        (List.Subset.refl _) ?_
      intro hcommand
      exact absurd hcommand (hclient _)
  | @admission w front back hwaiting hroom =>
      refine h.of_engine rfl rfl ?_
      intro s hawaits
      refine hawaits.move hwaiting (List.Subset.refl _) ?_ (List.Subset.refl _) ?_
      · exact List.append_subset.mpr ⟨List.subset_append_left _ _,
          List.Subset.trans (List.subset_cons_self _ _) (List.subset_append_right _ _)⟩
      · intro hcommand
        refine .waiting (w := ⟨w.command, none⟩) ?_ hcommand (by simp)
        exact List.mem_append_right _ List.mem_cons_self
  | entry hwaiting hroom =>
      refine h.of_engine rfl rfl ?_
      intro s hawaits
      refine hawaits.move hwaiting (List.Subset.refl _) (List.Subset.refl _)
        (List.subset_append_left _ _) ?_
      intro hcommand
      refine .queued (List.mem_append_right _ ?_)
      rw [hcommand]
      exact List.mem_singleton_self _
  | handling fresh hqueue =>
      exact h.handling _ hqueue
  | expiry hrunning hdue =>
      exact h.of_engine rfl rfl fun s hawaits => hawaits.expire _
  | alarm =>
      exact h.of_same (Engine.pass_suspended _ _ _) (Engine.pass_nextTicket _ _ _) rfl rfl rfl
  | delay =>
      exact h.of_same rfl rfl rfl rfl rfl
  | disturbance store table outage =>
      exact h.of_same rfl rfl rfl rfl rfl

end Guarded

theorem Reachable.guarded (h : Reachable a) : a.Guarded := by
  induction h with
  | @start engine origin capacity hnew =>
      have hnone : (spawn engine origin capacity).engine.suspended = [] := by
        show (engine.pass origin "startup").2.suspended = []
        rw [Engine.pass_suspended]
        exact hnew
      constructor
      · constructor
        · simp [hnone]
        · simp [hnone]
      · simp [hnone]
  | step _ hstep ih =>
      exact ih.step hstep

/-! ## No rule stays suspended -/

theorem not_suspended_of_resume {rule : String} (hstep : Step a (.handling (.resume rule)) b) :
    rule ∉ b.engine.suspendedRules := by
  intro hsuspended
  rcases List.mem_map.mp hsuspended with ⟨s, hs, hrule⟩
  cases hstep with
  | handling fresh hqueue =>
      rw [adopt_engine] at hs
      exact Engine.rule_ne_of_mem_run_resume hs hrule

/--
Whatever clients ask for, in whatever order things happen: there always is
something that will end a suspension, and that does end it when it is handled.
-/
theorem suspended_awaits_resume (h : Reachable a) (rule : String) :
    (rule ∈ a.engine.suspendedRules →
      (∃ t ∈ a.timers, t.rule = rule) ∨ (∃ w ∈ a.waiting, w.command = .resume rule) ∨
        .resume rule ∈ a.queue) ∧
      ∀ b, Step a (.handling (.resume rule)) b → rule ∉ b.engine.suspendedRules := by
  constructor
  · intro hsuspended
    rcases List.mem_map.mp hsuspended with ⟨s, hs, rfl⟩
    cases h.guarded.awaited s hs with
    | running ht hrule hticket =>
        exact Or.inl ⟨_, ht, hrule⟩
    | waiting hw hcommand hticket =>
        exact Or.inr (Or.inl ⟨_, hw, hcommand⟩)
    | queued hqueued =>
        exact Or.inr (Or.inr hqueued)
  · intro b hstep
    exact not_suspended_of_resume hstep

/-! ## A sample -/

def asked : Actor :=
  (spawn (Engine.finding Engine.oneHost) Engine.dawn 16).send
    ⟨.suspend "home" "http://[::1]/", none⟩

def paused : Actor :=
  (asked.handle ⟨"", []⟩).2

/-- The grace is over, and the command that ends the suspension is in the queue. -/
def overdue : Actor :=
  { paused with clock := 60000 }.expire ⟨"home", 0, 60000⟩

theorem reachable_asked : Reachable asked := by
  have hspawned : Reachable (spawn (Engine.finding Engine.oneHost) Engine.dawn 16) :=
    .start Engine.dawn 16 rfl
  exact hspawned.send fun _ hcommand => nomatch hcommand

theorem reachable_paused : Reachable paused :=
  reachable_asked.handle ⟨"", []⟩

theorem paused_timers : paused.timers = [⟨"home", 0, 60000⟩] := by
  rfl

theorem reachable_overdue : Reachable overdue := by
  have hwaited : Reachable { paused with clock := 60000 } :=
    reachable_paused.delayed (Nat.zero_le _)
  refine hwaited.expire ?_ (Nat.le_refl _)
  rw [paused_timers]
  exact List.mem_singleton_self _

theorem overdue_awaits_resume :
    Reachable overdue ∧ "home" ∈ overdue.engine.suspendedRules ∧
      ((∃ t ∈ overdue.timers, t.rule = "home") ∨
        (∃ w ∈ overdue.waiting, w.command = .resume "home") ∨ .resume "home" ∈ overdue.queue) ∧
      "home" ∉ (overdue.handle ⟨"", []⟩).2.engine.suspendedRules := by
  have hrules : overdue.engine.suspendedRules = ["home"] := by
    rfl
  have hsuspended : "home" ∈ overdue.engine.suspendedRules := by
    rw [hrules]
    exact List.mem_singleton_self _
  have hstep : Step overdue (.handling (.resume "home")) (overdue.handle ⟨"", []⟩).2 :=
    @step_handle overdue _ [] ⟨"", []⟩ rfl rfl
  rcases suspended_awaits_resume reachable_overdue "home" with ⟨hawaits, hends⟩
  exact ⟨reachable_overdue, hsuspended, hawaits hsuspended, hends _ hstep⟩

end Actor
end SiteGuard
