import SiteGuard.Actor
import SiteGuard.Proofs.Engine.Suspension

/-!
# Steps of an actor

What may happen to an actor, one thing at a time and in any order.  The steps
leave more open than the machine does: a waiting command enters the queue at any
time at which there is room, a timer may run out late, and the backends may fail
or be changed from outside.  Whatever the machine does is a run of such steps.
-/

namespace SiteGuard
namespace Actor

open Calendar

/-! ## Steps -/

inductive Happening where
  | arrival (c : Command)
  | withdrawal (w : Waiting)
  | admission (w : Waiting)
  | entry (w : Waiting)
  | handling (c : Command)
  | expiry (t : Timer)
  | alarm
  | delay (millis : Nat)
  | disturbance

/--
A client sends any command but the one that ends a suspension, and may give up
waiting.  While a command is handled its place in the queue is free already, so
there is room as long as the queue is not longer than its capacity.  A command
that has been admitted is about to enter and cannot be stopped any more.
-/
inductive Step : Actor → Happening → Actor → Prop where
  | arrival {a : Actor} {c : Command} (hclient : ∀ rule, c ≠ .resume rule) :
      Step a (.arrival c) { a with waiting := a.waiting ++ [⟨c, none⟩] }
  | withdrawal {a : Actor} {w : Waiting} {front back : List Waiting}
      (hwaiting : a.waiting = front ++ w :: back)
      (hclient : ∀ rule, w.command ≠ .resume rule) :
      Step a (.withdrawal w) { a with waiting := front ++ back }
  | admission {a : Actor} {w : Waiting} {front back : List Waiting}
      (hwaiting : a.waiting = front ++ w :: back) (hroom : a.queue.length ≤ a.capacity) :
      Step a (.admission w) { a with waiting := front ++ ⟨w.command, none⟩ :: back }
  | entry {a : Actor} {w : Waiting} {front back : List Waiting}
      (hwaiting : a.waiting = front ++ w :: back) (hroom : a.queue.length ≤ a.capacity) :
      Step a (.entry w)
        { a with
          queue := a.queue ++ [w.command]
          waiting := front ++ back }
  | handling {a : Actor} {c : Command} {rest : List Command} (fresh : Fresh)
      (hqueue : a.queue = c :: rest) :
      Step a (.handling c)
        ({ a with queue := rest }.adopt c (a.engine.run ⟨a.now, fresh.ruleId, fresh.salt⟩ c))
  | expiry {a : Actor} {t : Timer} (hrunning : t ∈ a.timers) (hdue : t.due ≤ a.clock) :
      Step a (.expiry t)
        { a with
          timers := a.timers.erase t
          waiting := a.waiting ++ [⟨.resume t.rule, some t.ticket⟩] }
  | alarm {a : Actor} : Step a .alarm a.ring
  | delay {a : Actor} {millis : Nat} :
      Step a (.delay millis) { a with clock := a.clock + millis }
  | disturbance {a : Actor} (store : Store) (table : DirectiveTable) (outage : Outage) :
      Step a .disturbance { a with engine := { a.engine with store, table, outage } }

/-- An actor on which nothing was suspended when it began, after any steps. -/
inductive Reachable : Actor → Prop where
  | start {engine : Engine} (origin : Moment) (capacity : Nat) (hnew : engine.suspended = []) :
      Reachable (spawn engine origin capacity)
  | step {a b : Actor} {h : Happening} (ha : Reachable a) (hstep : Step a h b) : Reachable b

/-! ## Runs -/

structure Move where
  before : Actor
  happening : Happening

inductive Run : Actor → List Move → Actor → Prop where
  | nil {a : Actor} : Run a [] a
  | cons {a b c : Actor} {h : Happening} {moves : List Move} (hstep : Step a h b)
      (hrun : Run b moves c) : Run a (⟨a, h⟩ :: moves) c

/-! ## Taking over an outcome -/

section Adopt

variable (a : Actor) (c : Command) (o : Outcome)

@[simp]
theorem adopt_engine : (a.adopt c o).engine = o.engine := by
  unfold adopt
  dsimp only
  split
  · rfl
  · rfl

@[simp]
theorem adopt_queue : (a.adopt c o).queue = a.queue := by
  unfold adopt
  dsimp only
  split
  · rfl
  · rfl

@[simp]
theorem adopt_capacity : (a.adopt c o).capacity = a.capacity := by
  unfold adopt
  dsimp only
  split
  · rfl
  · rfl

@[simp]
theorem adopt_clock : (a.adopt c o).clock = a.clock := by
  unfold adopt
  dsimp only
  split
  · rfl
  · rfl

@[simp]
theorem adopt_waiting : (a.adopt c o).waiting = a.waiting.filter fun w =>
    !w.ticket.any (abortedTickets c a.engine.suspended o.engine.suspended).contains := by
  unfold adopt
  dsimp only
  split
  · rfl
  · rfl

@[simp]
theorem adopt_timers : (a.adopt c o).timers =
    (a.timers.filter fun t =>
      !(abortedTickets c a.engine.suspended o.engine.suspended).contains t.ticket) ++
    (o.engine.suspended.filter fun s => !a.engine.suspended.contains s).map fun s =>
      ⟨s.rule, s.ticket, a.clock + o.engine.graceSeconds * 1000⟩ := by
  unfold adopt
  dsimp only
  split
  · rfl
  · rfl

end Adopt

/-- A suspension lost by a command leaves its ticket behind, if the command aborts timers. -/
theorem exists_lost_of_mem_abortedTickets {c : Command} {before after : List Suspension}
    {ticket : Nat} (h : ticket ∈ abortedTickets c before after) :
    ∃ s ∈ before, s ∉ after ∧ s.ticket = ticket := by
  have hlost : ticket ∈ lostTickets before after := by
    unfold abortedTickets at h
    split at h
    · cases h
    · exact h
  rcases List.mem_map.mp hlost with ⟨s, hs, hticket⟩
  rcases List.mem_filter.mp hs with ⟨hbefore, hafter⟩
  refine ⟨s, hbefore, ?_, hticket⟩
  simpa using hafter

/-! ## What the machine does -/

theorem step_handle {a : Actor} {c : Command} {rest : List Command} (fresh : Fresh)
    (hqueue : a.queue = c :: rest) (hwaiting : a.waiting = []) :
    Step a (.handling c) (a.handle fresh).2 := by
  have hidle : { a with queue := rest }.refill = { a with queue := rest } := by
    simp [refill, hwaiting]
  have hhandle : (a.handle fresh).2 =
      { a with queue := rest }.adopt c (a.engine.run ⟨a.now, fresh.ruleId, fresh.salt⟩ c) := by
    unfold handle
    rw [hqueue]
    dsimp only
    rw [hidle]
    rfl
  rw [hhandle]
  exact .handling fresh hqueue

theorem handle_clock (a : Actor) (fresh : Fresh) : (a.handle fresh).2.clock = a.clock := by
  unfold handle
  split
  · rfl
  · dsimp only
    rw [adopt_clock]
    rfl

theorem drain_clock (fresh : Fresh) (fuel : Nat) (a : Actor) :
    (a.drain fresh fuel).clock = a.clock := by
  induction fuel generalizing a with
  | zero =>
      rfl
  | succ fuel ih =>
      unfold drain
      split
      · rfl
      · rw [ih, handle_clock]

theorem settle_clock (a : Actor) (fresh : Fresh) : (a.settle fresh).clock = a.clock := by
  have hexpired : ∀ (due : List Timer) (b : Actor), (due.foldl expire b).clock = b.clock := by
    intro due
    induction due with
    | nil =>
        intro b
        rfl
    | cons t rest ih =>
        intro b
        exact ih (b.expire t)
  unfold settle
  dsimp only
  rw [drain_clock, hexpired]

namespace Reachable

variable {a : Actor}

theorem entries (h : Reachable a) {count : Nat}
    (hroom : count ≤ a.capacity + 1 - a.queue.length) :
    Reachable
      { a with
        queue := a.queue ++ (a.waiting.take count).map (·.command)
        waiting := a.waiting.drop count } := by
  induction count generalizing a with
  | zero =>
      simpa using h
  | succ count ih =>
      cases hwaiting : a.waiting with
      | nil =>
          have hsame : { a with queue := a.queue, waiting := [] } = a := by
            rw [← hwaiting]
          simpa [hsame] using h
      | cons w back =>
          have hentry : Step a (.entry w)
              { a with
                queue := a.queue ++ [w.command]
                waiting := back } :=
            @Step.entry a w [] back hwaiting (by omega)
          have hrest := ih (h.step hentry) (by
            simp only [List.length_append, List.length_singleton]
            omega)
          simpa using hrest

theorem refill (h : Reachable a) : Reachable a.refill :=
  h.entries (Nat.sub_le_sub_right (Nat.le_succ _) _)

theorem send (h : Reachable a) {c : Command} (hclient : ∀ rule, c ≠ .resume rule) :
    Reachable (a.send ⟨c, none⟩) :=
  (h.step (.arrival hclient)).refill

theorem handle (h : Reachable a) (fresh : Fresh) : Reachable (a.handle fresh).2 := by
  unfold Actor.handle
  cases hqueue : a.queue with
  | nil =>
      exact h
  | cons c rest =>
      have hroom : a.capacity - rest.length ≤ a.capacity + 1 - a.queue.length := by
        rw [hqueue, List.length_cons]
        omega
      have hentered := h.entries hroom
      have hhandled := hentered.step (.handling fresh (by
        show a.queue ++ _ = _
        rw [hqueue]
        rfl))
      exact hhandled

theorem expire (h : Reachable a) {t : Timer} (hrunning : t ∈ a.timers)
    (hdue : t.due ≤ a.clock) : Reachable (a.expire t) :=
  (h.step (.expiry hrunning hdue)).refill

theorem ring (h : Reachable a) : Reachable a.ring :=
  h.step .alarm

theorem drain (fresh : Fresh) (fuel : Nat) (h : Reachable a) :
    Reachable (a.drain fresh fuel) := by
  induction fuel generalizing a with
  | zero =>
      exact h
  | succ fuel ih =>
      unfold Actor.drain
      split
      · exact h
      · exact ih (h.handle fresh)

theorem expireAll (h : Reachable a) {due : List Timer} (hrunning : due.Subperm a.timers)
    (hdue : ∀ t ∈ due, t.due ≤ a.clock) : Reachable (due.foldl Actor.expire a) := by
  induction due generalizing a with
  | nil =>
      exact h
  | cons t rest ih =>
      have hmem : t ∈ a.timers := hrunning.subset List.mem_cons_self
      have hexpired := h.expire hmem (hdue t List.mem_cons_self)
      have hothers : rest.Subperm (a.timers.erase t) := by
        have herased := hrunning.erase t
        rw [List.erase_cons_head] at herased
        exact herased
      exact ih hexpired hothers fun s hs => hdue s (List.mem_cons_of_mem _ hs)

theorem settle (h : Reachable a) (fresh : Fresh) : Reachable (a.settle fresh) := by
  have hexpired := h.expireAll (List.filter_sublist (p := fun t => t.due ≤ a.clock)).subperm
    fun t ht => of_decide_eq_true (List.mem_filter.mp ht).2
  exact hexpired.drain fresh _

theorem request (h : Reachable a) (fresh : Fresh) {c : Command}
    (hclient : ∀ rule, c ≠ .resume rule) : Reachable (a.request fresh c).2 :=
  ((h.send hclient).handle fresh).settle fresh

theorem delayed (h : Reachable a) {clock : Nat} (hlater : a.clock ≤ clock) :
    Reachable { a with clock } := by
  have hdelay := h.step (@Step.delay a (clock - a.clock))
  rw [Nat.add_sub_cancel' hlater] at hdelay
  exact hdelay

theorem advance (fresh : Fresh) {target fuel : Nat} (h : Reachable a)
    (hahead : a.clock ≤ target) : Reachable (a.advance fresh target fuel) := by
  induction fuel generalizing a with
  | zero =>
      exact h.delayed hahead
  | succ fuel ih =>
      unfold Actor.advance
      dsimp only
      split
      · exact h.delayed hahead
      · rename_i hdue
        have hwaited : Reachable { a with clock := max a.clock a.nextDue } :=
          h.delayed (Nat.le_max_left _ _)
        have hrung : Reachable
            (if a.alarm ≤ max a.clock a.nextDue then
              Actor.ring { a with clock := max a.clock a.nextDue }
            else { a with clock := max a.clock a.nextDue }) := by
          split
          · exact hwaited.ring
          · exact hwaited
        refine ih (hrung.settle fresh) ?_
        rw [settle_clock]
        split
        · exact Nat.le_of_not_lt hdue
        · exact Nat.le_of_not_lt hdue

theorem sleep (h : Reachable a) (fresh : Fresh) (millis : Nat) :
    Reachable (a.sleep fresh millis) :=
  h.advance fresh (Nat.le_add_right _ _)

end Reachable

end Actor
end SiteGuard
