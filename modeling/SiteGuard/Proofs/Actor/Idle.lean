import SiteGuard.Proofs.Actor.Step
import SiteGuard.Proofs.Engine.Retention

/-!
# Requests to an idle actor

An actor with nothing in its queue handles a command at once.  Timers that have run
out meanwhile only end suspensions, which leaves the rules as the command left them.
-/

namespace SiteGuard
namespace Actor

open Calendar

/-! ## Suspensions that end -/

/-- All that is to be handled yet are ends of suspensions, and the rules are these. -/
structure Resting (a : Actor) (rules : List Rule) : Prop where
  queue : ∀ c ∈ a.queue, ∃ rule, c = .resume rule
  waiting : ∀ w ∈ a.waiting, ∃ rule, w.command = .resume rule
  rules : a.engine.settings.rules = rules

theorem rules_of_resume (e : Engine) (o : Occasion) (rule : String) :
    (e.run o (.resume rule)).engine.settings.rules = e.settings.rules := by
  rcases e.run_stores o (.resume rule) with ⟨s, rfl | ⟨reply, hsaves⟩, hstores⟩
  · exact hstores.rules
  · cases hsaves

namespace Resting

variable {a : Actor} {rules : List Rule}

theorem refill (h : a.Resting rules) : a.refill.Resting rules := by
  constructor
  · intro c hc
    rcases List.mem_append.mp hc with hqueued | hentered
    · exact h.queue c hqueued
    · rcases List.mem_map.mp hentered with ⟨w, hw, rfl⟩
      exact h.waiting w (List.mem_of_mem_take hw)
  · intro w hw
    exact h.waiting w (List.mem_of_mem_drop hw)
  · exact h.rules

theorem expire (h : a.Resting rules) (t : Timer) : (a.expire t).Resting rules := by
  apply refill
  constructor
  · exact h.queue
  · intro w hw
    rcases List.mem_append.mp hw with hbefore | hnew
    · exact h.waiting w hbefore
    · rw [List.mem_singleton.mp hnew]
      exact ⟨t.rule, rfl⟩
  · exact h.rules

theorem expireAll (h : a.Resting rules) (due : List Timer) :
    (due.foldl Actor.expire a).Resting rules := by
  induction due generalizing a with
  | nil =>
      exact h
  | cons t rest ih =>
      exact ih (h.expire t)

theorem handle (h : a.Resting rules) (fresh : Fresh) : (a.handle fresh).2.Resting rules := by
  unfold Actor.handle
  cases hqueue : a.queue with
  | nil =>
      exact h
  | cons c rest =>
      rcases h.queue c (hqueue ▸ List.mem_cons_self) with ⟨rule, rfl⟩
      have hrest : { a with queue := rest }.Resting rules :=
        ⟨fun c hc => h.queue c (hqueue ▸ List.mem_cons_of_mem _ hc), h.waiting, h.rules⟩
      have hfilled := hrest.refill
      dsimp only
      constructor
      · rw [adopt_queue]
        exact hfilled.queue
      · intro w hw
        rw [adopt_waiting] at hw
        exact hfilled.waiting w (List.mem_of_mem_filter hw)
      · rw [adopt_engine, rules_of_resume]
        exact h.rules

theorem drain (fresh : Fresh) (fuel : Nat) (h : a.Resting rules) :
    (a.drain fresh fuel).Resting rules := by
  induction fuel generalizing a with
  | zero =>
      exact h
  | succ fuel ih =>
      unfold Actor.drain
      split
      · exact h
      · exact ih (h.handle fresh)

theorem settle (h : a.Resting rules) (fresh : Fresh) : (a.settle fresh).Resting rules :=
  (h.expireAll _).drain fresh _

end Resting

/-! ## Queues that run empty -/

/-- Nothing is queued, nothing waits, and there is room for a command. -/
structure Idle (a : Actor) : Prop where
  queue : a.queue = []
  waiting : a.waiting = []
  room : 0 < a.capacity

structure Fed (a : Actor) : Prop where
  room : 0 < a.capacity
  full : a.waiting = [] ∨ a.capacity ≤ a.queue.length

def load (a : Actor) : Nat :=
  a.queue.length + a.waiting.length

theorem load_refill (a : Actor) : a.refill.load = a.load := by
  simp only [load, refill, List.length_append, List.length_map, List.length_take, List.length_drop]
  omega

theorem load_adopt_le (a : Actor) (c : Command) (o : Outcome) : (a.adopt c o).load ≤ a.load := by
  unfold load
  rw [adopt_queue, adopt_waiting]
  exact Nat.add_le_add_left (List.length_filter_le _ _) _

theorem fed_refill {a : Actor} (hroom : 0 < a.capacity) : a.refill.Fed := by
  refine ⟨hroom, ?_⟩
  by_cases hall : a.waiting.length ≤ a.capacity - a.queue.length
  · exact Or.inl (List.drop_eq_nil_of_le hall)
  · refine Or.inr ?_
    show a.capacity ≤ (a.queue ++ (a.waiting.take _).map _).length
    rw [List.length_append, List.length_map, List.length_take]
    omega

namespace Fed

variable {a : Actor}

theorem idle (h : a.Fed) (hqueue : a.queue = []) : a.Idle := by
  rcases h.full with hnone | hfull
  · exact ⟨hqueue, hnone, h.room⟩
  · rw [hqueue] at hfull
    exact absurd h.room (Nat.not_lt.mpr hfull)

theorem expireAll (h : a.Fed) (due : List Timer) : (due.foldl Actor.expire a).Fed := by
  induction due generalizing a with
  | nil =>
      exact h
  | cons t rest ih =>
      have hexpired : (a.expire t).Fed := fed_refill h.room
      exact ih hexpired

theorem adopt (h : a.Fed) (c : Command) (o : Outcome) : (a.adopt c o).Fed := by
  constructor
  · rw [adopt_capacity]
    exact h.room
  · rw [adopt_capacity, adopt_queue, adopt_waiting]
    rcases h.full with hnone | hfull
    · exact Or.inl (by rw [hnone, List.filter_nil])
    · exact Or.inr hfull

theorem handle (h : a.Fed) (fresh : Fresh) (hqueue : a.queue ≠ []) :
    (a.handle fresh).2.Fed ∧ (a.handle fresh).2.load < a.load := by
  cases hcommands : a.queue with
  | nil =>
      exact absurd hcommands hqueue
  | cons c rest =>
      have hfilled : { a with queue := rest }.refill.Fed := fed_refill h.room
      have hrest : { a with queue := rest }.refill.load = rest.length + a.waiting.length :=
        load_refill _
      have htotal : a.load = rest.length + 1 + a.waiting.length := by
        unfold load
        rw [hcommands, List.length_cons]
      have hstep : ∃ o, (a.handle fresh).2 = { a with queue := rest }.refill.adopt c o := by
        unfold Actor.handle
        rw [hcommands]
        exact ⟨_, rfl⟩
      rcases hstep with ⟨o, hstep⟩
      have hless := load_adopt_le { a with queue := rest }.refill c o
      rw [hstep]
      exact ⟨hfilled.adopt c o, by omega⟩

theorem drain (fresh : Fresh) {fuel : Nat} (h : a.Fed) (hfuel : a.load ≤ fuel) :
    (a.drain fresh fuel).Idle := by
  induction fuel generalizing a with
  | zero =>
      exact h.idle (List.eq_nil_of_length_eq_zero (by unfold load at hfuel; omega))
  | succ fuel ih =>
      unfold Actor.drain
      split
      · rename_i hempty
        exact h.idle (List.isEmpty_iff.mp hempty)
      · rename_i hqueue
        rcases h.handle fresh fun hempty => hqueue (List.isEmpty_iff.mpr hempty) with ⟨hfed, hless⟩
        exact ih hfed (by omega)

theorem settle (h : a.Fed) (fresh : Fresh) : (a.settle fresh).Idle :=
  (h.expireAll _).drain fresh (Nat.le_refl _)

end Fed

/-! ## Requests -/

namespace Idle

variable {a : Actor}

theorem handle_send (h : a.Idle) (fresh : Fresh) (c : Command) :
    let outcome := a.engine.run ⟨a.now, fresh.ruleId, fresh.salt⟩ c
    (a.send ⟨c, none⟩).handle fresh = (some outcome.result, a.adopt c outcome) := by
  rcases a with ⟨engine, origin, clock, queue, capacity, waiting, timers, alarm⟩
  obtain rfl : queue = [] := h.queue
  obtain rfl : waiting = [] := h.waiting
  rcases Nat.exists_eq_succ_of_ne_zero (Nat.ne_of_gt h.room) with ⟨room, hroom⟩
  obtain rfl : capacity = room + 1 := hroom
  simp [send, refill, Actor.handle, now, momentAt]

theorem adopt (h : a.Idle) (c : Command) (o : Outcome) : (a.adopt c o).Idle := by
  constructor
  · rw [adopt_queue, h.queue]
  · rw [adopt_waiting, h.waiting, List.filter_nil]
  · rw [adopt_capacity]
    exact h.room

theorem resting (h : a.Idle) : a.Resting a.engine.settings.rules := by
  constructor
  · intro c hc
    rw [h.queue] at hc
    cases hc
  · intro w hw
    rw [h.waiting] at hw
    cases hw
  · rfl

theorem fed (h : a.Idle) : a.Fed :=
  ⟨h.room, Or.inl h.waiting⟩

/--
An idle actor answers as its engine does.  It then becomes idle again, with the rules
that the command has left.
-/
theorem request (h : a.Idle) (fresh : Fresh) (c : Command) :
    let outcome := a.engine.run ⟨a.now, fresh.ruleId, fresh.salt⟩ c
    (a.request fresh c).1 = outcome.result ∧ (a.request fresh c).2.Idle ∧
      (a.request fresh c).2.engine.settings.rules = outcome.engine.settings.rules := by
  intro outcome
  have hadopted : (a.adopt c outcome).Idle := h.adopt c outcome
  have hrules := (hadopted.resting.settle fresh).rules
  rw [adopt_engine] at hrules
  unfold Actor.request
  rw [h.handle_send fresh c]
  exact ⟨rfl, hadopted.fed.settle fresh, hrules⟩

end Idle
end Actor
end SiteGuard
