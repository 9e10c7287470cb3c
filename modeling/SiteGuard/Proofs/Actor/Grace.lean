import SiteGuard.Proofs.Actor.Restoration

/-!
# How long a suspension lasts

A suspension ends with the first command that ends one of its rule.  That need
not be the command of its own timer: one that an older timer has sent does not
say which suspension it is for, and once it is in the queue nothing takes it
back.
-/

namespace SiteGuard

open Calendar

namespace Actor

variable {a b c : Actor} {rule url : String} {happening : Happening} {moves : List Move}

/-! ## Steps and runs that leave a suspension -/

theorem step_suspended (hstep : Step a happening b) :
    b.engine.suspended = a.engine.suspended ∨
      ∃ command, happening = .handling command ∧
        a.engine.Resuspends command b.engine.suspended := by
  cases hstep with
  | handling fresh hqueue =>
      refine Or.inr ⟨_, rfl, ?_⟩
      rw [adopt_engine]
      exact Engine.run_resuspends _ _ _
  | alarm =>
      exact Or.inl (Engine.pass_suspended _ _ _)
  | _ =>
      exact Or.inl rfl

theorem suspended_of_step (hstep : Step a happening b) (hrule : rule ∈ a.engine.suspendedRules)
    (hstays : ∀ command, happening = .handling command → ¬ command.Ends a.engine rule) :
    rule ∈ b.engine.suspendedRules := by
  rcases List.mem_map.mp hrule with ⟨s, hs, rfl⟩
  rcases step_suspended hstep with hsame | ⟨command, hhandled, hchange⟩
  · rw [Engine.suspendedRules, hsame]
    exact List.mem_map_of_mem hs
  · exact List.mem_map.mpr (hchange.rule_mem hs (hstays command hhandled))

theorem suspended_before_step (hstep : Step a happening b)
    (hrule : rule ∈ b.engine.suspendedRules)
    (hold : ∀ url, happening = .handling (.suspend rule url) → ¬ a.engine.Grants rule url) :
    rule ∈ a.engine.suspendedRules := by
  rcases List.mem_map.mp hrule with ⟨s, hs, rfl⟩
  by_cases hbefore : s ∈ a.engine.suspended
  · exact List.mem_map_of_mem hbefore
  · rcases step_suspended hstep with hsame | ⟨command, hhandled, hchange⟩
    · rw [hsame] at hs
      exact absurd hs hbefore
    · rcases hchange.of_new hs hbefore with ⟨url, rfl, hgrants⟩
      exact absurd hgrants (hold url hhandled)

/-- A run in which nothing takes the suspension of a rule back, and no new one begins. -/
structure Undisturbed (rule : String) (moves : List Move) : Prop where
  unrevoked : ∀ m ∈ moves, ∀ command, m.happening = .handling command →
    ¬ command.Revokes m.before.engine rule
  latest : ∀ m ∈ moves, ∀ url, m.happening = .handling (.suspend rule url) →
    ¬ m.before.engine.Grants rule url

namespace Undisturbed

variable {m : Move}

theorem tail (h : Undisturbed rule (m :: moves)) : Undisturbed rule moves :=
  ⟨fun m hm => h.unrevoked m (List.mem_cons_of_mem _ hm),
    fun m hm => h.latest m (List.mem_cons_of_mem _ hm)⟩

theorem suspended_before_run (h : Undisturbed rule moves) (hrun : Run a moves b)
    (hrule : rule ∈ b.engine.suspendedRules) : rule ∈ a.engine.suspendedRules := by
  induction hrun with
  | nil =>
      exact hrule
  | cons hstep _ ih =>
      exact suspended_before_step hstep (ih h.tail hrule) (h.latest _ List.mem_cons_self)

theorem suspended_of_run (h : Undisturbed rule moves) (hrun : Run a moves b)
    (hrule : rule ∈ a.engine.suspendedRules)
    (hnone : ∀ m ∈ moves, m.happening ≠ .handling (.resume rule)) :
    rule ∈ b.engine.suspendedRules := by
  induction hrun with
  | nil =>
      exact hrule
  | cons hstep _ ih =>
      refine ih h.tail (suspended_of_step hstep hrule ?_)
        fun m hm => hnone m (List.mem_cons_of_mem _ hm)
      rintro command hhandled (rfl | hrevokes)
      · exact hnone _ List.mem_cons_self hhandled
      · exact h.unrevoked _ List.mem_cons_self command hhandled hrevokes

theorem not_suspended_of_run (h : Undisturbed rule moves) (hrun : Run a moves b)
    (hm : m ∈ moves) (hended : m.happening = .handling (.resume rule)) :
    rule ∉ b.engine.suspendedRules := by
  induction hrun with
  | nil =>
      cases hm
  | cons hstep hrest ih =>
      rcases List.mem_cons.mp hm with rfl | hm
      · subst hended
        intro hrule
        exact not_suspended_of_resume hstep (h.tail.suspended_before_run hrest hrule)
      · exact ih h.tail hm

end Undisturbed

/-! ## What else could end it -/

/-- Of all that is under way nothing will end a suspension of a rule but one timer. -/
structure Sole (a : Actor) (rule : String) (ticket : Nat) : Prop where
  queue : .resume rule ∉ a.queue
  waiting : ∀ w ∈ a.waiting, w.command ≠ .resume rule
  timers : ∀ t ∈ a.timers, t.rule = rule → t.ticket = ticket

namespace Sole

variable {ticket : Nat}

theorem mono (h : a.Sole rule ticket) (hqueue : b.queue ⊆ a.queue)
    (hwaiting : b.waiting ⊆ a.waiting) (htimers : b.timers ⊆ a.timers) : b.Sole rule ticket :=
  ⟨fun hmem => h.queue (hqueue hmem), fun w hw => h.waiting w (hwaiting hw),
    fun t ht => h.timers t (htimers ht)⟩

theorem adopt (h : a.Sole rule ticket) {c : Command} {o : Outcome}
    (hnew : ∀ s ∈ o.engine.suspended, s ∉ a.engine.suspended → s.rule ≠ rule) :
    (a.adopt c o).Sole rule ticket := by
  constructor
  · rw [adopt_queue]
    exact h.queue
  · intro w hw
    rw [adopt_waiting] at hw
    exact h.waiting w (List.mem_of_mem_filter hw)
  · intro t ht hrule
    rw [adopt_timers] at ht
    rcases List.mem_append.mp ht with hold | hstarted
    · exact h.timers t (List.mem_of_mem_filter hold) hrule
    · rcases List.mem_map.mp hstarted with ⟨s, hs, rfl⟩
      rcases List.mem_filter.mp hs with ⟨hs, hbefore⟩
      exact absurd hrule (hnew s hs (by simpa using hbefore))

theorem step (h : a.Sole rule ticket) (hstep : Step a happening b)
    (hold : ∀ url, happening = .handling (.suspend rule url) → ¬ a.engine.Grants rule url)
    (hrunning : ∀ t, happening = .expiry t → t.rule = rule → t.ticket ≠ ticket) :
    b.Sole rule ticket := by
  cases hstep with
  | arrival hclient =>
      constructor
      · exact h.queue
      · intro w hw
        rcases List.mem_append.mp hw with hw | hw
        · exact h.waiting w hw
        · rw [List.mem_singleton.mp hw]
          exact hclient rule
      · exact h.timers
  | @withdrawal w front back hwaiting hclient =>
      refine h.mono (List.Subset.refl _) ?_ (List.Subset.refl _)
      rw [hwaiting]
      exact ((List.sublist_cons_self w back).append_left front).subset
  | @admission w front back hwaiting hroom =>
      have hothers : ∀ w' ∈ front ++ w :: back, w'.command ≠ .resume rule := by
        rw [← hwaiting]
        exact h.waiting
      constructor
      · exact h.queue
      · intro w' hw'
        rcases List.mem_append.mp hw' with hfront | hw'
        · exact hothers w' (List.mem_append_left _ hfront)
        · rcases List.mem_cons.mp hw' with rfl | hback
          · exact hothers w (List.mem_append_right _ List.mem_cons_self)
          · exact hothers w' (List.mem_append_right _ (List.mem_cons_of_mem _ hback))
      · exact h.timers
  | @entry w front back hwaiting hroom =>
      have hothers : ∀ w' ∈ front ++ w :: back, w'.command ≠ .resume rule := by
        rw [← hwaiting]
        exact h.waiting
      constructor
      · intro hqueued
        rcases List.mem_append.mp hqueued with hqueued | hentered
        · exact h.queue hqueued
        · exact hothers w (List.mem_append_right _ List.mem_cons_self)
            (List.mem_singleton.mp hentered).symm
      · intro w' hw'
        exact hothers w' (((List.sublist_cons_self w back).append_left front).subset hw')
      · exact h.timers
  | @handling command rest fresh hqueue =>
      have hleft : { a with queue := rest }.Sole rule ticket := by
        refine h.mono ?_ (List.Subset.refl _) (List.Subset.refl _)
        rw [hqueue]
        exact List.subset_cons_self _ _
      refine hleft.adopt ?_
      rintro s hs hbefore rfl
      rcases (Engine.run_resuspends _ _ _).of_new hs hbefore with ⟨url, rfl, hgrants⟩
      exact hold url rfl hgrants
  | @expiry t hmem hdue =>
      constructor
      · exact h.queue
      · intro w hw
        rcases List.mem_append.mp hw with hw | hsent
        · exact h.waiting w hw
        · rw [List.mem_singleton.mp hsent]
          intro hcommand
          have hrule : t.rule = rule := Command.resume.inj hcommand
          exact hrunning t rfl hrule (h.timers t hmem hrule)
      · intro t' ht'
        exact h.timers t' (List.mem_of_mem_erase ht')
  | alarm =>
      exact ⟨h.queue, h.waiting, h.timers⟩
  | delay =>
      exact ⟨h.queue, h.waiting, h.timers⟩
  | disturbance store table outage =>
      exact ⟨h.queue, h.waiting, h.timers⟩

/-- While the one timer has not run out, nothing is handled that ends the suspension. -/
theorem ne_resume_of_run (h : a.Sole rule ticket) (hmoves : Undisturbed rule moves)
    (hrun : Run a moves b)
    (hrunning : ∀ m ∈ moves, ∀ t, m.happening = .expiry t → t.rule = rule → t.ticket ≠ ticket) :
    ∀ m ∈ moves, m.happening ≠ .handling (.resume rule) := by
  induction hrun with
  | nil =>
      intro m hm
      cases hm
  | cons hstep _ ih =>
      intro m hm
      rcases List.mem_cons.mp hm with rfl | hm
      · rintro rfl
        cases hstep with
        | handling fresh hqueue =>
            refine h.queue ?_
            rw [hqueue]
            exact List.mem_cons_self
      · have hnext := h.step hstep (hmoves.latest _ List.mem_cons_self)
          (hrunning _ List.mem_cons_self)
        exact ih hnext hmoves.tail (fun m hm => hrunning m (List.mem_cons_of_mem _ hm)) m hm

end Sole

/-! ## From a grant on -/

theorem timer_of_grant (h : Reachable a) (hgrant : Step a (.handling (.suspend rule url)) b)
    (hgrants : a.engine.Grants rule url) :
    ⟨rule, a.engine.nextTicket, a.clock + b.engine.graceSeconds * 1000⟩ ∈ b.timers := by
  cases hgrant with
  | @handling _ rest fresh hqueue =>
      have hnew : (⟨rule, a.engine.nextTicket⟩ : Suspension) ∉ a.engine.suspended := by
        intro hmem
        exact Nat.lt_irrefl _ (h.guarded.ticketed.issued _ hmem)
      rw [adopt_timers, adopt_engine]
      refine List.mem_append_right _ (List.mem_map.mpr ⟨⟨rule, a.engine.nextTicket⟩, ?_, rfl⟩)
      refine List.mem_filter.mpr ⟨?_, ?_⟩
      · rw [Engine.run_suspend hgrants]
        exact List.mem_cons_self
      · simpa using hnew

theorem suspended_of_grant (hgrant : Step a (.handling (.suspend rule url)) b)
    (hgrants : a.engine.Grants rule url) : rule ∈ b.engine.suspendedRules := by
  cases hgrant with
  | handling fresh hqueue =>
      rw [adopt_engine, Engine.suspendedRules, Engine.run_suspend hgrants]
      exact List.mem_map_of_mem List.mem_cons_self

/--
After a grant the rule stays suspended exactly until a command is handled that
ends suspensions of the rule, the sender of which may be an older timer.  Where
nothing older is under way at the grant, that is not before the timer of the
grant itself has run out.
-/
theorem suspended_since_grant (h : Reachable a)
    (hgrant : Step a (.handling (.suspend rule url)) b) (hgrants : a.engine.Grants rule url)
    (hrun : Run b moves c) (hmoves : Undisturbed rule moves) :
    ⟨rule, a.engine.nextTicket, a.clock + b.engine.graceSeconds * 1000⟩ ∈ b.timers ∧
      (rule ∈ c.engine.suspendedRules ↔
        ∀ m ∈ moves, m.happening ≠ .handling (.resume rule)) ∧
      (b.Sole rule a.engine.nextTicket →
        (∀ m ∈ moves, ∀ t, m.happening = .expiry t → t.rule = rule →
          t.ticket ≠ a.engine.nextTicket) →
        rule ∈ c.engine.suspendedRules) := by
  have hbegun : rule ∈ b.engine.suspendedRules := suspended_of_grant hgrant hgrants
  refine ⟨timer_of_grant h hgrant hgrants, ?_, ?_⟩
  · constructor
    · intro hrule m hm hended
      exact hmoves.not_suspended_of_run hrun hm hended hrule
    · exact hmoves.suspended_of_run hrun hbegun
  · intro hsole hrunning
    exact hmoves.suspended_of_run hrun hbegun (hsole.ne_resume_of_run hmoves hrun hrunning)

/-! ## Samples -/

theorem asked_grants : asked.engine.Grants "home" "http://[::1]/" :=
  ⟨_, rfl⟩

theorem asked_granted : Step asked (.handling (.suspend "home" "http://[::1]/")) paused :=
  @step_handle asked _ [] ⟨"", []⟩ rfl rfl

/-- The last millisecond of a grace, just after an alarm. -/
def pausedStill : Actor :=
  { paused with clock := 59999 }.ring

def waitedStill : List Move :=
  [⟨paused, .delay 59999⟩, ⟨{ paused with clock := 59999 }, .alarm⟩]

theorem paused_lasts :
    Reachable asked ∧ asked.engine.Grants "home" "http://[::1]/" ∧
      Step asked (.handling (.suspend "home" "http://[::1]/")) paused ∧
      Run paused waitedStill pausedStill ∧ Undisturbed "home" waitedStill ∧
      ⟨"home", 0, 60000⟩ ∈ paused.timers ∧ "home" ∈ pausedStill.engine.suspendedRules := by
  have hrun : Run paused waitedStill pausedStill :=
    .cons .delay (.cons .alarm .nil)
  have hquiet : ∀ m ∈ waitedStill, ∀ command, m.happening ≠ .handling command := by
    simp [waitedStill]
  have hmoves : Undisturbed "home" waitedStill :=
    ⟨fun m hm command hhandled => absurd hhandled (hquiet m hm command),
      fun m hm url hhandled => absurd hhandled (hquiet m hm _)⟩
  have hsole : paused.Sole "home" asked.engine.nextTicket := by
    constructor
    · exact List.not_mem_nil
    · exact fun w hw => absurd hw List.not_mem_nil
    · intro t ht _
      rw [paused_timers] at ht
      rw [List.mem_singleton.mp ht]
      rfl
  have hrunning : ∀ m ∈ waitedStill, ∀ t, m.happening = .expiry t → t.rule = "home" →
      t.ticket ≠ asked.engine.nextTicket := by
    simp [waitedStill]
  rcases suspended_since_grant reachable_asked asked_granted asked_grants hrun hmoves with
    ⟨htimer, _, hlasts⟩
  exact ⟨reachable_asked, asked_grants, asked_granted, hrun, hmoves, htimer,
    hlasts hsole hrunning⟩

/--
The grace has just run out when a client asks for another one: its command is in
the queue, and behind it stands the one that the first timer has sent.
-/
def askedAgain : Actor :=
  ({ paused with clock := 60000 }.send ⟨.suspend "home" "http://[::1]/", none⟩).expire
    ⟨"home", 0, 60000⟩

def pausedAgain : Actor :=
  (askedAgain.handle ⟨"", []⟩).2

def cutShort : Actor :=
  (pausedAgain.handle ⟨"", []⟩).2

theorem reachable_askedAgain : Reachable askedAgain := by
  have hwaited : Reachable { paused with clock := 60000 } :=
    reachable_paused.delayed (Nat.zero_le _)
  have hsent := hwaited.send (c := .suspend "home" "http://[::1]/")
    fun _ hcommand => nomatch hcommand
  refine hsent.expire ?_ (Nat.le_refl _)
  show _ ∈ paused.timers
  rw [paused_timers]
  exact List.mem_singleton_self _

theorem pausedAgain_cut_short :
    Reachable askedAgain ∧ askedAgain.engine.Grants "home" "http://[::1]/" ∧
      Step askedAgain (.handling (.suspend "home" "http://[::1]/")) pausedAgain ∧
      Run pausedAgain [⟨pausedAgain, .handling (.resume "home")⟩] cutShort ∧
      pausedAgain.engine.suspendedRules = ["home"] ∧
      cutShort.clock = 60000 ∧ cutShort.timers = [⟨"home", 1, 120000⟩] ∧
      cutShort.engine.suspendedRules = [] := by
  have hgranted : Step askedAgain (.handling (.suspend "home" "http://[::1]/")) pausedAgain :=
    @step_handle askedAgain _ [.resume "home"] ⟨"", []⟩ rfl rfl
  have hended : Step pausedAgain (.handling (.resume "home")) cutShort :=
    @step_handle pausedAgain _ [] ⟨"", []⟩ rfl rfl
  exact ⟨reachable_askedAgain, ⟨_, rfl⟩, hgranted, .cons hended .nil, rfl, rfl, rfl, rfl⟩

end Actor
end SiteGuard
