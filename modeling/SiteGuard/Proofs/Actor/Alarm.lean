import SiteGuard.Proofs.Actor.Step
import SiteGuard.Proofs.Calendar.Minute
import SiteGuard.Proofs.Engine.Saving

/-!
# The alarm of the next minute

Whatever becomes of a pass, the alarm is set again for the next minute, or a little later
where that is near.  So the next pass falls into the very next minute, and as long
as the alarm goes off when it is due, there is a pass in every minute of the clock.
-/

namespace SiteGuard

open Calendar

/-! ## Commands that pass -/

namespace Engine

variable {e before : Engine} {edit : Edit} {o : Occasion} {c : Command} {reason : String}

/-- The engine with the changes of an edit, as far as they could be stored. -/
inductive Edited (e : Engine) (edit : Edit) : Engine → Prop where
  | unsaved (hnone : edit.saved = none) : Edited e edit (e.withSuspended edit.suspended)
  | saved {s : Settings} {stored : Engine} (hsome : edit.saved = some s)
      (hstored : e.saved s = .ok stored) : Edited e edit (stored.withSuspended edit.suspended)

/-- A command comes to a pass: on which engine, and for which reason. -/
inductive PassOf (e : Engine) (o : Occasion) (c : Command) : Engine → String → Prop where
  | asked {reason : String} (hdecide : c.decide o e = .ok (.pass reason)) : PassOf e o c e reason
  | edited {edit : Edit} {before : Engine} {reason : String}
      (hdecide : c.decide o e = .ok (.edit edit)) (hedited : e.Edited edit before)
      (hreason : edit.reason = some reason) : PassOf e o c before reason

theorem Edited.apply (h : e.Edited edit before) (now : Moment) :
    e.apply now edit = before.passFor now edit.reason edit.reply := by
  cases h with
  | unsaved hnone =>
      unfold Engine.apply
      simp only [hnone]
  | saved hsome hstored =>
      exact apply_of_saved hsome hstored now

theorem edited_of_passed {now : Moment} (h : (e.apply now edit).passed = true) :
    ∃ before reason, e.Edited edit before ∧ edit.reason = some reason := by
  have hedited : ∃ before, e.Edited edit before := by
    cases hsaved : edit.saved with
    | none =>
        exact ⟨_, .unsaved hsaved⟩
    | some s =>
        cases hstored : e.saved s with
        | ok stored =>
            exact ⟨_, .saved hsaved hstored⟩
        | error f =>
            rw [apply_of_unsaved hsaved hstored] at h
            cases h
  rcases hedited with ⟨before, hedited⟩
  rw [hedited.apply] at h
  cases hreason : edit.reason with
  | none =>
      rw [hreason] at h
      cases h
  | some reason =>
      exact ⟨before, reason, hedited, rfl⟩

/-- The command leaves what the pass has made of the engine, and fails just if that fails. -/
theorem PassOf.run (h : e.PassOf o c before reason) :
    ∃ reply, e.run o c = before.passThen o.now reason reply := by
  cases h with
  | asked hdecide =>
      exact ⟨.report, Engine.run_of_decided hdecide⟩
  | @edited edit _ _ hdecide hedited hreason =>
      have hrun : e.run o c = e.apply o.now edit := Engine.run_of_decided hdecide
      rw [hrun, hedited.apply, hreason]
      exact ⟨_, rfl⟩

theorem run_passed_iff :
    (e.run o c).passed = true ↔ ∃ before reason, e.PassOf o c before reason := by
  constructor
  · intro hpassed
    cases hdecide : c.decide o e with
    | error f =>
        rw [Engine.run_of_refused hdecide] at hpassed
        cases hpassed
    | ok decision =>
        rw [Engine.run_of_decided hdecide] at hpassed
        cases decision with
        | answer r =>
            cases hpassed
        | pass reason =>
            exact ⟨e, reason, .asked hdecide⟩
        | edit edit =>
            rcases edited_of_passed hpassed with ⟨before, reason, hedited, hreason⟩
            exact ⟨before, reason, .edited hdecide hedited hreason⟩
  · intro h
    rcases h with ⟨before, reason, hpass⟩
    rcases hpass.run with ⟨reply, hrun⟩
    rw [hrun]
    rfl

end Engine

namespace Actor

variable {a b c : Actor} {m : Moment} {result : Except Failure Engine.Report}
  {happening : Happening} {passes : List Moment}

/-! ## Passes of an actor -/

/-- A step with a pass, and what the pass came to: that of the alarm, or that of a command. -/
inductive PassStep : Actor → Except Failure Engine.Report → Actor → Prop where
  | alarm (a : Actor) : PassStep a (a.engine.pass a.now "alarm").1 a.ring
  | command {a : Actor} {c : Command} {rest : List Command} {before : Engine} {reason : String}
      (fresh : Fresh) (hqueue : a.queue = c :: rest)
      (hpass : a.engine.PassOf ⟨a.now, fresh.ruleId, fresh.salt⟩ c before reason) :
      PassStep a (before.pass a.now reason).1
        ({ a with queue := rest }.adopt c (a.engine.run ⟨a.now, fresh.ruleId, fresh.salt⟩ c))

/-- An actor right after a pass: at which moment it was, and what it came to. -/
inductive JustPassed : Moment → Except Failure Engine.Report → Actor → Prop where
  | startup (engine : Engine) (origin : Moment) (capacity : Nat) :
      JustPassed origin (engine.pass origin "startup").1 (spawn engine origin capacity)
  | later {a b : Actor} {result : Except Failure Engine.Report} (hpass : PassStep a result b) :
      JustPassed a.now result b

theorem PassStep.step (h : PassStep a result b) : ∃ happening, Step a happening b := by
  cases h with
  | alarm =>
      exact ⟨_, .alarm⟩
  | command fresh hqueue hpass =>
      exact ⟨_, .handling fresh hqueue⟩

/-! ## The alarm -/

theorem adopt_origin (a : Actor) (c : Command) (o : Outcome) :
    (a.adopt c o).origin = a.origin := by
  unfold adopt
  dsimp only
  split
  · rfl
  · rfl

theorem adopt_alarm (a : Actor) (c : Command) (o : Outcome) :
    (a.adopt c o).alarm =
      if o.passed then a.clock + roundUp (passDelay a.now) else a.alarm := by
  unfold adopt
  dsimp only
  split
  · rfl
  · rfl

theorem step_origin (h : Step a happening b) : b.origin = a.origin := by
  cases h with
  | handling fresh hqueue =>
      exact adopt_origin _ _ _
  | _ =>
      rfl

theorem step_clock_le (h : Step a happening b) : a.clock ≤ b.clock := by
  cases h with
  | handling fresh hqueue =>
      rw [adopt_clock]
  | delay =>
      exact Nat.le_add_right _ _
  | _ =>
      exact Nat.le_refl _

theorem step_alarm (h : Step a happening b) :
    (∃ result, PassStep a result b) ∨ b.alarm = a.alarm := by
  cases h with
  | @handling command rest fresh hqueue =>
      cases hpassed :
          (a.engine.run ⟨a.now, fresh.ruleId, fresh.salt⟩ command).passed with
      | true =>
          rcases Engine.run_passed_iff.mp hpassed with ⟨before, reason, hpass⟩
          exact Or.inl ⟨_, .command fresh hqueue hpass⟩
      | false =>
          refine Or.inr ?_
          rw [adopt_alarm, hpassed]
          rfl
  | alarm =>
      exact Or.inl ⟨_, .alarm a⟩
  | _ =>
      exact Or.inr rfl

/-- The alarm has been set at a time of the clock, in view of the moment then. -/
structure SetAt (a : Actor) (clock : Nat) (m : Moment) : Prop where
  moment : a.momentAt clock = m
  alarm : a.alarm = clock + roundUp (passDelay m)

theorem momentAt_eq_of_origin (h : b.origin = a.origin) (clock : Nat) :
    b.momentAt clock = a.momentAt clock := by
  unfold momentAt
  rw [h]

theorem armed_origin (a : Actor) : a.armed.origin = a.origin := by
  cases a
  rfl

theorem armed_setAt (a : Actor) : a.armed.SetAt a.clock a.now :=
  ⟨momentAt_eq_of_origin a.armed_origin a.clock, rfl⟩

theorem PassStep.clock_eq (h : PassStep a result b) : b.clock = a.clock := by
  cases h with
  | alarm =>
      rfl
  | command fresh hqueue hpass =>
      rw [adopt_clock]

theorem PassStep.setAt (h : PassStep a result b) : b.SetAt b.clock a.now := by
  rw [h.clock_eq]
  cases h with
  | alarm =>
      exact armed_setAt { a with engine := (a.engine.pass a.now "alarm").2 }
  | command fresh hqueue hpass =>
      have hpassed := Engine.run_passed_iff.mpr ⟨_, _, hpass⟩
      constructor
      · exact momentAt_eq_of_origin (adopt_origin _ _ _) _
      · rw [adopt_alarm, hpassed]
        rfl

theorem JustPassed.setAt (h : JustPassed m result b) : b.SetAt b.clock m := by
  cases h with
  | startup engine _ capacity =>
      have hset := armed_setAt
        ⟨(engine.pass m "startup").2, m, 0, [], max capacity 1, [], [], 0⟩
      have hnow : now ⟨(engine.pass m "startup").2, m, 0, [], max capacity 1, [], [], 0⟩ = m := by
        unfold now momentAt
        rw [Nat.zero_mul, Instant.after?_zero]
        rfl
      rw [hnow] at hset
      exact hset
  | later hpass =>
      exact hpass.setAt

/-! ## When the alarm goes off -/

/-- The clock of an actor shows a moment at a time: that is not past the last year. -/
structure ShowsAt (a : Actor) (clock : Nat) (m : Moment) : Prop where
  instant : a.origin.instant.after? (clock * 1000000) = some m.instant
  offset : m.offset = a.origin.offset

theorem ShowsAt.momentAt_eq {clock : Nat} (h : a.ShowsAt clock m) : a.momentAt clock = m := by
  rcases m with ⟨instant, offset⟩
  obtain rfl : offset = a.origin.offset := h.offset
  unfold momentAt
  rw [h.instant]
  rfl

theorem passDelay_eq (h : m.HasNext) (hleap : ¬m.instant.InLeapSecond) :
    (passDelay m : Int) =
      max (m.nextMinute.instant.elapsed - m.instant.elapsed) leastDelay := by
  rw [Moment.elapsed_nextMinute h hleap]
  unfold passDelay
  omega

/--
A pass is put off by the least delay if a minute is about to begin.  That delay is a number
of milliseconds, so that rounding does not make it longer.
-/
theorem roundUp_passDelay (hpositive : 0 < m.untilNextMinute) :
    passDelay m ≤ roundUp (passDelay m) * 1000000 ∧
      roundUp (passDelay m) * 1000000 < m.untilNextMinute + leastDelay := by
  by_cases hnear : m.untilNextMinute ≤ leastDelay
  · have hdelay : passDelay m = leastDelay := Nat.max_eq_right hnear
    have hexact : roundUp leastDelay * 1000000 = leastDelay := by decide
    rw [hdelay, hexact]
    omega
  · have hdelay : passDelay m = m.untilNextMinute :=
      Nat.max_eq_left (Nat.le_of_not_le hnear)
    rw [hdelay]
    unfold roundUp leastDelay
    omega

/-- What is put off to the next minute, and by less than the least delay, falls into it. -/
theorem minute_of_put_off {rings : Moment} {delay : Nat} (h : m.HasNext)
    (hdelay : delay = roundUp (passDelay m) * 1000000)
    (hjust : rings.JustAfter m.nextMinute leastDelay)
    (helapsed : rings.instant.elapsed = m.instant.elapsed + delay) :
    rings.minute = m.minute + 1 := by
  by_cases hstart : m.HasStart
  · rw [hjust.minute_eq (Moment.nextMinute_nextWhole h hstart).whole (by decide),
      Moment.minute_nextMinute h]
  · have hexact : roundUp (max Instant.minuteNanos leastDelay) * 1000000 = Instant.minuteNanos := by
      decide
    refine Moment.minute_of_elapsed hjust.offset ?_
    rw [helapsed, hdelay]
    unfold passDelay
    rw [Moment.untilNextMinute_of_not_hasStart h hstart, hexact]

theorem SetAt.rings {clock : Nat} (h : a.SetAt clock m) (hshows : a.ShowsAt clock m)
    (hleap : ¬m.instant.InLeapSecond) (hlast : m.instant.second + 120 ≤ Instant.lastSecond) :
    ∃ due rings : Moment, m.instant.after? (passDelay m) = some due.instant ∧
      due.JustAfter m.nextMinute leastDelay ∧ a.ShowsAt a.alarm rings ∧
      rings.JustAfter m.nextMinute leastDelay ∧ rings.minute = m.minute + 1 := by
  have hnext : m.HasNext := Moment.hasNext_of_le hlast
  rcases Moment.untilNextMinute_mem hnext hleap with ⟨hpositive, hminute⟩
  rcases roundUp_passDelay hpositive with ⟨hleast, hmost⟩
  have huntil : m.untilNextMinute ≤ passDelay m := Nat.le_max_left _ _
  have hclock : a.alarm * 1000000 = clock * 1000000 + roundUp (passDelay m) * 1000000 := by
    rw [h.alarm, Nat.add_mul]
  have hreached : ∀ delay : Nat, delay < m.untilNextMinute + leastDelay →
      ∃ i, m.instant.after? delay = some i ∧ i.elapsed = m.instant.elapsed + delay := by
    intro delay hdelay
    have hsecond := m.instant.second_eq
    have hlength : Instant.minuteNanos + leastDelay = 61200000000 := rfl
    rcases Instant.exists_after? delay hleap (by omega) with ⟨i, hi, _, helapsed⟩
    exact ⟨i, hi, helapsed⟩
  rcases hreached _ (Nat.lt_of_le_of_lt hleast hmost) with ⟨due, hdue, _⟩
  rcases hreached _ hmost with ⟨rings, hrings, helapsed⟩
  have hdueJust := Moment.justAfter_nextMinute hnext hleap hdue huntil
    (Nat.lt_of_le_of_lt hleast hmost)
  have hringsJust := Moment.justAfter_nextMinute hnext hleap hrings
    (Nat.le_trans huntil hleast) hmost
  refine ⟨⟨due, m.offset⟩, ⟨rings, m.offset⟩, hdue, hdueJust, ⟨?_, hshows.offset⟩, hringsJust,
    minute_of_put_off hnext rfl hringsJust helapsed⟩
  rw [hclock, Instant.after?_add hshows.instant hleap]
  exact hrings

/-! ## Runs -/

/--
A run in which the alarm goes off when it is due: time does not go on beyond it.  The
moments of the passes are listed.
-/
inductive Punctual : Actor → List Moment → Actor → Prop where
  | nil {a : Actor} : Punctual a [] a
  | pass {a b c : Actor} {result : Except Failure Engine.Report} {passes : List Moment}
      (hpass : PassStep a result b) (hrest : Punctual b passes c) :
      Punctual a (a.now :: passes) c
  | other {a b c : Actor} {happening : Happening} {passes : List Moment}
      (hstep : Step a happening b) (hquiet : ∀ result, ¬PassStep a result b)
      (hdue : b.clock ≤ b.alarm) (hrest : Punctual b passes c) : Punctual a passes c

theorem PassStep.origin_eq (h : PassStep a result b) : b.origin = a.origin := by
  rcases h.step with ⟨happening, hstep⟩
  exact step_origin hstep

theorem Punctual.origin_eq (h : Punctual a passes c) : c.origin = a.origin := by
  induction h with
  | nil =>
      rfl
  | pass hpass _ ih =>
      rw [ih, hpass.origin_eq]
  | other hstep _ _ _ ih =>
      rw [ih, step_origin hstep]

theorem Punctual.clock_le (h : Punctual a passes c) : a.clock ≤ c.clock := by
  induction h with
  | nil =>
      exact Nat.le_refl _
  | pass hpass _ ih =>
      rw [hpass.clock_eq] at ih
      exact ih
  | other hstep _ _ _ ih =>
      exact Nat.le_trans (step_clock_le hstep) ih

theorem Punctual.alarm_eq (h : Punctual a passes c) (hnone : passes = []) :
    c.alarm = a.alarm := by
  induction h with
  | nil =>
      rfl
  | pass =>
      cases hnone
  | other hstep hquiet _ _ ih =>
      rw [ih hnone]
      rcases step_alarm hstep with ⟨result, hpass⟩ | halarm
      · exact absurd hpass (hquiet result)
      · exact halarm

theorem ShowsAt.of_origin {clock : Nat} (h : a.ShowsAt clock m) (horigin : b.origin = a.origin) :
    b.ShowsAt clock m := by
  constructor
  · rw [horigin]
    exact h.instant
  · rw [horigin]
    exact h.offset

/-! ## The next pass -/

/--
The next minute is the first whole one after a moment; only where the minute of the moment
begins before the first year, it is one minute after the moment.  After a pass at that
moment, be it one that has failed, the alarm is set for the next minute, or at least for
1.2 seconds later than the pass; and where nothing else comes to a pass before, the alarm
goes off in the very next minute of the clock.
-/
theorem alarm_in_next_minute (hleap : ¬m.instant.InLeapSecond)
    (hlast : m.instant.second + 120 ≤ Instant.lastSecond) :
    (m.HasStart → m.NextWhole m.nextMinute) ∧
      (¬m.HasStart → m.instant.second < Instant.firstSecond + 60 ∧ m.offset % 60 ≠ 0 ∧
        m.instant.after? Instant.minuteNanos = some m.nextMinute.instant) ∧
      (passDelay m : Int) =
        max (m.nextMinute.instant.elapsed - m.instant.elapsed) 1200000000 ∧
      ∀ result b, JustPassed m result b → b.ShowsAt b.clock m →
        b.alarm = b.clock + roundUp (passDelay m) ∧
          ∃ due rings : Moment, m.instant.after? (passDelay m) = some due.instant ∧
            due.JustAfter m.nextMinute 1200000000 ∧ b.ShowsAt b.alarm rings ∧
            rings.JustAfter m.nextMinute 1200000000 ∧ rings.minute = m.minute + 1 ∧
            ∀ c, Punctual b [] c → c.clock = c.alarm → c.now = rings := by
  have hnext : m.HasNext := Moment.hasNext_of_le hlast
  refine ⟨Moment.nextMinute_nextWhole hnext, ?_, passDelay_eq hnext hleap, ?_⟩
  · intro hstart
    refine ⟨?_, fun hoffset => hstart (Moment.hasStart_of_offset hoffset),
      Moment.after?_minuteNanos hnext hstart⟩
    exact Int.not_le.mp fun hlate => hstart (Moment.hasStart_of_le hlate)
  · intro result b hpassed hshows
    refine ⟨hpassed.setAt.alarm, ?_⟩
    rcases hpassed.setAt.rings hshows hleap hlast with
      ⟨due, rings, hdue, hdueJust, hrings, hjust, hminute⟩
    refine ⟨due, rings, hdue, hdueJust, hrings, hjust, hminute, ?_⟩
    intro c hrun hclock
    have hsame := hrings.of_origin hrun.origin_eq
    rw [← hrun.alarm_eq rfl, ← hclock] at hsame
    exact hsame.momentAt_eq

/-- Ten seconds and a half after the beginning of time, on a clock half a minute ahead. -/
def firstMoments : Moment :=
  ⟨⟨Instant.firstSecond + 10, 500000000, by decide⟩, 30⟩

/-- The first minute of time is cut short, so its end is no whole minute off. -/
theorem nextMinute_firstMoments :
    ¬firstMoments.instant.InLeapSecond ∧
      firstMoments.instant.second + 120 ≤ Instant.lastSecond ∧
      firstMoments.NextWhole ⟨⟨Instant.firstSecond + 30, 0, by decide⟩, 30⟩ ∧
      ¬firstMoments.nextMinute.IsWhole ∧ ¬firstMoments.NextWhole firstMoments.nextMinute := by
  have hnotWhole : ¬firstMoments.nextMinute.IsWhole := by decide
  refine ⟨by decide, by decide, ⟨rfl, by decide, by decide, ?_⟩, hnotWhole,
    fun hnext => hnotWhole hnext.whole⟩
  intro other hclock hwhole hlater hsooner
  rw [Moment.isWhole_iff] at hwhole
  rw [Instant.lt_iff] at hlater hsooner
  have hbegins : Instant.firstSecond % 60 = 0 := by decide
  have hoffset : other.offset = 30 := hclock
  unfold Moment.localSecond at hwhole
  unfold firstMoments at hlater
  dsimp only at hlater hsooner
  omega

/-! ## Every minute -/

section Minutes

variable {clock later : Nat} {n last : Moment}

/-- What the clock has shown before, as long as it did not begin in a leap second. -/
theorem ShowsAt.before (h : a.ShowsAt later n) (hclock : clock ≤ later)
    (horigin : ¬a.origin.instant.InLeapSecond) :
    ∃ m, a.ShowsAt clock m ∧ ¬m.instant.InLeapSecond ∧
      m.instant.elapsed ≤ n.instant.elapsed ∧ m.minute ≤ n.minute := by
  have hsplit : later * 1000000 = clock * 1000000 + (later - clock) * 1000000 := by
    omega
  have hafter := h.instant
  rw [hsplit] at hafter
  rcases Instant.exists_after?_of_le horigin hafter with ⟨i, hi, hordinary, hrest⟩
  have helapsed := Instant.elapsed_of_after? hrest
    (Instant.not_inLeapSecond_of_after? horigin h.instant)
  have hnotLater : i.elapsed ≤ n.instant.elapsed := by
    omega
  refine ⟨⟨i, a.origin.offset⟩, ⟨hi, rfl⟩, hordinary, hnotLater, ?_⟩
  exact Moment.minute_mono h.offset hnotLater

theorem SetAt.minute_le (h : a.SetAt clock m) (hset : clock ≤ a.clock) (hdue : a.clock ≤ a.alarm)
    (horigin : ¬a.origin.instant.InLeapSecond) (hnow : a.ShowsAt a.clock n)
    (hlast : n.instant.second + 120 ≤ Instant.lastSecond) : n.minute ≤ m.minute + 1 := by
  rcases hnow.before hset horigin with ⟨m', hshows, hordinary, hbefore, _⟩
  obtain rfl : m' = m := by
    rw [← hshows.momentAt_eq, h.moment]
  have hroom : m'.instant.second + 120 ≤ Instant.lastSecond := by
    rw [Instant.second_eq] at hlast ⊢
    omega
  rcases h.rings hshows hordinary hroom with ⟨_, rings, _, _, hrings, _, hminute⟩
  rcases hrings.before hdue horigin with ⟨n', hshows', _, _, hle⟩
  obtain rfl : n' = n := by
    rw [← hshows'.momentAt_eq, hnow.momentAt_eq]
  rw [← hminute]
  exact hle

/-- The minutes since the alarm was last set: in each there is a pass, or it is the first one. -/
theorem Punctual.minute_passed (hrun : Punctual a passes c) (h : a.SetAt clock m)
    (hset : clock ≤ a.clock) (hdue : a.clock ≤ a.alarm)
    (horigin : ¬a.origin.instant.InLeapSecond) (hlast : c.ShowsAt c.clock last)
    (hend : last.instant.second + 120 ≤ Instant.lastSecond) {minute : Int}
    (hfrom : m.minute ≤ minute) (hto : minute < last.minute) :
    ∃ p ∈ m :: passes, p.minute = minute := by
  induction hrun generalizing clock m with
  | nil =>
      have hnext := h.minute_le hset hdue horigin hlast hend
      exact ⟨m, List.mem_cons_self, by omega⟩
  | @pass a b c result passes hpass hrest ih =>
      have hclock : a.clock ≤ c.clock := hpass.clock_eq ▸ hrest.clock_le
      have hclocks := hlast.of_origin (hpass.origin_eq.symm.trans hrest.origin_eq.symm)
      rcases hclocks.before hclock horigin with ⟨n, hshows, _, hbefore, _⟩
      have hroom : n.instant.second + 120 ≤ Instant.lastSecond := by
        rw [Instant.second_eq] at hend ⊢
        omega
      have hnext := h.minute_le hset hdue horigin hshows hroom
      have hnow : a.now = n := hshows.momentAt_eq
      by_cases hearlier : minute < n.minute
      · exact ⟨m, List.mem_cons_self, by omega⟩
      · have halarm : b.clock ≤ b.alarm := by
          rw [hpass.setAt.alarm]
          exact Nat.le_add_right _ _
        have hreached : a.now.minute ≤ minute := by
          rw [hnow]
          omega
        rcases ih hpass.setAt (Nat.le_refl _) halarm (hpass.origin_eq ▸ horigin) hlast hreached with
          ⟨p, hp, hminute⟩
        exact ⟨p, List.mem_cons_of_mem _ hp, hminute⟩
  | @other a b c happening passes hstep hquiet hprompt hrest ih =>
      have horigins := step_origin hstep
      have hkept : b.SetAt clock m := by
        constructor
        · rw [momentAt_eq_of_origin horigins, h.moment]
        · rcases step_alarm hstep with ⟨result, hpass⟩ | halarm
          · exact absurd hpass (hquiet result)
          · rw [halarm, h.alarm]
      exact ih hkept (Nat.le_trans hset (step_clock_le hstep)) hprompt (horigins ▸ horigin) hlast
        hfrom

/-- No minute is skipped: from one pass on there is another one in every minute that is over. -/
theorem every_minute_has_pass (hpassed : JustPassed m result a) (hrun : Punctual a passes c)
    (horigin : ¬a.origin.instant.InLeapSecond) (hlast : c.ShowsAt c.clock last)
    (hend : last.instant.second + 120 ≤ Instant.lastSecond) {minute : Int}
    (hfrom : m.minute ≤ minute) (hto : minute < last.minute) :
    ∃ p ∈ m :: passes, p.minute = minute := by
  have halarm : a.clock ≤ a.alarm := by
    rw [hpassed.setAt.alarm]
    exact Nat.le_add_right _ _
  exact hrun.minute_passed hpassed.setAt (Nat.le_refl _) halarm horigin hlast hend hfrom hto

end Minutes

/-! ## A sample -/

def unreadable : Engine :=
  { Engine.finding Engine.oneHost with outage := ⟨true, false, false⟩ }

/-- A tenth of a second before the year 2000, well before midnight by universal time. -/
def lastTenth : Moment :=
  ⟨⟨946664099, 900000000, by decide⟩, 20700⟩

def newYear : Actor :=
  spawn unreadable lastTenth 1

def newYearAlarm : Moment :=
  ⟨⟨946664101, 100000000, by decide⟩, 20700⟩

theorem newYear_justPassed :
    JustPassed lastTenth (.error (.interception .quotaExceeded)) newYear := by
  have hfails : (unreadable.pass lastTenth "startup").1 =
      .error (.interception .quotaExceeded) := rfl
  rw [← hfails]
  exact .startup unreadable lastTenth 1

theorem newYear_alarm_in_first_minute :
    ¬lastTenth.instant.InLeapSecond ∧ lastTenth.instant.second + 120 ≤ Instant.lastSecond ∧
      JustPassed lastTenth (.error (.interception .quotaExceeded)) newYear ∧
      newYear.ShowsAt newYear.clock lastTenth ∧ newYear.alarm = 1200 ∧
      Punctual newYear [] { newYear with clock := 1200 } ∧
      Actor.now { newYear with clock := 1200 } = newYearAlarm ∧
      newYearAlarm.minute = lastTenth.minute + 1 := by
  have hleap : ¬lastTenth.instant.InLeapSecond := by decide
  have hlast : lastTenth.instant.second + 120 ≤ Instant.lastSecond := by decide
  have hclock : newYear.clock = 0 := rfl
  have horigin : newYear.origin = lastTenth := rfl
  have hshows : newYear.ShowsAt newYear.clock lastTenth := by
    constructor
    · rw [hclock, horigin]
      exact lastTenth.instant.after?_zero
    · rw [horigin]
  rcases alarm_in_next_minute hleap hlast with ⟨_, _, _, hpasses⟩
  rcases hpasses _ _ newYear_justPassed hshows with
    ⟨halarm, _, rings, _, _, hrings, _, hminute, hrung⟩
  have hdelay : roundUp (passDelay lastTenth) = 1200 := by decide
  rw [hclock, hdelay] at halarm
  have hwaited : Punctual newYear [] { newYear with clock := 1200 } := by
    refine .other (@Step.delay newYear 1200) ?_ ?_ .nil
    · intro result hpass
      cases hpass.clock_eq
    · exact Nat.le_of_eq halarm.symm
  have hnow := hrung _ hwaited halarm.symm
  have hshown : newYear.ShowsAt 1200 newYearAlarm := by
    constructor
    · rw [horigin]
      decide
    · rw [horigin]
      rfl
  have hsame : rings = newYearAlarm := by
    rw [halarm] at hrings
    rw [← hrings.momentAt_eq, hshown.momentAt_eq]
  rw [hsame] at hnow hminute
  exact ⟨hleap, hlast, newYear_justPassed, hshows, halarm, hwaited, hnow, hminute⟩

end Actor
end SiteGuard
