import SiteGuard.Proofs.Engine.Gate
import SiteGuard.Proofs.Settings.Pin

/-!
# The PIN of the owner

A PIN that has been stored is the one that passes, until another one is stored.
No other command changes the record, and no record is ever there in part.
-/

namespace SiteGuard

open Text

/-! ## Commands -/

theorem Command.Saves.pin {o : Occasion} {e : Engine} {c : Command} {s : Settings} {reply : Reply}
    (h : c.Saves o e s reply) (hc : ∀ pin current, c ≠ .changePin pin current) :
    s.pin = e.settings.pin := by
  cases h with
  | patched _ hmerge hnormal _ =>
      exact (Settings.pin_of_normalized hnormal).trans (Settings.pin_of_merge (by decide) hmerge)
  | pinned =>
      exact absurd rfl (hc _ _)
  | imported _ hnormal _ =>
      rw [Settings.pin_of_normalized hnormal]
      rfl
  | switched =>
      rfl
  | added =>
      rfl
  | removed =>
      rfl
  | edited =>
      rfl
  | granted =>
      rfl
  | blocked =>
      rfl

namespace Engine

variable {e : Engine}

/-- A PIN may be set and is stored, whatever comes of the pass that follows. -/
structure StoresPin (e : Engine) (o : Occasion) (pin : String) (current : Option String) :
    Prop where
  not_blank : isBlankString pin = false
  allowed : e.settings.checkPin current = .ok ()
  stored : ∃ e', e.saved { e.settings with pin := PinRecord.ofPin pin o.freshSalt } = .ok e'

theorem decidePin_of_allowed {o : Occasion} {pin : String} {current : Option String}
    (hpin : isBlankString pin = false) (hcurrent : e.settings.checkPin current = .ok ()) :
    Command.decidePin o e pin current =
      .ok (Command.commit { e.settings with pin := PinRecord.ofPin pin o.freshSalt } e.suspended
        "setPin" .done) := by
  unfold Command.decidePin
  simp only [hpin, hcurrent, Bool.false_eq_true, if_false]
  rfl

theorem StoresPin.run {o : Occasion} {pin : String} {current : Option String}
    (h : e.StoresPin o pin current) :
    (e.run o (.changePin pin current)).engine.settings.pin = PinRecord.ofPin pin o.freshSalt := by
  rcases h.stored with ⟨e', hsaved⟩
  rw [Engine.run_eq]
  unfold Engine.settle
  simp only [Command.decide, decidePin_of_allowed h.not_blank h.allowed, carryOut, Command.commit]
  rw [apply_of_saved rfl hsaved o.now]
  have hstores := passFor_stores (e'.withSuspended e.suspended) o.now (some "setPin") .done
  have hpin := hstores.sameLock.pin
  rw [hpin]
  show e'.settings.pin = _
  rw [(saved_eq_ok hsaved).2]

theorem pin_of_not_stores {o : Occasion} {pin : String} {current : Option String}
    (h : ¬ e.StoresPin o pin current) :
    (e.run o (.changePin pin current)).engine.settings.pin = e.settings.pin := by
  cases hdecide : Command.decide o e (.changePin pin current) with
  | error f =>
      rw [Engine.run_of_refused hdecide]
  | ok decision =>
      rw [Engine.run_of_decided hdecide]
      rcases Command.decidePin_eq_ok hdecide with ⟨hpin, hcurrent, rfl⟩
      cases hsaved : e.saved { e.settings with pin := PinRecord.ofPin pin o.freshSalt } with
      | error f =>
          show (e.apply o.now _).engine.settings.pin = _
          rw [apply_of_unsaved rfl hsaved]
          rfl
      | ok e' =>
          exact absurd ⟨hpin, hcurrent, e', hsaved⟩ h

theorem run_pin (e : Engine) (o : Occasion) (c : Command) :
    (e.run o c).engine.settings.pin = e.settings.pin ∨
      ∃ pin current, c = .changePin pin current ∧ e.StoresPin o pin current ∧
        (e.run o c).engine.settings.pin = PinRecord.ofPin pin o.freshSalt := by
  by_cases hc : ∃ pin current, c = .changePin pin current
  · rcases hc with ⟨pin, current, rfl⟩
    by_cases hstores : e.StoresPin o pin current
    · exact Or.inr ⟨pin, current, rfl, hstores, hstores.run⟩
    · exact Or.inl (pin_of_not_stores hstores)
  · left
    rcases e.run_stores o c with ⟨s, rfl | ⟨reply, hsaves⟩, hstores⟩
    · exact hstores.sameLock.pin
    · rw [hstores.sameLock.pin]
      exact hsaves.pin fun pin current heq => hc ⟨pin, current, heq⟩

theorem storesPin_of_ok {o : Occasion} {pin : String} {current : Option String} {r : Reply}
    (hok : (e.run o (.changePin pin current)).result = .ok r) : e.StoresPin o pin current := by
  cases hdecide : Command.decide o e (.changePin pin current) with
  | error f =>
      rw [Engine.run_of_refused hdecide] at hok
      cases hok
  | ok decision =>
      rw [Engine.run_of_decided hdecide] at hok
      rcases Command.decidePin_eq_ok hdecide with ⟨hpin, hcurrent, rfl⟩
      cases hsaved : e.saved { e.settings with pin := PinRecord.ofPin pin o.freshSalt } with
      | error f =>
          have happly : (e.apply o.now ⟨some { e.settings with
              pin := PinRecord.ofPin pin o.freshSalt }, e.suspended, some "setPin",
              .done⟩).result = .ok r := hok
          rw [apply_of_unsaved rfl hsaved] at happly
          cases happly
      | ok e' =>
          exact ⟨hpin, hcurrent, e', hsaved⟩

/-! ## Histories -/

theorem afterAll_whole {events : List Event} (h : Untampered e events)
    (hstart : e.settings.pin.Whole) : (e.afterAll events).settings.pin.Whole := by
  apply h.invariant (I := fun e => e.settings.pin.Whole) hstart
  · intro before o c rest _ hbefore
    rcases (e.afterAll before).run_pin o c with hkept | ⟨pin, current, _, _, hset⟩
    · rw [hkept]
      exact hbefore
    · rw [hset]
      exact PinRecord.ofPin_whole pin o.freshSalt
  · intro e he
    rw [settings_restarted]
    exact he
  · intro e o he
    exact he
  · intro e store hload he
    show store.load.pin.Whole
    rw [hload]
    exact he

def KeepsPin (e : Engine) (events : List Event) : Prop :=
  ∀ before o pin current rest, events = before ++ .command o (.changePin pin current) :: rest →
    ¬ (e.afterAll before).StoresPin o pin current

theorem afterAll_pin {events : List Event} (h : Untampered e events) (hkeeps : e.KeepsPin events) :
    (e.afterAll events).settings.pin = e.settings.pin := by
  apply h.invariant (I := fun later => later.settings.pin = e.settings.pin) rfl
  · intro before o c rest hevents hbefore
    rcases (e.afterAll before).run_pin o c with hkept | ⟨pin, current, rfl, hstores, _⟩
    · exact hkept.trans hbefore
    · exact absurd hstores (hkeeps before o pin current rest hevents)
  · intro later hlater
    rw [settings_restarted]
    exact hlater
  · intro later o hlater
    exact hlater
  · intro later store hload hlater
    show store.load.pin = _
    rw [hload]
    exact hlater

/--
The owner is never locked out.  From a start without documents no history leaves a
record in part.  Once a PIN has been stored, which it has if the command did not
fail, then after any history in which no other one is stored it is accepted, it
authorizes changes, and the settings are shown to have a PIN.
-/
theorem owner_keeps_access {store : Store} {interstitial : Url} {graceSeconds : Nat}
    {events : List Event} (hprimary : store.primaryDocument? = none)
    (hfallback : store.fallbackDocument? = none)
    (h : Untampered (start store interstitial graceSeconds) events) :
    let e := (start store interstitial graceSeconds).afterAll events
    e.settings.pin.hash.isSome = e.settings.pin.salt.isSome ∧
      ∀ o pin current,
        ((∃ r, (e.run o (.changePin pin current)).result = .ok r) → e.StoresPin o pin current) ∧
        ∀ later, e.StoresPin o pin current →
          Untampered (e.run o (.changePin pin current)).engine later →
          (e.run o (.changePin pin current)).engine.KeepsPin later →
          let last := (e.run o (.changePin pin current)).engine.afterAll later
          last.settings.pin.hash.isSome = true ∧ last.settings.pin.salt.isSome = true ∧
            last.settings.pin.accepts pin = true ∧
            last.settings.authorize (some pin) = .ok () ∧
            ∀ o', (last.run o' .viewSettings).result =
              .ok (.settings ⟨{ last.settings with pin := PinRecord.none }, true⟩) := by
  intro e
  have hdefault : (start store interstitial graceSeconds).settings = Settings.default := by
    show store.load = _
    unfold Store.load
    rw [hprimary, hfallback]
    rfl
  have hwhole : e.settings.pin.Whole := by
    apply afterAll_whole h
    rw [hdefault]
    rfl
  refine ⟨hwhole, ?_⟩
  intro o pin current
  refine ⟨fun ⟨r, hok⟩ => storesPin_of_ok hok, ?_⟩
  intro later hstores hlater hkeeps last
  have hrecord : last.settings.pin = PinRecord.ofPin pin o.freshSalt :=
    (afterAll_pin hlater hkeeps).trans hstores.run
  have haccepts : last.settings.pin.accepts pin = true := by
    rw [hrecord]
    exact PinRecord.accepts_ofPin pin o.freshSalt
  refine ⟨?_, ?_, haccepts, Settings.authorize_of_accepts hstores.not_blank haccepts, ?_⟩
  · rw [hrecord, PinRecord.ofPin_eq]
    rfl
  · rw [hrecord]
    rfl
  · intro o'
    show Except.ok (Reply.settings last.settings.redacted) = _
    unfold Settings.redacted
    rw [hrecord, PinRecord.isSet_ofPin]

/-! ## A sample -/

def salted : Occasion :=
  ⟨dawn, "", List.replicate 16 200⟩

def unowned : Engine :=
  start Store.onDisk ⟨"http".toList, some ⟨[], none, some (.domain "blocked".toList), none⟩,
    .rooted [[]], none, none⟩ 60

def owned : Engine :=
  (unowned.run salted (.changePin "1234" none)).engine

/-- Someone starts the engine again, tries to patch the PIN away, and guesses at it. -/
def intrusions : List Event :=
  [.restart, .command salted (.patchSettings (.object [("pin", .null)]) none),
    .command salted (.changePin "0000" (some "4321"))]

theorem owned_stays_open :
    (owned.afterAll intrusions).settings.pin.accepts "1234" = true ∧
      (owned.afterAll intrusions).settings.authorize (some "1234") = .ok () := by
  have huntampered : Untampered owned intrusions :=
    .own .restart (.own .command (.own .command .nil))
  have hkeeps : owned.KeepsPin intrusions := by
    intro before o pin current rest hevents hstores
    rcases before with _ | ⟨first, _ | ⟨second, _ | ⟨third, before⟩⟩⟩
    · cases hevents
    · cases hevents
    · cases hevents
      have hrefused : ((owned.afterAll [.restart, .command salted
          (.patchSettings (.object [("pin", .null)]) none)]).settings.checkPin
            (some "4321")).isOk = false := by
        decide +kernel
      rw [hstores.allowed] at hrefused
      cases hrefused
    · simp [intrusions] at hevents
  have hok : (unowned.run salted (.changePin "1234" none)).result.isOk = true := by
    decide +kernel
  have hstart : Untampered unowned [] :=
    .nil
  rcases owner_keeps_access rfl rfl hstart with ⟨_, haccess⟩
  rcases haccess salted "1234" none with ⟨hstored, hlast⟩
  have hstores : unowned.StoresPin salted "1234" none :=
    hstored (eq_ok_of_isOk hok)
  rcases hlast intrusions hstores huntampered hkeeps with ⟨_, _, haccepts, hauthorize, _⟩
  exact ⟨haccepts, hauthorize⟩

end Engine
end SiteGuard
