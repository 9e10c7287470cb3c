import SiteGuard.Proofs.Engine.History
import SiteGuard.Proofs.Engine.NormalForm

/-!
# The PIN as a gate

As long as nobody offers the right PIN, the switches behind it and the PIN itself
stay as they are, whatever else happens to an engine.
-/

namespace SiteGuard

/-! ## Locks -/

namespace Settings

/-- Changes need the PIN, and there is one. -/
structure Locked (s : Settings) : Prop where
  required : s.requirePinForChanges = true
  set : s.pin.isSet = true

/-- The settings have the same PIN and the same switches behind it. -/
structure SameLock (s s' : Settings) : Prop where
  pin : s'.pin = s.pin
  required : s'.requirePinForChanges = s.requirePinForChanges
  allowlistMode : s'.allowlistMode = s.allowlistMode
  blockMode : s'.defaultBlockMode = s.defaultBlockMode
  minutes : s'.defaultOverrideMinutes = s.defaultOverrideMinutes

variable {s s' s'' : Settings}

theorem SameLock.refl (s : Settings) : s.SameLock s :=
  ⟨rfl, rfl, rfl, rfl, rfl⟩

theorem SameLock.trans (h : s.SameLock s') (h' : s'.SameLock s'') : s.SameLock s'' := by
  constructor
  · exact h'.pin.trans h.pin
  · exact h'.required.trans h.required
  · exact h'.allowlistMode.trans h.allowlistMode
  · exact h'.blockMode.trans h.blockMode
  · exact h'.minutes.trans h.minutes

theorem SameLock.locked (h : s.SameLock s') (hlocked : s.Locked) : s'.Locked := by
  constructor
  · exact h.required.trans hlocked.required
  · rw [h.pin]
    exact hlocked.set

/-! ## Candidates -/

theorem checkPin_error (hset : s.pin.isSet = true) {candidate : Option String}
    (hwrong : ∀ p, candidate = some p → s.pin.accepts p = false) :
    ∃ f, s.checkPin candidate = .error f ∧ (f = .pinRequired ∨ f = .invalidPin) := by
  unfold checkPin
  rw [hset, Bool.not_true, if_neg Bool.false_ne_true]
  cases hgiven : given? candidate with
  | none =>
      exact ⟨_, rfl, Or.inl rfl⟩
  | some p =>
      have hcandidate : candidate = some p := (Option.filter_eq_some_iff.mp hgiven).1
      simp only [hwrong p hcandidate, Bool.false_eq_true, if_false]
      exact ⟨_, rfl, Or.inr rfl⟩

theorem authorize_error (h : s.Locked) {candidate : Option String}
    (hwrong : ∀ p, candidate = some p → s.pin.accepts p = false) :
    ∃ f, s.authorize candidate = .error f ∧ (f = .pinRequired ∨ f = .invalidPin) := by
  unfold authorize
  rw [if_pos h.required]
  exact checkPin_error h.set hwrong

end Settings

/-! ## Commands -/

namespace Command

/-- The PIN that a command offers for the one that is set. -/
def offered? : Command → Option String
  | patchSettings _ pin => pin
  | changePin _ current => current
  | importPolicy _ pin => pin
  | _ => none

/-- The commands that are not carried out without the PIN. -/
inductive NeedsPin : Command → Prop where
  | patch {patch : Json} {pin : Option String} : NeedsPin (.patchSettings patch pin)
  | pin {pin : String} {current : Option String} : NeedsPin (.changePin pin current)
  | policy {policy : PolicyExport} {pin : Option String} : NeedsPin (.importPolicy policy pin)

variable {o : Occasion} {e : Engine} {c : Command}

theorem Saves.sameLock {s : Settings} {reply : Reply} (h : c.Saves o e s reply)
    (hlocked : e.settings.Locked)
    (hwrong : ∀ p, c.offered? = some p → e.settings.pin.accepts p = false) :
    e.settings.SameLock s := by
  cases h with
  | patched hauthorized _ _ _ =>
      rcases Settings.authorize_error hlocked hwrong with ⟨_, herror, _⟩
      cases hauthorized.symm.trans herror
  | pinned _ hcurrent =>
      rcases Settings.checkPin_error hlocked.set hwrong with ⟨_, herror, _⟩
      cases hcurrent.symm.trans herror
  | imported hauthorized _ _ =>
      rcases Settings.authorize_error hlocked hwrong with ⟨_, herror, _⟩
      cases hauthorized.symm.trans herror
  | switched =>
      exact ⟨rfl, rfl, rfl, rfl, rfl⟩
  | added =>
      exact ⟨rfl, rfl, rfl, rfl, rfl⟩
  | removed =>
      exact ⟨rfl, rfl, rfl, rfl, rfl⟩
  | edited =>
      exact ⟨rfl, rfl, rfl, rfl, rfl⟩
  | granted =>
      exact ⟨rfl, rfl, rfl, rfl, rfl⟩
  | blocked =>
      exact ⟨rfl, rfl, rfl, rfl, rfl⟩

theorem decide_needsPin (hc : c.NeedsPin) (hlocked : e.settings.Locked)
    (hwrong : ∀ p, c.offered? = some p → e.settings.pin.accepts p = false) (o : Occasion) :
    ∃ f, c.decide o e = .error f ∧
      (f = .pinRequired ∨ f = .invalidPin ∨ f = .invalidSettings .emptyPin) := by
  cases hc with
  | @patch patch pin =>
      rcases Settings.authorize_error hlocked hwrong with ⟨f, herror, hf⟩
      have hrefused : e.settings.authorize pin = .error f := herror
      refine ⟨f, ?_, hf.imp_right Or.inl⟩
      simp only [decide, decidePatch, hrefused, bind, Except.bind]
  | @pin pin current =>
      rcases Settings.checkPin_error hlocked.set hwrong with ⟨f, herror, hf⟩
      have hrefused : e.settings.checkPin current = .error f := herror
      cases hblank : Text.isBlankString pin with
      | true =>
          refine ⟨.invalidSettings .emptyPin, ?_, Or.inr (Or.inr rfl)⟩
          simp only [decide, decidePin, hblank, if_true]
          rfl
      | false =>
          refine ⟨f, ?_, hf.imp_right Or.inl⟩
          simp only [decide, decidePin, hblank, hrefused, Bool.false_eq_true, if_false, bind,
            Except.bind]
  | @policy policy pin =>
      rcases Settings.authorize_error hlocked hwrong with ⟨f, herror, hf⟩
      have hrefused : e.settings.authorize pin = .error f := herror
      refine ⟨f, ?_, hf.imp_right Or.inl⟩
      simp only [decide, decideImport, hrefused, bind, Except.bind]

end Command

theorem Outcome.Stores.sameLock {out : Outcome} {now : Calendar.Instant} {s : Settings}
    (h : out.Stores now s) : s.SameLock out.engine.settings := by
  rcases h with hkept | ⟨_, hpurged⟩
  · rw [hkept]
    exact .refl s
  · rw [hpurged]
    exact ⟨rfl, rfl, rfl, rfl, rfl⟩

/-! ## Histories -/

namespace Engine

variable {e : Engine}

def Event.Offers (event : Event) (pin : String) : Prop :=
  ∃ o c, event = .command o c ∧ c.offered? = some pin

theorem run_sameLock (hlocked : e.settings.Locked) {c : Command}
    (hwrong : ∀ p, c.offered? = some p → e.settings.pin.accepts p = false) (o : Occasion) :
    e.settings.SameLock (e.run o c).engine.settings := by
  rcases e.run_stores o c with ⟨s, rfl | ⟨reply, hsaves⟩, hstores⟩
  · exact hstores.sameLock
  · exact (hsaves.sameLock hlocked hwrong).trans hstores.sameLock

theorem afterAll_sameLock (hlocked : e.settings.Locked) {events : List Event}
    (hown : ∀ event ∈ events, event.IsOwn)
    (hwrong : ∀ event ∈ events, ∀ p, event.Offers p → e.settings.pin.accepts p = false) :
    e.settings.SameLock (e.afterAll events).settings := by
  apply settings_afterAll hown (.refl e.settings)
  intro before o c rest hevents hsofar
  have hcommand : Event.command o c ∈ events := by
    rw [hevents]
    exact List.mem_append_right _ List.mem_cons_self
  refine hsofar.trans (run_sameLock (hsofar.locked hlocked) ?_ o)
  intro p hp
  rw [hsofar.pin]
  exact hwrong _ hcommand p ⟨o, c, rfl, hp⟩

/--
Whatever happens to a locked engine without the right PIN being offered, the PIN
and the switches behind it are in the end as they were, and each command that
needs the PIN has been refused and has changed nothing.
-/
theorem lock_holds (hlocked : e.settings.Locked) {events : List Event}
    (hown : ∀ event ∈ events, event.IsOwn)
    (hwrong : ∀ event ∈ events, ∀ p, event.Offers p → e.settings.pin.accepts p = false) :
    let last := (e.afterAll events).settings
    last.pin = e.settings.pin ∧ last.requirePinForChanges = true ∧
      last.allowlistMode = e.settings.allowlistMode ∧
      last.defaultBlockMode = e.settings.defaultBlockMode ∧
      last.defaultOverrideMinutes = e.settings.defaultOverrideMinutes ∧
      ∀ before o c rest, events = before ++ .command o c :: rest → c.NeedsPin →
        ∃ f, (e.afterAll before).run o c = ⟨.error f, e.afterAll before, false⟩ ∧
          (f = .pinRequired ∨ f = .invalidPin ∨ f = .invalidSettings .emptyPin) := by
  intro last
  have hsame : e.settings.SameLock last := afterAll_sameLock hlocked hown hwrong
  refine ⟨hsame.pin, (hsame.locked hlocked).required, hsame.allowlistMode, hsame.blockMode,
    hsame.minutes, ?_⟩
  intro before o c rest hevents hc
  have hbefore : ∀ event ∈ before, event ∈ events := by
    intro event hevent
    rw [hevents]
    exact List.mem_append_left _ hevent
  have hcommand : Event.command o c ∈ events := by
    rw [hevents]
    exact List.mem_append_right _ List.mem_cons_self
  have hsofar : e.settings.SameLock (e.afterAll before).settings := by
    apply afterAll_sameLock hlocked
    · exact fun event hevent => hown event (hbefore event hevent)
    · exact fun event hevent => hwrong event (hbefore event hevent)
  have hforeign : ∀ p, c.offered? = some p → (e.afterAll before).settings.pin.accepts p = false := by
    intro p hp
    rw [hsofar.pin]
    exact hwrong _ hcommand p ⟨o, c, rfl, hp⟩
  rcases Command.decide_needsPin hc (hsofar.locked hlocked) hforeign o with ⟨f, hdecide, hf⟩
  refine ⟨f, ?_, hf⟩
  rw [run_of_refused hdecide]

/-! ## A sample -/

def guarded : Engine :=
  finding { Settings.default with
    requirePinForChanges := true
    pin := PinRecord.ofPin "1234" (List.replicate 16 7) }

/-- Someone who turns blocking off, starts the engine again and guesses at the PIN. -/
def guesses : List Event :=
  [.command ⟨dawn, "", []⟩ (.switchTo false), .restart,
    .command ⟨dawn, "", []⟩ (.changePin "0000" (some "4321"))]

theorem guesses_refused :
    guarded.settings.pin.accepts "1234" = true ∧ guarded.settings.pin.accepts "4321" = false ∧
      (guarded.afterAll guesses).settings.pin = guarded.settings.pin ∧
      (guarded.afterAll guesses).settings.allowlistMode = false ∧
      ∃ f, (guarded.afterAll [.command ⟨dawn, "", []⟩ (.switchTo false), .restart]).run
          ⟨dawn, "", []⟩ (.changePin "0000" (some "4321")) =
        ⟨.error f, guarded.afterAll [.command ⟨dawn, "", []⟩ (.switchTo false), .restart],
          false⟩ := by
  have hright : guarded.settings.pin.accepts "1234" = true := by
    decide +kernel
  have hguess : guarded.settings.pin.accepts "4321" = false := by
    decide +kernel
  have hlocked : guarded.settings.Locked := by
    constructor
    · rfl
    · decide +kernel
  have hown : ∀ event ∈ guesses, event.IsOwn := by
    intro event hevent
    simp only [guesses, List.mem_cons, List.not_mem_nil, or_false] at hevent
    rcases hevent with rfl | rfl | rfl
    · exact .command
    · exact .restart
    · exact .command
  have hwrong : ∀ event ∈ guesses, ∀ p, event.Offers p →
      guarded.settings.pin.accepts p = false := by
    intro event hevent p hp
    simp only [guesses, List.mem_cons, List.not_mem_nil, or_false] at hevent
    rcases hp with ⟨o, c, rfl, hoffered⟩
    rcases hevent with hevent | hevent | hevent
    · cases hevent
      cases hoffered
    · cases hevent
    · cases hevent
      cases hoffered
      exact hguess
  rcases lock_holds hlocked hown hwrong with ⟨hpin, _, hmode, _, _, hrefused⟩
  rcases hrefused [.command ⟨dawn, "", []⟩ (.switchTo false), .restart] _ _ [] rfl .pin with ⟨f, hf, _⟩
  exact ⟨hright, hguess, hpin, hmode, f, hf⟩

end Engine
end SiteGuard
