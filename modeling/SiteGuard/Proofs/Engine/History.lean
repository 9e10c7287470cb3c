import SiteGuard.Proofs.Engine.Overrides

/-!
# What histories keep

Of all that happens to an engine from within only commands change its settings, so
what every command of a history keeps is kept by the history.
-/

namespace SiteGuard
namespace Engine

variable {e : Engine}

theorem settings_restarted (e : Engine) : e.restarted.settings = e.settings :=
  e.store.load_reopen e.store.quota

/--
A history in which settings change by commands alone.  The medium may be replaced
at any time, by one that holds less for example, as long as it has the settings.
-/
inductive Untampered : Engine → List Event → Prop where
  | nil {e : Engine} : Untampered e []
  | own {e : Engine} {event : Event} {rest : List Event} (hown : event.IsOwn)
      (hrest : Untampered (e.after event) rest) : Untampered e (event :: rest)
  | medium {e : Engine} {store : Store} {rest : List Event} (hload : store.load = e.settings)
      (hrest : Untampered { e with store } rest) : Untampered e (.stored store :: rest)

theorem Untampered.of_own {events : List Event} (hown : ∀ event ∈ events, event.IsOwn) :
    Untampered e events := by
  induction events generalizing e with
  | nil =>
      exact .nil
  | cons event rest ih =>
      exact .own (hown event List.mem_cons_self)
        (ih fun later hlater => hown later (List.mem_cons_of_mem _ hlater))

/-- An invariant of whole engines, kept by each command of a history and by all that is around. -/
theorem Untampered.invariant {I : Engine → Prop} {events : List Event}
    (h : Untampered e events) (hstart : I e)
    (hrun : ∀ before o c rest, events = before ++ .command o c :: rest →
      I (e.afterAll before) → I ((e.afterAll before).run o c).engine)
    (hrestart : ∀ e : Engine, I e → I e.restarted)
    (houtage : ∀ (e : Engine) (o : Outage), I e → I { e with outage := o })
    (hmedium : ∀ (e : Engine) (store : Store), store.load = e.settings → I e →
      I { e with store }) : I (e.afterAll events) := by
  induction h with
  | nil =>
      exact hstart
  | @own e event rest hown _ ih =>
      have hfirst : I (e.after event) := by
        cases hown with
        | @command o c =>
            exact hrun [] o c rest rfl hstart
        | restart =>
            exact hrestart e hstart
        | outage =>
            exact houtage e _ hstart
      apply ih hfirst
      intro before o c after hrest
      exact hrun (event :: before) o c after (congrArg (event :: ·) hrest)
  | @medium e store rest hload _ ih =>
      apply ih (hmedium e store hload hstart)
      intro before o c after hrest
      exact hrun (.stored store :: before) o c after (congrArg (.stored store :: ·) hrest)

/-- The settings after a history have what those before had, if no command takes it away. -/
theorem settings_afterAll {I : Settings → Prop} {events : List Event}
    (hown : ∀ event ∈ events, event.IsOwn) (hstart : I e.settings)
    (hrun : ∀ before o c rest, events = before ++ .command o c :: rest →
      I (e.afterAll before).settings → I ((e.afterAll before).run o c).engine.settings) :
    I (e.afterAll events).settings := by
  apply (Untampered.of_own hown).invariant (I := fun e => I e.settings) hstart hrun
  · intro e he
    show I e.restarted.settings
    rw [settings_restarted]
    exact he
  · intro e _ he
    exact he
  · intro e store hload he
    show I store.load
    rw [hload]
    exact he

end Engine
end SiteGuard
