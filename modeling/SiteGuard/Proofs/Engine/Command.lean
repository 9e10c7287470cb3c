import SiteGuard.Proofs.Engine.Course
import SiteGuard.Proofs.Steps

/-!
# Commands keep rows keyed

Every row of the table of an engine is keyed by its directive.  This holds of a
new engine, and every command and every restart keeps it.
-/

namespace SiteGuard
namespace Engine

open Calendar

theorem start_keyed (store : Store) (interstitial : Url) (graceSeconds : Nat) :
    (start store interstitial graceSeconds).table.Keyed :=
  DirectiveTable.empty_keyed

theorem restarted_keyed {e : Engine} (h : e.table.Keyed) : e.restarted.table.Keyed :=
  h

/-! ## Passes -/

theorem saved_table {e e' : Engine} {s : Settings} (h : e.saved s = .ok e') :
    e'.table = e.table := by
  rw [(saved_eq_ok h).1]

theorem pass_keyed {e : Engine} (h : e.table.Keyed) (now : Moment) (reason : String) :
    (e.pass now reason).2.table.Keyed := by
  rcases e.pass_table now reason with hsame | ⟨remove, add, _, hreplace⟩
  · rw [hsame]
    exact h
  · exact h.replace hreplace

/-! ## Commands -/

/--
What edits of suspensions and passes keep is kept by a command, if it is kept by
saving what the command saves.
-/
theorem run_keeps {I : Engine → Prop} {e : Engine} {o : Occasion} {c : Command} (h : I e)
    (hsuspended : ∀ (held : Engine) (suspended : List Suspension), I held →
      I (held.withSuspended suspended))
    (hpass : ∀ (held : Engine) (reason : String), I held → I (held.pass o.now reason).2)
    (hsaved : ∀ (edit : Edit) (s : Settings) (held e' : Engine),
      c.decide o e = .ok (.edit edit) → edit.saved = some s → I held → held.saved s = .ok e' →
      I e') : I (e.run o c).engine := by
  have hpassFor : ∀ (held : Engine) (reason : Option String) (reply : Reply), I held →
      I (held.passFor o.now reason reply).engine := by
    intro held reason reply hheld
    cases reason with
    | none =>
        exact hheld
    | some reason =>
        exact hpass held reason hheld
  rw [run_eq]
  unfold settle
  cases hdecide : c.decide o e with
  | error f =>
      exact h
  | ok decision =>
      cases decision with
      | answer r =>
          exact h
      | pass reason =>
          exact hpass e reason h
      | edit edit =>
          show I (e.apply o.now edit).engine
          have hheld := hsuspended e edit.suspended h
          unfold apply
          cases hedit : edit.saved with
          | none =>
              exact hpassFor _ edit.reason edit.reply hheld
          | some s =>
              cases hsave : (e.withSuspended edit.suspended).saved s with
              | error f =>
                  simp only [hsave]
                  exact hheld
              | ok e' =>
                  simp only [hsave]
                  have hnew := hsaved edit s _ e' hdecide hedit hheld hsave
                  exact hpassFor e' edit.reason edit.reply hnew

theorem run_keyed {e : Engine} (h : e.table.Keyed) (o : Occasion) (c : Command) :
    (e.run o c).engine.table.Keyed := by
  apply run_keeps (I := fun e => e.table.Keyed) h
  · intro held suspended hheld
    exact hheld
  · intro held reason hheld
    exact pass_keyed hheld o.now reason
  · intro edit s held e' _ _ hheld hsave
    rw [saved_table hsave]
    exact hheld

/-! ## Commands that pass -/

theorem pass_of_passThen {e : Engine} {now : Moment} {reason : String} {reply : Report → Reply}
    {r : Reply} (hok : (e.passThen now reason reply).result = .ok r) :
    ∃ report, e.pass now reason = (.ok report, (e.passThen now reason reply).engine) := by
  unfold passThen at hok ⊢
  cases hpass : e.pass now reason with
  | mk result e' =>
      rw [hpass] at hok
      rcases map_eq_ok hok with ⟨report, rfl, _⟩
      exact ⟨report, rfl⟩

/-! ## Histories -/

/-- What can happen to an engine; its files and its backends may change behind its back. -/
inductive Event where
  | command (o : Occasion) (c : Command)
  | restart
  | outage (o : Outage)
  | stored (store : Store)

def after (e : Engine) : Event → Engine
  | .command o c => (e.run o c).engine
  | .restart => e.restarted
  | .outage o => { e with outage := o }
  | .stored store => { e with store }

def afterAll (e : Engine) (events : List Event) : Engine :=
  events.foldl after e

/-- Nothing that happens to an engine puts a directive into a row of another one. -/
theorem afterAll_keyed {e : Engine} (h : e.table.Keyed) (events : List Event) :
    (e.afterAll events).table.Keyed := by
  induction events generalizing e with
  | nil =>
      exact h
  | cons event rest ih =>
      cases event with
      | command o c =>
          exact ih (run_keyed h o c)
      | restart =>
          exact ih (restarted_keyed h)
      | outage o =>
          exact @ih { e with outage := o } h
      | stored store =>
          exact @ih { e with store } h

end Engine
end SiteGuard
