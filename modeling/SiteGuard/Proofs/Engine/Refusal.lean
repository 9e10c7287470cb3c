import SiteGuard.Proofs.Engine.Command

/-!
# Commands that fail

A command fails because it is refused, or because a backend fails while it is under way.
The text of a failure that has a message does not depend on how others word theirs.
-/

namespace SiteGuard

open Calendar

/-! ## Backends that fail -/

namespace Failure

/-- The store or the table is at fault, and not who asked. -/
def IsBackend (f : Failure) : Prop :=
  (∃ cause, f = .storage cause) ∨ ∃ cause, f = .interception cause

theorem IsBackend.status {f : Failure} (h : f.IsBackend) : f.status = 500 := by
  rcases h with ⟨cause, rfl⟩ | ⟨cause, rfl⟩
  · rfl
  · rfl

theorem text_of_isOwn {f : Failure} (h : f.isOwn = true) (w : Wording) :
    f.text w = f.text silence := by
  cases f with
  | invalidRegex pattern =>
      cases h
  | invalidSettings cause =>
      cases cause with
      | undecodable complaint =>
          cases h
      | _ =>
          rfl
  | storage cause =>
      cases cause with
      | noFallback =>
          rfl
      | _ =>
          cases h
  | interception cause =>
      cases cause with
      | duplicateId id =>
          rfl
      | quotaExceeded =>
          rfl
      | _ =>
          cases h
  | _ =>
      rfl

/-- A message is the text of the failure, whoever words the others. -/
theorem text_of_message {f : Failure} {text : String} (h : f.message = some text) (w : Wording) :
    f.text w = text := by
  unfold message at h
  split at h
  · rename_i hown
    rw [text_of_isOwn hown]
    exact Option.some.inj h
  · cases h

end Failure

theorem Store.save_error {s : Store} {settings : Settings} {f : Failure}
    (h : s.save settings = .error f) : f.IsBackend := by
  have hfallback : ∀ {g}, s.saveToFallback settings = .error g → g.IsBackend := by
    intro g hg
    unfold Store.saveToFallback at hg
    split at hg
    · cases hg
      exact Or.inl ⟨_, rfl⟩
    · cases hg
      exact Or.inl ⟨_, rfl⟩
    · cases hg
  unfold Store.save at h
  split at h
  · exact hfallback h
  · split at h
    · exact hfallback h
    · cases h

namespace DirectiveTable

theorem installed_error {t : DirectiveTable} {f : Failure} (h : t.installed = .error f) :
    f.IsBackend := by
  unfold installed at h
  split at h
  · cases h
    exact Or.inl ⟨_, rfl⟩
  · split at h
    · cases h
    · cases h
      exact Or.inr ⟨_, rfl⟩

theorem replace_error {t : DirectiveTable} {remove : List UInt32} {add : List Directive}
    {f : Failure} (h : t.replace remove add = .error f) : f.IsBackend := by
  unfold replace at h
  split at h
  · cases h
    exact Or.inr ⟨_, rfl⟩
  · split at h
    · cases h
      exact Or.inr ⟨_, rfl⟩
    · cases h

end DirectiveTable

namespace Engine

theorem saved_error {e : Engine} {s : Settings} {f : Failure} (h : e.saved s = .error f) :
    f.IsBackend := by
  unfold saved at h
  split at h
  · cases h
    exact Or.inl ⟨_, rfl⟩
  · cases hsave : e.store.save s with
    | error g =>
        rw [hsave] at h
        cases h
        exact Store.save_error hsave
    | ok store =>
        rw [hsave] at h
        cases h

theorem installed_error {e : Engine} {f : Failure} (h : e.installed = .error f) :
    f.IsBackend := by
  unfold installed at h
  split at h
  · cases h
    exact Or.inr ⟨_, rfl⟩
  · exact DirectiveTable.installed_error h

theorem replaced_error {e : Engine} {d : Delta} {f : Failure} (h : e.replaced d = .error f) :
    f.IsBackend := by
  unfold replaced at h
  split at h
  · cases h
    exact Or.inr ⟨_, rfl⟩
  · cases hreplace : e.table.replace d.remove d.add with
    | error g =>
        rw [hreplace] at h
        cases h
        exact DirectiveTable.replace_error hreplace
    | ok table =>
        rw [hreplace] at h
        cases h

theorem install_error {e : Engine} {wanted : List Directive} {reason : String} {f : Failure}
    (h : e.install wanted reason = .error f) : f.IsBackend := by
  cases hinstalled : e.installed with
  | error g =>
      simp only [install, hinstalled, bind, Except.bind, Except.error.injEq] at h
      exact h ▸ installed_error hinstalled
  | ok before =>
      simp only [install, hinstalled, bind, Except.bind] at h
      split at h
      · cases h
      · split at h
        · rename_i hreplaced
          cases h
          exact replaced_error hreplaced
        · cases h

/-! ## Passes that fail -/

theorem pass_error {e : Engine} {now : Moment} {reason : String} {f : Failure}
    (h : (e.pass now reason).1 = .error f) :
    f.IsBackend ∧ (e.pass now reason).2 = e.purged now.instant := by
  unfold pass at h ⊢
  cases hinstall : (e.purged now.instant).install (e.wanted now) reason with
  | error g =>
      simp only [hinstall, Except.error.injEq] at h ⊢
      exact ⟨h ▸ install_error hinstall, trivial⟩
  | ok result =>
      simp only [hinstall] at h
      cases h

theorem passThen_error {e : Engine} {now : Moment} {reason : String}
    {reply : Report → Reply} {f : Failure}
    (h : (e.passThen now reason reply).result = .error f) : f.IsBackend := by
  have hpass : (e.pass now reason).1 = .error f := by
    unfold passThen at h
    cases hresult : (e.pass now reason).1 with
    | error g =>
        simp only [hresult] at h
        cases h
        rfl
    | ok report =>
        simp only [hresult] at h
        cases h
  exact (pass_error hpass).1

theorem passFor_error {e : Engine} {now : Moment} {reason : Option String} {reply : Reply}
    {f : Failure} (h : (e.passFor now reason reply).result = .error f) : f.IsBackend := by
  cases reason with
  | none =>
      cases h
  | some reason =>
      exact passThen_error h

/-! ## Commands that fail -/

theorem apply_error {e : Engine} {now : Moment} {edit : Edit} {f : Failure}
    (h : (e.apply now edit).result = .error f) : f.IsBackend := by
  unfold apply at h
  cases hsaved : edit.saved with
  | none =>
      simp only [hsaved] at h
      exact passFor_error h
  | some s =>
      simp only [hsaved] at h
      cases hsave : (e.withSuspended edit.suspended).saved s with
      | error g =>
          simp only [hsave, Except.error.injEq] at h
          exact h ▸ saved_error hsave
      | ok e' =>
          simp only [hsave] at h
          exact passFor_error h

/-- Either the command was refused as the state is, or it was under way when a backend failed. -/
theorem run_error {e : Engine} {o : Occasion} {c : Command} {f : Failure}
    (h : (e.run o c).result = .error f) : c.decide o e = .error f ∨ f.IsBackend := by
  cases hdecide : c.decide o e with
  | error g =>
      rw [run_of_refused hdecide] at h
      cases h
      exact Or.inl rfl
  | ok decision =>
      rw [run_of_decided hdecide] at h
      refine Or.inr ?_
      cases decision with
      | answer r =>
          cases h
      | pass reason =>
          exact passThen_error h
      | edit edit =>
          exact apply_error h

end Engine
end SiteGuard
