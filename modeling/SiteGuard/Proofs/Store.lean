import SiteGuard.Store

/-!
# Saving and reading back

Settings that a store has taken are the ones that it reads, whichever of its
places they went to.
-/

namespace SiteGuard
namespace Store

theorem primaryDocument?_of_cleared {s : Store} {p : Primary} (h : s.primary = cleared p) :
    s.primaryDocument? = none := by
  unfold primaryDocument?
  rw [h]
  cases p <;> rfl

theorem load_saveToFallback {s s' : Store} {settings : Settings}
    (h : s.saveToFallback settings = .ok s') : s'.load = settings := by
  have hstored : s'.primary = cleared s.primary ∧ s'.fallback = .file (.saved settings) := by
    unfold saveToFallback at h
    cases hfallback : s.fallback <;> rw [hfallback] at h <;> cases h <;> exact ⟨rfl, rfl⟩
  unfold load fallbackDocument?
  rw [primaryDocument?_of_cleared hstored.1, hstored.2]
  rfl

theorem load_save {s s' : Store} {settings : Settings} (h : s.save settings = .ok s') :
    s'.load = settings := by
  unfold save at h
  split at h
  · exact load_saveToFallback h
  · split at h
    · exact load_saveToFallback h
    · cases h
      rfl

/-! ## Opening again -/

theorem primaryDocument?_reopen (s : Store) : s.reopen.primaryDocument? = s.primaryDocument? := by
  cases hprimary : s.primary with
  | absent =>
      simp only [primaryDocument?, reopen, hprimary]
  | row d =>
      simp only [primaryDocument?, reopen, hprimary]
  | dropped =>
      simp only [primaryDocument?, reopen, hprimary]

theorem load_reopen (s : Store) (quota : Nat) : { s.reopen with quota }.load = s.load := by
  have hprimary : { s.reopen with quota }.primaryDocument? = s.primaryDocument? :=
    s.primaryDocument?_reopen
  unfold load
  rw [hprimary]
  rfl

end Store
end SiteGuard
