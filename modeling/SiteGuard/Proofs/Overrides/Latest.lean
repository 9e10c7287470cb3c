import SiteGuard.Proofs.Calendar.Order
import SiteGuard.Proofs.Overrides
import SiteGuard.Settings

/-!
# The latest expiry of each host

Several keys may name one host.  In normal form the host stands once, and it is
let through for as long as any of these keys has let it through.
-/

namespace SiteGuard

open Calendar

namespace Overrides

/-- Overrides hold the last one of the instants until which each host is let through. -/
structure Collects (o : Overrides) (through : String → Instant → Prop) : Prop where
  last : ∀ host till, o.get? host = some till → till.LastOf (through host)
  complete : ∀ host, o.get? host = none → ∀ till, ¬through host till

variable {o o' done : Overrides} {through through' : String → Instant → Prop}
variable {host : String} {till : Instant}

/-! ## One more override -/

theorem get?_extend_self (o : Overrides) (host : String) (till : Instant) :
    (o.extend host till).get? host =
      some (match o.get? host with
        | some known => Instant.latest till known
        | none => till) :=
  (SortedMap.get?_insert o host host _).trans (if_pos rfl)

theorem get?_extend_other {other : String} (hne : host ≠ other) (o : Overrides)
    (till : Instant) : (o.extend host till).get? other = o.get? other :=
  (SortedMap.get?_insert o host other _).trans (if_neg hne)

namespace Collects

theorem congr (h : Collects o through) (hsame : ∀ host i, through host i ↔ through' host i) :
    Collects o through' where
  last := fun host till hget => (h.last host till hget).congr (hsame host)
  complete := fun host hget till hthrough =>
    h.complete host hget till ((hsame host till).mpr hthrough)

theorem self (o : Overrides) : Collects o fun host till => o.get? host = some till where
  last := by
    intro host till hget
    refine ⟨hget, ?_⟩
    intro other hother
    cases hget.symm.trans hother
    exact Instant.lt_irrefl till
  complete := by
    intro host hnone till hget
    cases hnone.symm.trans hget

theorem extend (h : Collects o through) (host : String) (till : Instant) :
    Collects (o.extend host till) fun other i => through other i ∨ (other = host ∧ i = till) := by
  have hself : ∀ i, (through host i ∨ i = till) ↔ (through host i ∨ (host = host ∧ i = till)) := by
    intro i
    rw [and_iff_right rfl]
  have hother : ∀ other, host ≠ other →
      ∀ i, through other i ↔ (through other i ∨ (other = host ∧ i = till)) := by
    intro other hne i
    exact (or_iff_left fun hsame => hne hsame.1.symm).symm
  constructor
  · intro other last hget
    by_cases hsame : host = other
    · subst hsame
      rw [get?_extend_self] at hget
      cases hknown : o.get? host with
      | none =>
          rw [hknown] at hget
          cases hget
          refine ⟨Or.inr ⟨rfl, rfl⟩, ?_⟩
          rintro later (hold | ⟨_, rfl⟩)
          · exact absurd hold (h.complete host hknown later)
          · exact Instant.lt_irrefl later
      | some known =>
          rw [hknown] at hget
          cases hget
          exact (h.last host known hknown).insert.congr hself
    · rw [get?_extend_other hsame] at hget
      exact (h.last other last hget).congr (hother other hsame)
  · intro other hget later hthrough
    by_cases hsame : host = other
    · subst hsame
      rw [get?_extend_self] at hget
      cases hget
    · rw [get?_extend_other hsame] at hget
      exact h.complete other hget later ((hother other hsame later).mpr hthrough)

/-! ## What is held -/

theorem get?_eq_some_iff (h : Collects o through) :
    o.get? host = some till ↔ till.LastOf (through host) := by
  constructor
  · exact h.last host till
  · intro hlast
    cases hget : o.get? host with
    | none =>
        exact absurd hlast.isOne (h.complete host hget till)
    | some last =>
        rw [(h.last host last hget).unique hlast]

theorem mem_keys_iff (h : Collects o through) : host ∈ o.keys ↔ ∃ till, through host till := by
  constructor
  · intro hkey
    rcases SortedMap.mem_keys.mp hkey with ⟨till, hmem⟩
    exact ⟨till, (h.last host till (SortedMap.get?_eq_some_iff.mpr hmem)).isOne⟩
  · rintro ⟨till, hthrough⟩
    cases hget : o.get? host with
    | none =>
        exact absurd hthrough (h.complete host hget till)
    | some last =>
        exact SortedMap.mem_keys.mpr ⟨last, SortedMap.get?_eq_some_iff.mp hget⟩

theorem unique (h : Collects o through) (h' : Collects o' through) : o = o' := by
  apply SortedMap.ext_get?
  intro host
  apply Option.ext
  intro till
  rw [h.get?_eq_some_iff, h'.get?_eq_some_iff]

end Collects

/-! ## All keys -/

def Expires (entries : List (String × Instant)) (host : String) (till : Instant) : Prop :=
  ∃ key, (key, till) ∈ entries ∧ HostPattern.hostname? key = some host

theorem expires_append {entries : List (String × Instant)} {e : String × Instant}
    (hhost : HostPattern.hostname? e.1 = some host) (other : String) (till : Instant) :
    Expires entries other till ∨ (other = host ∧ till = e.2) ↔
      Expires (entries ++ [e]) other till := by
  unfold Expires
  constructor
  · rintro (⟨key, hmem, hkey⟩ | ⟨rfl, rfl⟩)
    · exact ⟨key, List.mem_append_left _ hmem, hkey⟩
    · exact ⟨e.1, List.mem_append_right _ List.mem_cons_self, hhost⟩
  · rintro ⟨key, hmem, hkey⟩
    rcases List.mem_append.mp hmem with hmem | hmem
    · exact Or.inl ⟨key, hmem, hkey⟩
    · cases List.mem_singleton.mp hmem
      exact Or.inr ⟨Option.some.inj (hkey.symm.trans hhost), rfl⟩

theorem collects_empty : Collects SortedMap.empty (Expires []) where
  last := by
    intro host till h
    cases h
  complete := by
    rintro host _ till ⟨key, hmem, _⟩
    cases hmem

theorem Collects.foldlM {entries rest : List (String × Instant)}
    (h : Collects done (Expires entries)) (hfold : rest.foldlM settle done = .ok o) :
    Collects o (Expires (entries ++ rest)) := by
  induction rest generalizing done entries with
  | nil =>
      cases hfold
      rw [List.append_nil]
      exact h
  | cons e rest ih =>
      rw [List.foldlM_cons] at hfold
      rcases bind_eq_ok hfold with ⟨next, hsettle, hrest⟩
      rcases settle_eq_ok hsettle with ⟨host, hhost, rfl⟩
      have hnext := ih ((h.extend host e.2).congr (expires_append hhost)) hrest
      rw [List.append_assoc] at hnext
      exact hnext

theorem collects_of_normalize (h : o.normalize = .ok o') : Collects o' (Expires o.entries) :=
  collects_empty.foldlM h

theorem expires_iff_get? (o : Overrides) (host : String) (till : Instant) :
    Expires o.entries host till ↔
      ∃ key, o.get? key = some till ∧ HostPattern.hostname? key = some host := by
  unfold Expires
  simp only [SortedMap.get?_eq_some_iff]

theorem exists_expires_iff (o : Overrides) (host : String) :
    (∃ till, Expires o.entries host till) ↔
      ∃ key ∈ o.keys, HostPattern.hostname? key = some host := by
  constructor
  · rintro ⟨till, key, hmem, hhost⟩
    exact ⟨key, SortedMap.mem_keys.mpr ⟨till, hmem⟩, hhost⟩
  · rintro ⟨key, hkey, hhost⟩
    rcases SortedMap.mem_keys.mp hkey with ⟨till, hmem⟩
    exact ⟨till, key, hmem, hhost⟩

/-! ## The key in the way -/

theorem foldlM_eq_error_iff {rest : List (String × Instant)} {key : String} :
    rest.foldlM settle done = .error key ↔
      (rest.map (·.1)).find? (fun k => (HostPattern.hostname? k).isNone) = some key := by
  induction rest generalizing done with
  | nil =>
      constructor
      · intro h
        cases h
      · intro h
        cases h
  | cons e rest ih =>
      rw [List.foldlM_cons, List.map_cons, List.find?_cons]
      unfold settle
      cases hhost : HostPattern.hostname? e.1 with
      | none =>
          rw [Option.isNone_none]
          constructor
          · intro h
            cases h
            rfl
          · intro h
            cases h
            rfl
      | some host =>
          exact ih

/-- The first key that names no host stands in the way of normal form, and nothing else does. -/
theorem normalize_eq_error_iff {key : String} :
    o.normalize = .error key ↔
      o.keys.find? (fun k => (HostPattern.hostname? k).isNone) = some key :=
  foldlM_eq_error_iff

end Overrides

/-! ## Settings -/

namespace Settings

open Overrides

theorem normalized_of_error {s : Settings} {key : String} (h : s.overrides.normalize = .error key) :
    s.normalized = .error (.invalidHostname key) := by
  unfold normalized
  rw [h]

theorem normalized_of_ok {s : Settings} {o : Overrides} (h : s.overrides.normalize = .ok o) :
    s.normalized = .ok { s with overrides := o } := by
  unfold normalized
  rw [h]

/--
Normalizing fails exactly where a key names no host, and the first such key is told.  Otherwise
the hosts that keys name become the keys, and the expiry of a host is the last one of all the
expiries that stood under keys of this host.
-/
theorem normalized_keeps_latest (s : Settings) :
    (∀ failure, s.normalized = .error failure ↔
      ∃ key, s.overrides.keys.find? (fun k => (HostPattern.hostname? k).isNone) = some key ∧
        failure = .invalidHostname key) ∧
    ∀ normal, s.normalized = .ok normal →
      normal = { s with overrides := normal.overrides } ∧
      (∀ host, host ∈ normal.overrides.keys ↔
        ∃ key ∈ s.overrides.keys, HostPattern.hostname? key = some host) ∧
      ∀ host till, normal.overrides.get? host = some till ↔
        till.LastOf fun expiry => ∃ key,
          s.overrides.get? key = some expiry ∧ HostPattern.hostname? key = some host := by
  cases hnormalize : s.overrides.normalize with
  | error bad =>
      have hfind := normalize_eq_error_iff.mp hnormalize
      rw [normalized_of_error hnormalize]
      constructor
      · intro failure
        constructor
        · intro h
          cases h
          exact ⟨bad, hfind, rfl⟩
        · rintro ⟨key, hkey, rfl⟩
          rw [hfind] at hkey
          cases hkey
          rfl
      · intro normal h
        cases h
  | ok o =>
      have hcollects := (collects_of_normalize hnormalize).congr (expires_iff_get? s.overrides)
      rw [normalized_of_ok hnormalize]
      constructor
      · intro failure
        constructor
        · intro h
          cases h
        · rintro ⟨key, hkey, _⟩
          rw [normalize_eq_error_iff.mpr hkey] at hnormalize
          cases hnormalize
      · intro normal h
        cases h
        refine ⟨rfl, ?_, ?_⟩
        · intro host
          exact (collects_of_normalize hnormalize).mem_keys_iff.trans
            (exists_expires_iff s.overrides host)
        · intro host till
          exact hcollects.get?_eq_some_iff

end Settings
end SiteGuard
