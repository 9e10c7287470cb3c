import SiteGuard.Overrides
import SiteGuard.Proofs.SortedMap
import SiteGuard.Proofs.Steps

/-!
# Hosts of overrides

Bringing overrides to normal form puts each of them under the host that its key
names, and fails where a key names none.  Where every key names itself, nothing
changes.
-/

namespace SiteGuard

open Calendar

/-! ## Normal form -/

namespace Overrides

theorem of_mem_keys_extend {o : Overrides} {host key : String} {till : Instant}
    (h : key ∈ (o.extend host till).keys) : key = host ∨ key ∈ o.keys :=
  SortedMap.of_mem_keys_insert h

def settle (done : Overrides) (e : String × Instant) : Except String Overrides :=
  match HostPattern.hostname? e.1 with
  | none => .error e.1
  | some host => .ok (done.extend host e.2)

theorem normalize_eq (o : Overrides) : o.normalize = o.entries.foldlM settle SortedMap.empty :=
  rfl

theorem settle_eq_ok {done done' : Overrides} {e : String × Instant}
    (h : settle done e = .ok done') :
    ∃ host, HostPattern.hostname? e.1 = some host ∧ done' = done.extend host e.2 := by
  unfold settle at h
  split at h
  · cases h
  · rename_i host hhost
    cases h
    exact ⟨host, hhost, rfl⟩

theorem settle_self {done : Overrides} {e : String × Instant}
    (h : HostPattern.hostname? e.1 = some e.1) : settle done e = .ok (done.extend e.1 e.2) := by
  unfold settle
  rw [h]

theorem mem_keys_of_foldlM {es : List (String × Instant)} {done done' : Overrides}
    (h : es.foldlM settle done = .ok done') {key : String} (hkey : key ∈ done'.keys) :
    key ∈ done.keys ∨ ∃ e ∈ es, HostPattern.hostname? e.1 = some key := by
  induction es generalizing done with
  | nil =>
      cases h
      exact Or.inl hkey
  | cons e rest ih =>
      rw [List.foldlM_cons] at h
      cases hsettle : settle done e with
      | error bad =>
          rw [hsettle] at h
          cases h
      | ok next =>
          rw [hsettle] at h
          rcases ih h with hnext | ⟨f, hf, hhost⟩
          · rcases settle_eq_ok hsettle with ⟨host, hhost, rfl⟩
            rcases of_mem_keys_extend hnext with rfl | hold
            · exact Or.inr ⟨e, List.mem_cons_self, hhost⟩
            · exact Or.inl hold
          · exact Or.inr ⟨f, List.mem_cons_of_mem _ hf, hhost⟩

theorem mem_keys_of_normalize {o o' : Overrides} (h : o.normalize = .ok o') {key : String}
    (hkey : key ∈ o'.keys) : ∃ k ∈ o.keys, HostPattern.hostname? k = some key := by
  rw [normalize_eq] at h
  rcases mem_keys_of_foldlM h hkey with hnone | ⟨e, he, hhost⟩
  · cases hnone
  · exact ⟨e.1, List.mem_map_of_mem he, hhost⟩

theorem key_of_foldlM_error {es : List (String × Instant)} {done : Overrides} {key : String}
    (h : es.foldlM settle done = .error key) :
    key ∈ es.map (·.1) ∧ HostPattern.hostname? key = none := by
  induction es generalizing done with
  | nil =>
      cases h
  | cons e rest ih =>
      rw [List.foldlM_cons] at h
      rcases bind_eq_error h with hsettle | ⟨next, _, hrest⟩
      · unfold settle at hsettle
        split at hsettle
        · rename_i hnone
          cases hsettle
          exact ⟨List.mem_cons_self, hnone⟩
        · cases hsettle
      · exact ⟨List.mem_cons_of_mem _ (ih hrest).1, (ih hrest).2⟩

theorem key_of_normalize_error {o : Overrides} {key : String} (h : o.normalize = .error key) :
    key ∈ o.keys ∧ HostPattern.hostname? key = none :=
  key_of_foldlM_error h

theorem foldlM_self {es : List (String × Instant)} {done : Overrides}
    (hself : ∀ e ∈ es, HostPattern.hostname? e.1 = some e.1)
    (hsorted : es.Pairwise fun a b => a.1 < b.1) (hnew : ∀ e ∈ es, e.1 ∉ done.keys) :
    ∃ done', es.foldlM settle done = .ok done' ∧
      ∀ e, e ∈ done'.entries ↔ e ∈ done.entries ∨ e ∈ es := by
  induction es generalizing done with
  | nil =>
      exact ⟨done, rfl, by simp⟩
  | cons e rest ih =>
      rcases List.pairwise_cons.mp hsorted with ⟨hhead, hrest⟩
      have hfresh : done.get? e.1 = none := by
        cases hget : done.get? e.1 with
        | none =>
            rfl
        | some till =>
            have hmem := SortedMap.mem_keys.mpr ⟨till, SortedMap.get?_eq_some_iff.mp hget⟩
            exact absurd hmem (hnew e List.mem_cons_self)
      have hextend : done.extend e.1 e.2 = done.insert e.1 e.2 := by
        unfold extend
        rw [hfresh]
      have hlater : ∀ f ∈ rest, f.1 ∉ (done.insert e.1 e.2).keys := by
        intro f hf hmem
        rcases SortedMap.of_mem_keys_insert hmem with hsame | hold
        · have hlt := hhead f hf
          rw [hsame] at hlt
          exact Std.lt_irrefl hlt
        · exact hnew f (List.mem_cons_of_mem _ hf) hold
      rcases ih (fun f hf => hself f (List.mem_cons_of_mem _ hf)) hrest hlater with
        ⟨done', hdone, hentries⟩
      refine ⟨done', ?_, ?_⟩
      · rw [List.foldlM_cons, settle_self (hself e List.mem_cons_self), hextend]
        exact hdone
      · intro f
        rw [hentries f, SortedMap.mem_insert, List.mem_cons]
        constructor
        · rintro ((rfl | ⟨hold, _⟩) | hlate)
          · exact Or.inr (Or.inl rfl)
          · exact Or.inl hold
          · exact Or.inr (Or.inr hlate)
        · rintro (hold | rfl | hlate)
          · refine Or.inl (Or.inr ⟨hold, ?_⟩)
            intro hsame
            have hmem : f.1 ∈ done.keys := List.mem_map_of_mem hold
            rw [hsame] at hmem
            exact hnew e List.mem_cons_self hmem
          · exact Or.inl (Or.inl rfl)
          · exact Or.inr hlate

theorem normalize_self {o : Overrides}
    (h : ∀ key ∈ o.keys, HostPattern.hostname? key = some key) : o.normalize = .ok o := by
  have hnew : ∀ e ∈ o.entries, e.1 ∉ (SortedMap.empty : Overrides).keys :=
    fun _ _ hmem => nomatch hmem
  rcases foldlM_self (fun e he => h e.1 (List.mem_map_of_mem he)) o.sorted hnew with
    ⟨o', ho', hentries⟩
  have hsame : o' = o := by
    apply SortedMap.ext_mem
    intro e
    rw [hentries e]
    exact or_iff_right fun hnone => nomatch hnone
  rw [normalize_eq, ho', hsame]

end Overrides
end SiteGuard
