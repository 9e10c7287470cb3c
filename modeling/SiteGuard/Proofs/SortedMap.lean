import Mathlib.Data.List.Nodup
import SiteGuard.SortedMap

/-!
# Sorted maps as sets of entries

A sorted map is determined by the entries that it holds, and every operation is
described here by the entries that it leaves.
-/

namespace SiteGuard
namespace SortedMap

variable {κ α : Type} [LT κ]

theorem mem_filter {m : SortedMap κ α} {test : κ → α → Bool} {e : κ × α} :
    e ∈ (m.filter test).entries ↔ e ∈ m.entries ∧ test e.1 e.2 = true := by
  simp [filter]

theorem filter_filter (m : SortedMap κ α) (test : κ → α → Bool) :
    (m.filter test).filter test = m.filter test := by
  simp [filter]

theorem mem_keys {m : SortedMap κ α} {key : κ} :
    key ∈ m.keys ↔ ∃ value, (key, value) ∈ m.entries := by
  unfold keys
  rw [List.mem_map]
  constructor
  · rintro ⟨⟨found, value⟩, he, rfl⟩
    exact ⟨value, he⟩
  · rintro ⟨value, he⟩
    exact ⟨(key, value), he, rfl⟩

theorem keys_filter_subset (m : SortedMap κ α) (test : κ → α → Bool) :
    (m.filter test).keys ⊆ m.keys := by
  intro key hkey
  rcases mem_keys.mp hkey with ⟨value, he⟩
  exact mem_keys.mpr ⟨value, (mem_filter.mp he).1⟩

variable [LE κ] [DecidableEq κ] [Std.LawfulOrderLT κ]

theorem eq_of_key {m : SortedMap κ α} {e f : κ × α} (he : e ∈ m.entries)
    (hf : f ∈ m.entries) (hkey : e.1 = f.1) : e = f := by
  have hvalue : m.get? e.1 = some e.2 := get?_eq_some_iff.mpr he
  have hvalue' : m.get? f.1 = some f.2 := get?_eq_some_iff.mpr hf
  rw [← hkey, hvalue, Option.some.injEq] at hvalue'
  exact Prod.ext hkey hvalue'

variable [Std.IsLinearOrder κ]

theorem ext_mem {m n : SortedMap κ α} (h : ∀ e, e ∈ m.entries ↔ e ∈ n.entries) : m = n := by
  apply ext_get?
  intro key
  apply Option.ext
  intro value
  rw [get?_eq_some_iff, get?_eq_some_iff]
  exact h (key, value)

variable [DecidableLT κ]

theorem mem_insert {m : SortedMap κ α} {key : κ} {value : α} {e : κ × α} :
    e ∈ (m.insert key value).entries ↔
      e = (key, value) ∨ (e ∈ m.entries ∧ e.1 ≠ key) := by
  rcases e with ⟨other, content⟩
  rw [← get?_eq_some_iff, get?_insert, ← get?_eq_some_iff]
  by_cases h : key = other
  · subst h
    simp [eq_comm]
  · simp [h, Ne.symm h]

theorem mem_keys_insert {m : SortedMap κ α} {key other : κ} {value : α} :
    other ∈ (m.insert key value).keys ↔ other = key ∨ other ∈ m.keys := by
  constructor
  · intro h
    rcases mem_keys.mp h with ⟨content, he⟩
    rcases mem_insert.mp he with hnew | ⟨hold, _⟩
    · exact Or.inl (congrArg Prod.fst hnew)
    · exact Or.inr (mem_keys.mpr ⟨content, hold⟩)
  · intro h
    by_cases hkey : other = key
    · exact mem_keys.mpr ⟨value, mem_insert.mpr (Or.inl (congrArg (·, value) hkey))⟩
    · rcases mem_keys.mp (h.resolve_left hkey) with ⟨content, he⟩
      exact mem_keys.mpr ⟨content, mem_insert.mpr (Or.inr ⟨he, hkey⟩)⟩

theorem of_mem_keys_insert {m : SortedMap κ α} {key other : κ} {value : α}
    (h : other ∈ (m.insert key value).keys) : other = key ∨ other ∈ m.keys :=
  mem_keys_insert.mp h

theorem mem_keys_ofList {entries : List (κ × α)} {key : κ} :
    key ∈ (ofList entries).keys ↔ key ∈ entries.map (·.1) := by
  have hfold : ∀ (es : List (κ × α)) (m : SortedMap κ α),
      key ∈ (es.foldl (fun m e => m.insert e.1 e.2) m).keys ↔
        key ∈ m.keys ∨ key ∈ es.map (·.1) := by
    intro es
    induction es with
    | nil =>
        intro m
        simp
    | cons e rest ih =>
        intro m
        rw [List.foldl_cons, ih, mem_keys_insert, List.map_cons, List.mem_cons, or_assoc,
          or_left_comm]
  have hempty : key ∉ (empty : SortedMap κ α).keys := List.not_mem_nil
  exact (hfold entries empty).trans (or_iff_right hempty)

theorem keys_ofList_subset (entries : List (κ × α)) :
    (ofList entries).keys ⊆ entries.map (·.1) := by
  intro key hkey
  exact mem_keys_ofList.mp hkey

theorem mem_foldl_insert {es : List (κ × α)} (hsorted : es.Pairwise fun a b => a.1 < b.1)
    (m : SortedMap κ α) {e : κ × α} :
    e ∈ (es.foldl (fun m e => m.insert e.1 e.2) m).entries ↔
      e ∈ es ∨ (e ∈ m.entries ∧ ∀ f ∈ es, e.1 ≠ f.1) := by
  induction es generalizing m with
  | nil =>
      simp
  | cons first rest ih =>
      rcases List.pairwise_cons.mp hsorted with ⟨hhead, hrest⟩
      rw [List.foldl_cons, ih hrest, mem_insert]
      constructor
      · intro h
        rcases h with hmem | ⟨rfl | ⟨hold, hfirst⟩, hothers⟩
        · exact Or.inl (List.mem_cons_of_mem first hmem)
        · exact Or.inl List.mem_cons_self
        · exact Or.inr ⟨hold, List.forall_mem_cons.mpr ⟨hfirst, hothers⟩⟩
      · intro h
        rcases h with hmem | ⟨hold, hothers⟩
        · rcases List.mem_cons.mp hmem with rfl | hmem
          · refine Or.inr ⟨Or.inl rfl, ?_⟩
            intro f hf heq
            have hlt := hhead f hf
            rw [heq] at hlt
            exact Std.lt_irrefl hlt
          · exact Or.inl hmem
        · rcases List.forall_mem_cons.mp hothers with ⟨hfirst, hothers⟩
          exact Or.inr ⟨Or.inr ⟨hold, hfirst⟩, hothers⟩

theorem ofList_entries (m : SortedMap κ α) : ofList m.entries = m := by
  apply ext_mem
  intro e
  unfold ofList
  rw [mem_foldl_insert m.sorted]
  exact or_iff_left fun hnone => nomatch hnone.1

end SortedMap
end SiteGuard
