import Mathlib.Data.List.Nodup
import SiteGuard.Directive.Table
import SiteGuard.Proofs.SortedMap

/-!
# Directive tables as sets of rows

A table whose rows lie under the numbers of their directives is determined by
the directives that it lists.  Replacement leaves the added rows and those old
ones whose numbers are neither removed nor added.
-/

namespace SiteGuard
namespace DirectiveTable

/-! ## Rows -/

def rowOf (d : Directive) : Int × Except String Directive :=
  (keyOf d.id, .ok d)

theorem keyOf_inj {a b : UInt32} : keyOf a = keyOf b ↔ a = b := by
  unfold keyOf
  rw [Int.ofNat_inj, UInt32.toNat_inj]

theorem keyOf_lt {a b : UInt32} : keyOf a < keyOf b ↔ a < b := by
  unfold keyOf
  rw [Int.ofNat_lt, UInt32.lt_iff_toNat_lt]

theorem rowOf_injective : Function.Injective rowOf := by
  intro a b h
  exact Except.ok.inj (congrArg Prod.snd h)

/-- Every row of a directive lies under its number. -/
def Keyed (t : DirectiveTable) : Prop :=
  ∀ e ∈ t.rows.entries, ∀ d, e.2 = .ok d → e = rowOf d

theorem empty_keyed : empty.Keyed := by
  intro e he
  cases he

/-! ## Listing -/

theorem mapM_content_eq_ok_iff {entries : List (Int × Except String Directive)}
    {ds : List Directive} :
    entries.mapM (·.2) = .ok ds ↔ entries.map (·.2) = ds.map .ok := by
  induction entries generalizing ds with
  | nil =>
      cases ds <;> simp [pure, Except.pure]
  | cons e rest ih =>
      rw [List.mapM_cons, List.map_cons]
      cases hcontent : e.2 with
      | error text =>
          cases ds <;> simp [bind, Except.bind]
      | ok d =>
          cases ds with
          | nil =>
              cases rest.mapM (·.2) <;> simp [bind, Except.bind, pure, Except.pure]
          | cons d' ds =>
              rw [List.map_cons, List.cons.injEq, Except.ok.injEq, ← ih]
              cases rest.mapM (·.2) <;> simp [bind, Except.bind, pure, Except.pure]

theorem installed_eq_ok_iff {t : DirectiveTable} {ds : List Directive} :
    t.installed = .ok ds ↔
      t.present = true ∧ t.rows.entries.map (·.2) = ds.map .ok := by
  unfold installed
  cases hpresent : t.present with
  | false =>
      simp
  | true =>
      rw [← mapM_content_eq_ok_iff]
      cases t.rows.entries.mapM (·.2) <;> simp

theorem installed_of_entries {t : DirectiveTable} {ds : List Directive}
    (hpresent : t.present = true) (hrows : t.rows.entries = ds.map rowOf) :
    t.installed = .ok ds := by
  refine installed_eq_ok_iff.mpr ⟨hpresent, ?_⟩
  rw [hrows, List.map_map]
  rfl

theorem Keyed.entries_eq {t : DirectiveTable} {ds : List Directive} (hkeyed : t.Keyed)
    (h : t.installed = .ok ds) : t.rows.entries = ds.map rowOf := by
  rcases installed_eq_ok_iff.mp h with ⟨_, hcontents⟩
  have hrows : ∀ (entries : List (Int × Except String Directive)) (ds : List Directive),
      (∀ e ∈ entries, ∀ d, e.2 = .ok d → e = rowOf d) →
        entries.map (·.2) = ds.map .ok → entries = ds.map rowOf := by
    intro entries
    induction entries with
    | nil =>
        intro ds _ hmap
        cases ds with
        | nil => rfl
        | cons d ds => cases hmap
    | cons e rest ih =>
        intro ds hkey hmap
        cases ds with
        | nil =>
            cases hmap
        | cons d ds =>
            rw [List.map_cons, List.map_cons, List.cons.injEq] at hmap
            rw [List.map_cons, hkey e List.mem_cons_self d hmap.1,
              ih ds (fun f hf => hkey f (List.mem_cons_of_mem _ hf)) hmap.2]
  exact hrows _ _ hkeyed hcontents

theorem pairwise_of_entries {t : DirectiveTable} {ds : List Directive}
    (hrows : t.rows.entries = ds.map rowOf) : ds.Pairwise fun a b => a.id < b.id := by
  have hsorted := t.rows.sorted
  rw [hrows, List.pairwise_map] at hsorted
  exact hsorted.imp fun h => keyOf_lt.mp h

theorem eq_of_id {t : DirectiveTable} {ds : List Directive}
    (hrows : t.rows.entries = ds.map rowOf) {d e : Directive} (hd : d ∈ ds) (he : e ∈ ds)
    (hid : d.id = e.id) : d = e := by
  have hrow : rowOf d = rowOf e := by
    refine SortedMap.eq_of_key (m := t.rows) ?_ ?_ (keyOf_inj.mpr hid)
    · rw [hrows]
      exact List.mem_map_of_mem hd
    · rw [hrows]
      exact List.mem_map_of_mem he
  exact rowOf_injective hrow

/-! ## Filling -/

def filled (t : DirectiveTable) (ds : List Directive) : DirectiveTable :=
  ds.foldl (fun t d => t.put (keyOf d.id) (.ok d)) t

def rebuilt (t : DirectiveTable) (ds : List Directive) : DirectiveTable :=
  { t with rows := SortedMap.empty }.filled ds

theorem filled_eq (t : DirectiveTable) (ds : List Directive) :
    t.filled ds = { t with rows := (t.filled ds).rows } := by
  induction ds generalizing t with
  | nil =>
      rfl
  | cons d rest ih =>
      exact ih (t.put (keyOf d.id) (.ok d))

theorem mem_put {t : DirectiveTable} {d : Directive} {e : Int × Except String Directive} :
    e ∈ (t.put (keyOf d.id) (.ok d)).rows.entries ↔
      e = rowOf d ∨ (e ∈ t.rows.entries ∧ e.1 ≠ keyOf d.id) :=
  SortedMap.mem_insert

theorem mem_filled {t : DirectiveTable} {ds : List Directive} {e : Int × Except String Directive}
    (hnodup : (ds.map (·.id)).Nodup) :
    e ∈ (t.filled ds).rows.entries ↔
      (∃ d ∈ ds, e = rowOf d) ∨ (e ∈ t.rows.entries ∧ ∀ d ∈ ds, e.1 ≠ keyOf d.id) := by
  induction ds generalizing t with
  | nil =>
      simp [filled]
  | cons d rest ih =>
      rcases List.nodup_cons.mp hnodup with ⟨hnew, hrest⟩
      have hother : ∀ d' ∈ rest, keyOf d.id ≠ keyOf d'.id := by
        intro d' hd' hkey
        exact hnew (List.mem_map.mpr ⟨d', hd', (keyOf_inj.mp hkey).symm⟩)
      show e ∈ ((t.put (keyOf d.id) (.ok d)).filled rest).rows.entries ↔ _
      rw [ih hrest, mem_put]
      constructor
      · rintro (⟨d', hd', rfl⟩ | ⟨rfl | ⟨he, hne⟩, hafter⟩)
        · exact Or.inl ⟨d', List.mem_cons_of_mem _ hd', rfl⟩
        · exact Or.inl ⟨d, List.mem_cons_self, rfl⟩
        · refine Or.inr ⟨he, ?_⟩
          intro d' hd'
          rcases List.mem_cons.mp hd' with rfl | hd'
          · exact hne
          · exact hafter d' hd'
      · rintro (⟨d', hd', rfl⟩ | ⟨he, hne⟩)
        · rcases List.mem_cons.mp hd' with rfl | hd'
          · exact Or.inr ⟨Or.inl rfl, hother⟩
          · exact Or.inl ⟨d', hd', rfl⟩
        · refine Or.inr ⟨Or.inr ⟨he, hne d List.mem_cons_self⟩, ?_⟩
          intro d' hd'
          exact hne d' (List.mem_cons_of_mem _ hd')

theorem mem_rebuilt {t : DirectiveTable} {ds : List Directive} {e : Int × Except String Directive}
    (hnodup : (ds.map (·.id)).Nodup) :
    e ∈ (t.rebuilt ds).rows.entries ↔ ∃ d ∈ ds, e = rowOf d := by
  unfold rebuilt
  rw [mem_filled hnodup]
  simp [SortedMap.empty]

/-! ## Replacing -/

theorem repeated?_eq_none_iff {seen ids : List UInt32} :
    repeated? seen ids = none ↔ ids.Nodup ∧ ∀ id ∈ ids, id ∉ seen := by
  induction ids generalizing seen with
  | nil =>
      simp [repeated?]
  | cons id rest ih =>
      unfold repeated?
      split
      · rename_i hseen
        constructor
        · intro h
          cases h
        · rintro ⟨_, hfresh⟩
          exact absurd (List.contains_iff_mem.mp hseen) (hfresh id List.mem_cons_self)
      · rename_i hseen
        rw [List.contains_iff_mem] at hseen
        rw [ih, List.nodup_cons]
        constructor
        · rintro ⟨hnodup, hfresh⟩
          refine ⟨⟨fun hmem => hfresh id hmem List.mem_cons_self, hnodup⟩, ?_⟩
          intro other hother
          rcases List.mem_cons.mp hother with rfl | hother
          · exact hseen
          · exact fun hmem => hfresh other hother (List.mem_cons_of_mem _ hmem)
        · rintro ⟨⟨hnew, hnodup⟩, hfresh⟩
          refine ⟨hnodup, ?_⟩
          intro other hother hmem
          rcases List.mem_cons.mp hmem with rfl | hmem
          · exact hnew hother
          · exact hfresh other (List.mem_cons_of_mem _ hother) hmem

theorem repeated?_nil {ids : List UInt32} (hnodup : ids.Nodup) : repeated? [] ids = none :=
  repeated?_eq_none_iff.mpr ⟨hnodup, fun _ _ => List.not_mem_nil⟩

theorem replace_eq_ok {t t' : DirectiveTable} {remove : List UInt32} {add : List Directive}
    (h : t.replace remove add = .ok t') :
    (add.map (·.id)).Nodup ∧ t' = (t.erase remove).filled add := by
  unfold replace at h
  split at h
  · cases h
  · rename_i hrepeated
    split at h
    · cases h
    · cases h
      exact ⟨(repeated?_eq_none_iff.mp hrepeated).1, rfl⟩

theorem refusal?_ne_duplicateId (t : DirectiveTable) (remove : List UInt32)
    (add : List Directive) (id : UInt32) : t.refusal? remove add ≠ some (.duplicateId id) := by
  unfold refusal?
  intro h
  split at h
  · cases h
  · split at h
    · cases h
    · split at h
      · cases h
      · cases h

theorem not_nodup_of_replace {t : DirectiveTable} {remove : List UInt32}
    {add : List Directive} {id : UInt32}
    (h : t.replace remove add = .error (.interception (.duplicateId id))) :
    ¬(add.map (·.id)).Nodup := by
  intro hnodup
  unfold replace at h
  rw [repeated?_nil hnodup] at h
  dsimp only at h
  split at h
  · rename_i hcause
    cases h
    exact refusal?_ne_duplicateId t remove add id hcause
  · cases h

theorem mem_erase {t : DirectiveTable} {ids : List UInt32} {e : Int × Except String Directive} :
    e ∈ (t.erase ids).rows.entries ↔ e ∈ t.rows.entries ∧ ∀ id ∈ ids, e.1 ≠ keyOf id := by
  unfold erase
  rw [SortedMap.mem_filter]
  simp only [names, Bool.not_eq_true', List.any_eq_false, beq_iff_eq, ne_eq, eq_comm (a := e.1)]

/-- What is added replaces what lies under its numbers, whether or not that was removed. -/
theorem mem_erase_filled {t : DirectiveTable} {remove : List UInt32} {add : List Directive}
    (hnodup : (add.map (·.id)).Nodup) {e : Int × Except String Directive} :
    e ∈ ((t.erase remove).filled add).rows.entries ↔
      (∃ d ∈ add, e = rowOf d) ∨
        (e ∈ t.rows.entries ∧ (∀ id ∈ remove, e.1 ≠ keyOf id) ∧
          ∀ d ∈ add, e.1 ≠ keyOf d.id) := by
  rw [mem_filled hnodup, mem_erase, and_assoc]

theorem mem_replace {t t' : DirectiveTable} {remove : List UInt32} {add : List Directive}
    (h : t.replace remove add = .ok t') {e : Int × Except String Directive} :
    e ∈ t'.rows.entries ↔
      (∃ d ∈ add, e = rowOf d) ∨
        (e ∈ t.rows.entries ∧ (∀ id ∈ remove, e.1 ≠ keyOf id) ∧
          ∀ d ∈ add, e.1 ≠ keyOf d.id) := by
  rcases replace_eq_ok h with ⟨hnodup, rfl⟩
  exact mem_erase_filled hnodup

theorem replace_eq_with_rows {t t' : DirectiveTable} {remove : List UInt32}
    {add : List Directive} (h : t.replace remove add = .ok t') :
    t' = { t with rows := t'.rows } := by
  rcases replace_eq_ok h with ⟨_, rfl⟩
  exact filled_eq _ add

theorem Keyed.replace {t t' : DirectiveTable} {remove : List UInt32} {add : List Directive}
    (hkeyed : t.Keyed) (h : t.replace remove add = .ok t') : t'.Keyed := by
  intro e he d hcontent
  rcases (mem_replace h).mp he with ⟨d', _, rfl⟩ | ⟨hold, _⟩
  · cases hcontent
    rfl
  · exact hkeyed e hold d hcontent

end DirectiveTable
end SiteGuard
