/-!
# Sorted maps

Finite maps as lists of entries in increasing order of their keys.  Look-up is
the view: two maps with the same look-ups are equal, and each operation is
described by what look-up finds after it.
-/

namespace SiteGuard

structure SortedMap (κ : Type) (α : Type) [LT κ] where
  entries : List (κ × α)
  sorted : entries.Pairwise fun a b => a.1 < b.1

namespace SortedMap

variable {κ α : Type}

/-! ## Look-up -/

section Lookup

variable [DecidableEq κ]

def find (key : κ) : List (κ × α) → Option α
  | [] => none
  | e :: rest => if e.1 = key then some e.2 else find key rest

theorem find_eq_none {key : κ} {entries : List (κ × α)} (h : ∀ e ∈ entries, e.1 ≠ key) :
    find key entries = none := by
  induction entries with
  | nil =>
      rfl
  | cons e rest ih =>
      simp only [find, if_neg (h e List.mem_cons_self)]
      exact ih fun f hf => h f (List.mem_cons_of_mem _ hf)

end Lookup

/-! ## Placing -/

section Placing

variable [LT κ] [DecidableLT κ] [DecidableEq κ]

/-- Puts an entry into its place; one of the same key is replaced. -/
def place (key : κ) (value : α) : List (κ × α) → List (κ × α)
  | [] => [(key, value)]
  | e :: rest =>
    if key < e.1 then (key, value) :: e :: rest
    else if key = e.1 then (key, value) :: rest
    else e :: place key value rest

theorem of_mem_place {key : κ} {value : α} {e : κ × α} {entries : List (κ × α)}
    (h : e ∈ place key value entries) : e = (key, value) ∨ e ∈ entries := by
  induction entries with
  | nil =>
      exact .inl (List.mem_singleton.mp h)
  | cons f rest ih =>
      unfold place at h
      split at h
      · exact List.mem_cons.mp h
      · split at h
        · rcases List.mem_cons.mp h with h | h
          · exact .inl h
          · exact .inr (List.mem_cons_of_mem _ h)
        · rcases List.mem_cons.mp h with h | h
          · exact .inr (h ▸ List.mem_cons_self)
          · rcases ih h with h | h
            · exact .inl h
            · exact .inr (List.mem_cons_of_mem _ h)

theorem find_place (key other : κ) (value : α) (entries : List (κ × α)) :
    find other (place key value entries) =
      if key = other then some value else find other entries := by
  induction entries with
  | nil =>
      simp [place, find]
  | cons e rest ih =>
      unfold place
      split
      · simp [find]
      · split
        · rename_i heq
          by_cases h : key = other
          · simp [find, h]
          · have h' : ¬e.1 = other := fun he => h (heq.trans he)
            simp [find, h, h']
        · rename_i hne
          by_cases h : e.1 = other
          · have h' : ¬key = other := fun he => hne (he.trans h.symm)
            simp [find, h, h']
          · simp [find, h, ih]

end Placing

variable [LT κ]

def empty : SortedMap κ α := ⟨[], .nil⟩

instance : EmptyCollection (SortedMap κ α) := ⟨empty⟩

def keys (m : SortedMap κ α) : List κ :=
  m.entries.map (·.1)

def size (m : SortedMap κ α) : Nat :=
  m.entries.length

def filter (m : SortedMap κ α) (test : κ → α → Bool) : SortedMap κ α :=
  ⟨m.entries.filter fun e => test e.1 e.2, m.sorted.filter _⟩

variable [DecidableEq κ]

def get? (m : SortedMap κ α) (key : κ) : Option α :=
  find key m.entries

/-! ## Order -/

variable [LE κ] [Std.LawfulOrderLT κ]

theorem find_filter {test : κ → α → Bool} {key : κ} {entries : List (κ × α)}
    (h : entries.Pairwise fun a b => a.1 < b.1) :
    find key (entries.filter fun e => test e.1 e.2) = (find key entries).filter (test key) := by
  induction entries with
  | nil =>
      rfl
  | cons e rest ih =>
      obtain ⟨hhead, hrest⟩ := List.pairwise_cons.mp h
      rw [List.filter_cons]
      by_cases hkey : e.1 = key
      · have hnone : find key (rest.filter fun e => test e.1 e.2) = none :=
          find_eq_none fun f hf hf' => by
            have hlt := hhead f (List.mem_filter.mp hf).1
            rw [hkey, hf'] at hlt
            exact Std.lt_irrefl hlt
        by_cases htest : test key e.2 = true
        · simp [find, hkey, htest, Option.filter]
        · simp [find, hkey, hnone, htest, Option.filter]
      · split
        · simp [find, hkey, ih hrest]
        · simp [find, hkey, ih hrest]

theorem find_eq_some_iff {key : κ} {value : α} {entries : List (κ × α)}
    (h : entries.Pairwise fun a b => a.1 < b.1) :
    find key entries = some value ↔ (key, value) ∈ entries := by
  induction entries with
  | nil =>
      simp [find]
  | cons e rest ih =>
      obtain ⟨hhead, hrest⟩ := List.pairwise_cons.mp h
      by_cases hkey : e.1 = key
      · simp only [find, if_pos hkey, Option.some.injEq, List.mem_cons]
        constructor
        · intro hv
          exact .inl (Prod.ext hkey.symm hv.symm)
        · rintro (hv | hv)
          · rw [← hv]
          · have hlt := hhead _ hv
            rw [hkey] at hlt
            exact absurd hlt Std.lt_irrefl
      · simp only [find, if_neg hkey, List.mem_cons, ih hrest]
        constructor
        · exact .inr
        · rintro (hv | hv)
          · exact absurd (by rw [← hv]) hkey
          · exact hv

theorem get?_eq_some_iff {m : SortedMap κ α} {key : κ} {value : α} :
    m.get? key = some value ↔ (key, value) ∈ m.entries :=
  find_eq_some_iff m.sorted

theorem get?_filter (m : SortedMap κ α) (test : κ → α → Bool) (key : κ) :
    (m.filter test).get? key = (m.get? key).filter (test key) :=
  find_filter m.sorted

omit [DecidableEq κ] in
theorem entries_nodup (m : SortedMap κ α) : m.entries.Nodup := by
  refine List.Pairwise.imp (fun h he => ?_) m.sorted
  subst he
  exact Std.lt_irrefl h

variable [Std.IsLinearOrder κ]

theorem ext_get? {m n : SortedMap κ α} (h : ∀ key, m.get? key = n.get? key) : m = n := by
  have hperm : m.entries.Perm n.entries :=
    (List.perm_ext_iff_of_nodup m.entries_nodup n.entries_nodup).mpr fun (key, value) => by
      rw [← get?_eq_some_iff, h, get?_eq_some_iff]
  obtain ⟨a, ha⟩ := m
  obtain ⟨b, hb⟩ := n
  have hab : a = b :=
    hperm.eq_of_pairwise
      (fun _ _ _ _ h h' => absurd (Std.lt_trans h h') Std.lt_irrefl) ha hb
  subst hab
  rfl

/-! ## Insertion -/

variable [DecidableLT κ]

theorem place_sorted (key : κ) (value : α) {entries : List (κ × α)}
    (h : entries.Pairwise fun a b => a.1 < b.1) :
    (place key value entries).Pairwise fun a b => a.1 < b.1 := by
  induction entries with
  | nil =>
      exact List.pairwise_singleton _ _
  | cons e rest ih =>
      obtain ⟨hhead, hrest⟩ := List.pairwise_cons.mp h
      unfold place
      split
      · rename_i hlt
        refine List.pairwise_cons.mpr ⟨fun f hf => ?_, h⟩
        rcases List.mem_cons.mp hf with rfl | hf
        · exact hlt
        · exact Std.lt_trans hlt (hhead f hf)
      · split
        · rename_i heq
          refine List.pairwise_cons.mpr ⟨fun f hf => ?_, hrest⟩
          exact heq ▸ hhead f hf
        · rename_i hge hne
          refine List.pairwise_cons.mpr ⟨fun f hf => ?_, ih hrest⟩
          rcases of_mem_place hf with rfl | hf
          · rcases Std.lt_trichotomy key e.1 with h' | h' | h'
            · exact absurd h' hge
            · exact absurd h' hne
            · exact h'
          · exact hhead f hf

def insert (m : SortedMap κ α) (key : κ) (value : α) : SortedMap κ α :=
  ⟨place key value m.entries, place_sorted key value m.sorted⟩

def ofList (entries : List (κ × α)) : SortedMap κ α :=
  entries.foldl (fun m e => m.insert e.1 e.2) empty

theorem get?_insert (m : SortedMap κ α) (key other : κ) (value : α) :
    (m.insert key value).get? other = if key = other then some value else m.get? other :=
  find_place key other value m.entries

end SortedMap
end SiteGuard
