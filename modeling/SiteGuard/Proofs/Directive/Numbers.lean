import Mathlib.Data.Finset.Card
import Mathlib.Data.List.Forall2
import Mathlib.Logic.Function.Iterate
import SiteGuard.Directive
import SiteGuard.Proofs.SortedMap

/-!
# Numbers of directives

The numbers of rules form a ring.  As long as one of them is free, walking the
ring from any place comes upon the first free one, so directives that are
numbered in turn get distinct numbers.
-/

namespace SiteGuard
namespace Directive

/-! ## The ring of numbers -/

def IsRuleId (id : UInt32) : Prop :=
  firstId ≤ id.toNat ∧ id.toNat < firstId + idCount

instance (id : UInt32) : Decidable (IsRuleId id) :=
  inferInstanceAs (Decidable (_ ∧ _))

theorem toNat_idOf (ruleId : String) :
    (idOf ruleId).toNat = firstId + (rollingHash ruleId).toNat % idCount := by
  have hmod : (rollingHash ruleId).toNat % idCount < idCount := Nat.mod_lt _ (by decide)
  unfold idOf
  exact UInt32.toNat_ofNat_of_lt' (Nat.lt_trans (Nat.add_lt_add_left hmod firstId) (by decide))

theorem idOf_isRuleId (ruleId : String) : IsRuleId (idOf ruleId) := by
  have hmod : (rollingHash ruleId).toNat % idCount < idCount := Nat.mod_lt _ (by decide)
  unfold IsRuleId
  rw [toNat_idOf]
  omega

theorem IsRuleId.ne_catchAllId {id : UInt32} (h : IsRuleId id) : id ≠ catchAllId := by
  rintro rfl
  exact absurd h.1 (by decide)

theorem toNat_nextId {id : UInt32} (h : IsRuleId id) :
    (nextId id).toNat = firstId + (id.toNat - firstId + 1) % idCount := by
  rcases h with ⟨hlow, hhigh⟩
  unfold nextId
  split
  · rename_i hlast
    have hid : id.toNat = firstId + (idCount - 1) := by
      unfold firstId idCount at *
      omega
    rw [hid]
    rfl
  · rename_i hinner
    unfold firstId idCount at *
    rw [UInt32.toNat_add, UInt32.toNat_one]
    omega

theorem nextId_isRuleId {id : UInt32} (h : IsRuleId id) : IsRuleId (nextId id) := by
  have hmod : (id.toNat - firstId + 1) % idCount < idCount := Nat.mod_lt _ (by decide)
  unfold IsRuleId
  rw [toNat_nextId h]
  omega

theorem iterate_nextId_isRuleId {id : UInt32} (h : IsRuleId id) (k : Nat) :
    IsRuleId (nextId^[k] id) := by
  induction k generalizing id with
  | zero =>
      exact h
  | succ k ih =>
      exact ih (nextId_isRuleId h)

theorem toNat_iterate_nextId {id : UInt32} (h : IsRuleId id) (k : Nat) :
    (nextId^[k] id).toNat = firstId + (id.toNat - firstId + k) % idCount := by
  induction k generalizing id with
  | zero =>
      rcases h with ⟨hlow, hhigh⟩
      rw [Function.iterate_zero_apply, Nat.add_zero, Nat.mod_eq_of_lt (by omega)]
      omega
  | succ k ih =>
      rw [Function.iterate_succ_apply, ih (nextId_isRuleId h), toNat_nextId h,
        Nat.add_sub_cancel_left, Nat.mod_add_mod, Nat.add_assoc _ 1 k, Nat.add_comm 1 k]

theorem toNat_iterate_idOf (ruleId : String) (k : Nat) :
    (nextId^[k] (idOf ruleId)).toNat =
      firstId + ((rollingHash ruleId).toNat + k) % idCount := by
  rw [toNat_iterate_nextId (idOf_isRuleId ruleId), toNat_idOf, Nat.add_sub_cancel_left,
    Nat.mod_add_mod]

theorem iterate_nextId_injOn {id : UInt32} (h : IsRuleId id) {n : Nat} (hn : n ≤ idCount) :
    Set.InjOn (fun k => nextId^[k] id) (Finset.range n) := by
  intro j hj k hk heq
  rw [Finset.coe_range, Set.mem_Iio] at hj hk
  have htoNat : (nextId^[j] id).toNat = (nextId^[k] id).toNat := by
    exact congrArg UInt32.toNat heq
  rw [toNat_iterate_nextId h, toNat_iterate_nextId h] at htoNat
  unfold firstId idCount at *
  omega

/-! ## The first free number -/

/-- The first number from a given one on that is not taken. -/
def FirstFree (taken : List UInt32) (id free : UInt32) : Prop :=
  ∃ k, nextId^[k] id = free ∧ free ∉ taken ∧ ∀ j, j < k → nextId^[j] id ∈ taken

theorem FirstFree.not_mem {taken : List UInt32} {id free : UInt32}
    (h : FirstFree taken id free) : free ∉ taken := by
  rcases h with ⟨_, _, hfree, _⟩
  exact hfree

theorem FirstFree.isRuleId {taken : List UInt32} {id free : UInt32}
    (h : FirstFree taken id free) (hid : IsRuleId id) : IsRuleId free := by
  rcases h with ⟨k, rfl, _, _⟩
  exact iterate_nextId_isRuleId hid k

theorem FirstFree.congr {taken taken' : List UInt32} {id free : UInt32}
    (h : FirstFree taken id free) (hsame : ∀ x, x ∈ taken ↔ x ∈ taken') :
    FirstFree taken' id free := by
  rcases h with ⟨k, hk, hfree, hbefore⟩
  refine ⟨k, hk, ?_, ?_⟩
  · intro hmem
    exact hfree ((hsame free).mpr hmem)
  · intro j hj
    exact (hsame _).mp (hbefore j hj)

theorem freeId_firstFree_of_free {taken : List UInt32} {fuel k : Nat} {id : UInt32}
    (hk : k ≤ fuel) (hfree : nextId^[k] id ∉ taken) :
    FirstFree taken id (freeId taken fuel id) := by
  induction fuel generalizing id k with
  | zero =>
      obtain rfl : k = 0 := Nat.le_zero.mp hk
      exact ⟨0, rfl, hfree, fun j hj => absurd hj (Nat.not_lt_zero j)⟩
  | succ fuel ih =>
      unfold freeId
      split
      · rename_i htaken
        have hmem : id ∈ taken := List.contains_iff_mem.mp htaken
        cases k with
        | zero =>
            exact absurd hmem hfree
        | succ k =>
            rcases ih (Nat.le_of_succ_le_succ hk) hfree with ⟨m, hm, hnot, hbefore⟩
            refine ⟨m + 1, hm, hnot, ?_⟩
            intro j hj
            cases j with
            | zero =>
                exact hmem
            | succ j =>
                exact hbefore j (Nat.lt_of_succ_lt_succ hj)
      · rename_i hnot
        refine ⟨0, rfl, ?_, fun j hj => absurd hj (Nat.not_lt_zero j)⟩
        intro hmem
        exact hnot (List.contains_iff_mem.mpr hmem)

def usedIds (taken : List UInt32) : Finset UInt32 :=
  taken.toFinset.filter IsRuleId

theorem card_usedIds_le (taken : List UInt32) : (usedIds taken).card ≤ taken.length :=
  Nat.le_trans (Finset.card_filter_le _ _) (List.toFinset_card_le taken)

theorem card_usedIds_cons_le (id : UInt32) (taken : List UInt32) :
    (usedIds (id :: taken)).card ≤ (usedIds taken).card + 1 := by
  unfold usedIds
  rw [List.toFinset_cons, Finset.filter_insert]
  split
  · exact Finset.card_insert_le _ _
  · exact Nat.le_succ _

theorem exists_free {taken : List UInt32} {id : UInt32} (hid : IsRuleId id)
    (hroom : (usedIds taken).card < idCount) :
    ∃ k, k ≤ (usedIds taken).card ∧ nextId^[k] id ∉ taken := by
  by_contra hnone
  have htaken : ∀ k, k ≤ (usedIds taken).card → nextId^[k] id ∈ taken := by
    intro k hk
    by_contra hfree
    exact hnone ⟨k, hk, hfree⟩
  have hsubset : (Finset.range ((usedIds taken).card + 1)).image (fun k => nextId^[k] id) ⊆
      usedIds taken := by
    intro free hmem
    rcases Finset.mem_image.mp hmem with ⟨k, hk, rfl⟩
    rw [Finset.mem_range] at hk
    have hin : nextId^[k] id ∈ taken := htaken k (Nat.le_of_lt_succ hk)
    exact Finset.mem_filter.mpr
      ⟨List.mem_toFinset.mpr hin, iterate_nextId_isRuleId hid k⟩
  have hcard := Finset.card_le_card hsubset
  rw [Finset.card_image_of_injOn (iterate_nextId_injOn hid hroom), Finset.card_range] at hcard
  exact absurd hcard (Nat.not_succ_le_self _)

theorem freeId_firstFree {taken : List UInt32} {id : UInt32} (hid : IsRuleId id)
    (hroom : (usedIds taken).card < idCount) :
    FirstFree taken id (freeId taken (taken.length + 1) id) := by
  rcases exists_free hid hroom with ⟨k, hk, hfree⟩
  have hle : k ≤ taken.length + 1 :=
    Nat.le_succ_of_le (Nat.le_trans hk (card_usedIds_le taken))
  exact freeId_firstFree_of_free hle hfree

/-! ## Numbering in turn -/

def SameButId (d e : Directive) : Prop :=
  e = { d with id := e.id }

theorem SameButId.priority {d e : Directive} (h : SameButId d e) : e.priority = d.priority := by
  rw [h]

theorem SameButId.action {d e : Directive} (h : SameButId d e) : e.action = d.action := by
  rw [h]

theorem SameButId.condition {d e : Directive} (h : SameButId d e) :
    e.condition = d.condition := by
  rw [h]

theorem renumber_cons (taken : List UInt32) (d : Directive) (rest : List Directive) :
    renumber taken (d :: rest) =
      { d with id := freeId taken (taken.length + 1) d.id } ::
        renumber (freeId taken (taken.length + 1) d.id :: taken) rest :=
  rfl

theorem renumber_sameButId (taken : List UInt32) (ds : List Directive) :
    List.Forall₂ SameButId ds (renumber taken ds) := by
  induction ds generalizing taken with
  | nil =>
      exact .nil
  | cons d rest ih =>
      exact .cons rfl (ih _)

theorem exists_mem_of_mem_renumbered {ds es : List Directive} {e : Directive}
    (h : List.Forall₂ SameButId ds es) (he : e ∈ es) : ∃ d ∈ ds, SameButId d e := by
  induction h with
  | nil =>
      cases he
  | cons hsame _ ih =>
      rcases List.mem_cons.mp he with rfl | he
      · exact ⟨_, List.mem_cons_self, hsame⟩
      · rcases ih he with ⟨d, hd, hde⟩
        exact ⟨d, List.mem_cons_of_mem _ hd, hde⟩

theorem exists_renumbered_of_mem {ds es : List Directive} {d : Directive}
    (h : List.Forall₂ SameButId ds es) (hd : d ∈ ds) : ∃ e ∈ es, SameButId d e := by
  induction h with
  | nil =>
      cases hd
  | cons hsame _ ih =>
      rcases List.mem_cons.mp hd with rfl | hd
      · exact ⟨_, List.mem_cons_self, hsame⟩
      · rcases ih hd with ⟨e, he, hde⟩
        exact ⟨e, List.mem_cons_of_mem _ he, hde⟩

theorem renumber_ids {taken : List UInt32} {ds : List Directive}
    (hids : ∀ d ∈ ds, IsRuleId d.id) (hroom : (usedIds taken).card + ds.length ≤ idCount) :
    ((renumber taken ds).map (·.id)).Nodup ∧
      ∀ d ∈ renumber taken ds, IsRuleId d.id ∧ d.id ∉ taken := by
  induction ds generalizing taken with
  | nil =>
      exact ⟨List.nodup_nil, fun d hd => absurd hd List.not_mem_nil⟩
  | cons d rest ih =>
      rw [List.length_cons] at hroom
      have hid : IsRuleId d.id := hids d List.mem_cons_self
      have hfirst : FirstFree taken d.id (freeId taken (taken.length + 1) d.id) :=
        freeId_firstFree hid (by omega)
      have hused := card_usedIds_cons_le (freeId taken (taken.length + 1) d.id) taken
      have hroom' : (usedIds (freeId taken (taken.length + 1) d.id :: taken)).card +
          rest.length ≤ idCount := by omega
      rcases ih (fun e he => hids e (List.mem_cons_of_mem _ he)) hroom' with ⟨hnodup, hrest⟩
      rw [renumber_cons]
      constructor
      · refine List.nodup_cons.mpr ⟨?_, hnodup⟩
        intro hmem
        rcases List.mem_map.mp hmem with ⟨e, he, heq⟩
        exact (hrest e he).2 (heq ▸ List.mem_cons_self)
      · intro e he
        rcases List.mem_cons.mp he with rfl | he
        · exact ⟨hfirst.isRuleId hid, hfirst.not_mem⟩
        · rcases hrest e he with ⟨hrule, hnot⟩
          exact ⟨hrule, fun hmem => hnot (List.mem_cons_of_mem _ hmem)⟩

/-- Each number is the first that is free of those taken and of those given before. -/
theorem renumber_firstFree {taken : List UInt32} {ds : List Directive}
    (hids : ∀ d ∈ ds, IsRuleId d.id) (hroom : (usedIds taken).card + ds.length ≤ idCount)
    {i : Nat} {d : Directive} (hd : ds[i]? = some d) :
    ∃ e, (renumber taken ds)[i]? = some e ∧ SameButId d e ∧
      FirstFree (taken ++ ((renumber taken ds).take i).map (·.id)) d.id e.id := by
  induction ds generalizing taken i with
  | nil =>
      cases hd
  | cons first rest ih =>
      rw [List.length_cons] at hroom
      have hfirst : FirstFree taken first.id (freeId taken (taken.length + 1) first.id) :=
        freeId_firstFree (hids first List.mem_cons_self) (by omega)
      cases i with
      | zero =>
          cases hd
          refine ⟨_, rfl, rfl, ?_⟩
          rw [List.take_zero, List.map_nil, List.append_nil]
          exact hfirst
      | succ i =>
          have hused := card_usedIds_cons_le (freeId taken (taken.length + 1) first.id) taken
          have hrest : (usedIds (freeId taken (taken.length + 1) first.id :: taken)).card +
              rest.length ≤ idCount := by
            omega
          rcases ih (fun e he => hids e (List.mem_cons_of_mem _ he)) hrest hd with
            ⟨e, he, hsame, hfree⟩
          refine ⟨e, he, hsame, hfree.congr ?_⟩
          intro x
          rw [renumber_cons, List.take_succ_cons, List.map_cons, List.mem_append, List.mem_append,
            List.mem_cons, List.mem_cons, or_assoc, or_left_comm]

theorem renumber_isPrefix (taken : List UInt32) (ds more : List Directive) :
    renumber taken ds <+: renumber taken (ds ++ more) := by
  induction ds generalizing taken with
  | nil =>
      exact List.nil_prefix
  | cons d rest ih =>
      exact (List.prefix_cons_inj _).mpr (ih _)

theorem renumberAll_taken (taken : List UInt32) (ds : List Directive) :
    (renumberAll taken ds).2 = ((renumber taken ds).map (·.id)).reverse ++ taken := by
  induction ds generalizing taken with
  | nil =>
      rfl
  | cons d rest ih =>
      rw [renumber_cons, List.map_cons, List.reverse_cons, List.append_assoc]
      exact ih (freeId taken (taken.length + 1) d.id :: taken)

/-! ## Directives of rules -/

section OfRules

variable {interstitial : Url} {priority : UInt32} {taken : List UInt32} {rules : List Rule}

theorem ofRules_ids (hroom : (usedIds taken).card + rules.length ≤ idCount) :
    ((ofRules interstitial priority taken rules).map (·.id)).Nodup ∧
      ∀ d ∈ ofRules interstitial priority taken rules, IsRuleId d.id ∧ d.id ∉ taken := by
  apply renumber_ids
  · intro d hd
    rcases List.mem_map.mp hd with ⟨r, _, rfl⟩
    exact idOf_isRuleId r.id
  · rw [List.length_map]
    exact hroom

theorem exists_rule_of_mem_ofRules {d : Directive}
    (h : d ∈ ofRules interstitial priority taken rules) :
    ∃ r ∈ rules, SameButId (ofRule interstitial priority r) d := by
  rcases exists_mem_of_mem_renumbered (renumber_sameButId taken _) h with ⟨e, he, hsame⟩
  rcases List.mem_map.mp he with ⟨r, hr, rfl⟩
  exact ⟨r, hr, hsame⟩

theorem exists_mem_ofRules_of_rule {r : Rule} (h : r ∈ rules) :
    ∃ d ∈ ofRules interstitial priority taken rules,
      SameButId (ofRule interstitial priority r) d :=
  exists_renumbered_of_mem (renumber_sameButId taken _) (List.mem_map_of_mem h)

theorem mem_compileAll_taken {id : UInt32} :
    id ∈ (compileAll interstitial priority taken rules).2 ↔
      id ∈ taken ∨ id ∈ (ofRules interstitial priority taken rules).map (·.id) := by
  unfold ofRules compileAll
  rw [renumberAll_taken, List.mem_append, List.mem_reverse, or_comm]
  rfl

end OfRules

end Directive
end SiteGuard
