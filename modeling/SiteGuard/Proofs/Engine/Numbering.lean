import SiteGuard.Proofs.Engine.Order
import SiteGuard.Proofs.Steps

/-!
# Numbers that never clash

Rules whose ids ask for one number get different ones, each by a search that ends.
So nothing is planned twice under one number, and no pass can fail on that account.
-/

namespace SiteGuard
namespace Engine

open Calendar

/-! ## Passes -/

section Duplicates

variable {e : Engine} {id : UInt32}

theorem installed_ne_duplicate (e : Engine) (id : UInt32) :
    e.installed ≠ .error (.interception (.duplicateId id)) := by
  intro h
  unfold installed at h
  split at h
  · cases h
  · unfold DirectiveTable.installed at h
    split at h
    · cases h
    · split at h
      · cases h
      · cases h

theorem not_nodup_of_replaced {delta : Delta}
    (h : e.replaced delta = .error (.interception (.duplicateId id))) :
    ¬(delta.add.map (·.id)).Nodup := by
  unfold replaced at h
  split at h
  · cases h
  · cases hreplace : e.table.replace delta.remove delta.add with
    | error f =>
        rw [hreplace] at h
        cases h
        exact DirectiveTable.not_nodup_of_replace hreplace
    | ok table =>
        rw [hreplace] at h
        cases h

theorem not_nodup_of_install {wanted : List Directive} {reason : String}
    (h : e.install wanted reason = .error (.interception (.duplicateId id))) :
    ¬(wanted.map (·.id)).Nodup := by
  unfold install at h
  rcases bind_eq_error h with hinstalled | ⟨before, _, h⟩
  · exact absurd hinstalled (installed_ne_duplicate e id)
  · dsimp only at h
    split at h
    · cases h
    · rcases bind_eq_error h with hreplaced | ⟨_, _, h⟩
      · intro hnodup
        exact not_nodup_of_replaced hreplaced (hnodup.sublist (List.filter_sublist.map _))
      · cases h

theorem pass_ne_duplicate {now : Moment}
    (hroom : (e.settings.rulesInForce now e.suspendedRules).length ≤ Directive.idCount)
    (reason : String) (id : UInt32) :
    (e.pass now reason).1 ≠ .error (.interception (.duplicateId id)) := by
  have hnodup : ((e.planned now).map (·.id)).Nodup := Settings.plan_ids_nodup hroom
  intro h
  unfold pass at h
  rw [wanted_eq_planned] at h
  cases hinstall : (e.purged now.instant).install (e.planned now) reason with
  | error f =>
      simp only [hinstall, Except.error.injEq] at h
      subst h
      exact not_nodup_of_install hinstall hnodup
  | ok result =>
      simp only [hinstall] at h
      cases h

end Duplicates

/-! ## Numbering -/

open Directive in
/--
As long as there are numbers enough, the search for the number of a rule ends at
the first one, from that which its id asks for on and around the ring, that neither
was taken nor has gone to an earlier rule.  A rule that comes later changes nothing
for those before it, and neither plans nor passes ever meet a number twice.
-/
theorem rules_numbered_in_turn {taken : List UInt32} {rules : List Rule}
    (hroom : rules.length + (usedIds taken).card ≤ idCount) (interstitial : Url)
    (priority : UInt32) :
    let ds := ofRules interstitial priority taken rules
    ds.length = rules.length ∧
      (∀ (i : Nat) (r : Rule), rules[i]? = some r →
        ∃ d, ds[i]? = some d ∧ d = { ofRule interstitial priority r with id := d.id } ∧
          FirstFree (taken ++ (ds.take i).map (·.id)) (idOf r.id) d.id) ∧
      (∀ (ruleId : String) (k : Nat), (nextId^[k] (idOf ruleId)).toNat =
        firstId + ((rollingHash ruleId).toNat + k) % idCount) ∧
      (ds.map (·.id)).Nodup ∧
      (∀ d ∈ ds, d.id ∉ taken ∧ firstId ≤ d.id.toNat ∧ d.id.toNat < firstId + idCount) ∧
      (∀ id, id ∈ (compileAll interstitial priority taken rules).2 ↔
        id ∈ taken ∨ id ∈ ds.map (·.id)) ∧
      (∀ more, ds <+: ofRules interstitial priority taken (rules ++ more)) ∧
      (∀ (s : Settings) (now : Moment) (suspended : List String), s.rules.length ≤ idCount →
        ((s.plan now suspended interstitial).map (·.id)).Nodup) ∧
      ∀ (e : Engine) (now : Moment) (reason : String) (id : UInt32),
        e.settings.rules.length ≤ idCount →
          (e.pass now reason).1 ≠ .error (.interception (.duplicateId id)) := by
  intro ds
  have hids : ∀ d ∈ rules.map (ofRule interstitial priority), IsRuleId d.id := by
    intro d hd
    rcases List.mem_map.mp hd with ⟨r, _, rfl⟩
    exact idOf_isRuleId r.id
  have hroom' : (usedIds taken).card + rules.length ≤ idCount := by
    rw [Nat.add_comm]
    exact hroom
  have hsame : List.Forall₂ SameButId (rules.map (ofRule interstitial priority)) ds :=
    renumber_sameButId taken _
  rcases @ofRules_ids interstitial priority taken rules hroom' with ⟨hnodup, hfresh⟩
  refine ⟨?_, ?_, toNat_iterate_idOf, hnodup, ?_, fun _ => mem_compileAll_taken, ?_, ?_, ?_⟩
  · rw [← hsame.length_eq, List.length_map]
  · intro i r hr
    have hasked : (rules.map (ofRule interstitial priority))[i]? =
        some (ofRule interstitial priority r) := by
      rw [List.getElem?_map, hr, Option.map_some]
    have hlength : (usedIds taken).card + (rules.map (ofRule interstitial priority)).length ≤
        idCount := by
      rw [List.length_map]
      exact hroom'
    exact renumber_firstFree hids hlength hasked
  · intro d hd
    rcases hfresh d hd with ⟨hrule, hnot⟩
    exact ⟨hnot, hrule.1, hrule.2⟩
  · intro more
    show ds <+: renumber taken ((rules ++ more).map (ofRule interstitial priority))
    rw [List.map_append]
    exact renumber_isPrefix taken _ _
  · intro s now suspended hrules
    exact Settings.plan_ids_nodup (Nat.le_trans Settings.length_rulesInForce_le hrules)
  · intro e now reason id hrules
    exact pass_ne_duplicate (Nat.le_trans Settings.length_rulesInForce_le hrules) reason id

/-- The second of two twins gets the next number but one, as the next one is taken. -/
theorem twins_numbered :
    twins.length + (Directive.usedIds [3113]).card ≤ Directive.idCount ∧
      Directive.idOf "Aa" = 3112 ∧ Directive.idOf "BB" = 3112 ∧
      (Directive.ofRules (listing twins).interstitial 10 [3113] twins).map (·.id) =
        [3112, 3114] ∧
      Directive.FirstFree [3113, 3112] 3112 3114 ∧
      (((listing twins).settings.plan dawn [] (listing twins).interstitial).map (·.id)).Nodup ∧
      ∀ id, ((listing twins).pass dawn "boot").1 ≠ .error (.interception (.duplicateId id)) := by
  have hroom : twins.length + (Directive.usedIds [3113]).card ≤ Directive.idCount := by
    have hused := Directive.card_usedIds_le [3113]
    exact Nat.le_trans (Nat.add_le_add_left hused _) (by decide)
  have hids : (Directive.ofRules (listing twins).interstitial 10 [3113] twins).map (·.id) =
      [3112, 3114] := by
    decide +kernel
  rcases rules_numbered_in_turn hroom (listing twins).interstitial 10 with
    ⟨_, hfirst, _, _, _, _, _, hplan, hpass⟩
  rcases hfirst 1 _ rfl with ⟨d, hd, _, hfree⟩
  have hid : d.id = 3114 := by
    have hsecond := congrArg (·[1]?) hids
    rw [List.getElem?_map, hd] at hsecond
    exact Option.some.inj hsecond
  have hearlier : ((Directive.ofRules (listing twins).interstitial 10 [3113] twins).take 1).map
      (·.id) = [3112] := by
    rw [List.map_take, hids]
    rfl
  rw [hearlier, hid] at hfree
  exact ⟨hroom, by decide, by decide, hids, hfree, hplan _ dawn [] (by decide),
    fun id => hpass _ dawn "boot" id (by decide)⟩

end Engine
end SiteGuard
