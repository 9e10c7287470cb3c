import SiteGuard.Proofs.Directive.Verdict
import SiteGuard.Proofs.Plan

/-!
# The order of rules

Rules in another order take their numbers in another order, so directives whose
numbers collide may change places.  Apart from numbers the plan is the same, and
numbers have no part in the kind of a verdict.
-/

namespace SiteGuard

open Calendar

/-! ## Kinds of verdicts -/

/-- What becomes of a page, whichever directive decides. -/
inductive VerdictKind where
  | proceed
  | allowed
  | redirect
  deriving DecidableEq, Repr

def Verdict.kind : Verdict → VerdictKind
  | proceed => .proceed
  | allowed _ => .allowed
  | redirect _ _ => .redirect

namespace Directive

theorem SameButId.of_common {d e f : Directive} (he : SameButId d e) (hf : SameButId d f) :
    SameButId e f := by
  unfold SameButId at *
  rw [hf, he]

/-- Each directive of either list is in the other one, except perhaps for its number. -/
structure Alike (ds es : List Directive) : Prop where
  left : ∀ d ∈ ds, ∃ e ∈ es, SameButId d e
  right : ∀ e ∈ es, ∃ d ∈ ds, SameButId e d

theorem SameButId.yieldsTo_eq {d e : Directive} (h : SameButId d e) (f : Directive) :
    e.yieldsTo f = d.yieldsTo f := by
  unfold yieldsTo
  rw [h.priority, h.action]

theorem isAllow_eq_of_yieldsTo {d e : Directive} (hde : d.yieldsTo e = true)
    (hed : e.yieldsTo d = true) : d.action.isAllow = e.action.isAllow := by
  have hpriority : d.priority = e.priority :=
    UInt32.le_antisymm (priority_le_of_yieldsTo hde) (priority_le_of_yieldsTo hed)
  have hless : ¬d.priority < d.priority := UInt32.lt_irrefl _
  rw [yieldsTo_iff, ← hpriority] at hde hed
  exact Bool.eq_iff_iff.mpr
    ⟨(hde.resolve_left hless).2, (hed.resolve_left hless).2⟩

theorem kind_verdict (d : Directive) (url : String) :
    (d.verdict url).kind = if d.action.isAllow then .allowed else .redirect := by
  unfold verdict
  cases d.action with
  | allow =>
      rfl
  | redirect target =>
      rfl

end Directive

open Directive in
theorem Verdict.kind_of_alike {ds es : List Directive} (h : Alike ds es) (url : String) :
    (of ds url).kind = (of es url).kind := by
  rcases of_cases ds url with ⟨hproceed, hnone⟩ | ⟨w, hw, hjudged⟩
  · have hnone' : ∀ e ∈ es, e.condition.holds url = false := by
      intro e he
      rcases h.right e he with ⟨d, hd, hsame⟩
      rw [← hsame.condition]
      exact hnone d hd
    rw [hproceed, of_eq_proceed_iff.mpr hnone']
  · rcases h.left w hw.mem with ⟨e, he, hsame⟩
    have hholds : e.condition.holds url = true := by
      rw [hsame.condition]
      exact hw.holds
    rcases exists_decides he hholds with ⟨v, hv, hjudged'⟩
    rcases h.right v hv.mem with ⟨d, hd, hsame'⟩
    have hwv : w.yieldsTo v = true := by
      rw [← hsame.yieldsTo_eq]
      exact hv.strongest e he hholds
    have hvw : v.yieldsTo w = true := by
      rw [← hsame'.yieldsTo_eq]
      apply hw.strongest d hd
      rw [hsame'.condition]
      exact hv.holds
    rw [hjudged, hjudged', kind_verdict, kind_verdict, isAllow_eq_of_yieldsTo hwv hvw]

/-! ## Numbers without collisions -/

namespace Directive

theorem freeId_of_free {taken : List UInt32} {id : UInt32} (h : id ∉ taken) (fuel : Nat) :
    freeId taken fuel id = id := by
  cases fuel with
  | zero =>
      rfl
  | succ fuel =>
      unfold freeId
      rw [if_neg]
      rw [List.contains_iff_mem]
      exact h

theorem renumber_eq_self {taken : List UInt32} {ds : List Directive}
    (hnodup : (ds.map (·.id)).Nodup) (hfree : ∀ d ∈ ds, d.id ∉ taken) :
    renumber taken ds = ds := by
  induction ds generalizing taken with
  | nil =>
      rfl
  | cons d rest ih =>
      rcases List.nodup_cons.mp hnodup with ⟨hnew, hrest⟩
      have hid : freeId taken (taken.length + 1) d.id = d.id :=
        freeId_of_free (hfree d List.mem_cons_self) _
      have hfree' : ∀ e ∈ rest, e.id ∉ d.id :: taken := by
        intro e he hmem
        rcases List.mem_cons.mp hmem with hsame | hmem
        · exact hnew (List.mem_map.mpr ⟨e, he, hsame⟩)
        · exact hfree e (List.mem_cons_of_mem d he) hmem
      rw [renumber_cons, hid, ih hrest hfree']

/-- Where no two rules ask for one number, each of them gets the number that it asks for. -/
theorem ofRules_eq_map {interstitial : Url} {priority : UInt32} {taken : List UInt32}
    {rules : List Rule} (hnodup : (rules.map fun r => idOf r.id).Nodup)
    (hreserved : ∀ id ∈ taken, ¬IsRuleId id) :
    ofRules interstitial priority taken rules = rules.map (ofRule interstitial priority) := by
  apply renumber_eq_self
  · rw [List.map_map]
    exact hnodup
  · intro d hd hmem
    rcases List.mem_map.mp hd with ⟨r, _, rfl⟩
    exact hreserved _ hmem (idOf_isRuleId r.id)

theorem ofRules_perm {interstitial : Url} {priority : UInt32} {taken : List UInt32}
    {rules rules' : List Rule} (h : rules.Perm rules')
    (hnodup : (rules.map fun r => idOf r.id).Nodup)
    (hreserved : ∀ id ∈ taken, ¬IsRuleId id) :
    (ofRules interstitial priority taken rules).Perm
      (ofRules interstitial priority taken rules') := by
  have hnodup' : (rules'.map fun r => idOf r.id).Nodup := (h.map _).nodup_iff.mp hnodup
  rw [ofRules_eq_map hnodup hreserved, ofRules_eq_map hnodup' hreserved]
  exact h.map _

end Directive

/-! ## Plans -/

namespace Settings

/-- The same settings, with the rules in any order. -/
structure Reordered (s s' : Settings) : Prop where
  rest : s' = { s with rules := s'.rules }
  rules : s.rules.Perm s'.rules

theorem Reordered.symm {s s' : Settings} (h : s.Reordered s') : s'.Reordered s := by
  constructor
  · rw [h.rest]
  · exact h.rules.symm

theorem Reordered.enabled {s s' : Settings} (h : s.Reordered s') : s'.enabled = s.enabled := by
  rw [h.rest]

theorem Reordered.allowlistMode {s s' : Settings} (h : s.Reordered s') :
    s'.allowlistMode = s.allowlistMode := by
  rw [h.rest]

section Plans

variable {s s' : Settings} {now : Moment} {suspended suspended' : List String}
variable {interstitial : Url}

theorem plan_of_same_suspended (h : ∀ id, id ∈ suspended ↔ id ∈ suspended') :
    s.plan now suspended interstitial = s.plan now suspended' interstitial := by
  have hcontains : ∀ id, suspended.contains id = suspended'.contains id := by
    intro id
    rw [Bool.eq_iff_iff, List.contains_iff_mem, List.contains_iff_mem]
    exact h id
  unfold plan blockingRules allowingRules
  simp only [hcontains]

theorem Reordered.blockingRules (h : s.Reordered s') (now : Moment) (suspended : List String) :
    (s.blockingRules now suspended).Perm (s'.blockingRules now suspended) := by
  unfold Settings.blockingRules
  rw [h.rest]
  exact h.rules.filter _

theorem Reordered.allowingRules (h : s.Reordered s') (suspended : List String) :
    (s.allowingRules suspended).Perm (s'.allowingRules suspended) :=
  h.rules.filter _

theorem Reordered.rulesInForce (h : s.Reordered s') (now : Moment) (suspended : List String) :
    (s.rulesInForce now suspended).Perm (s'.rulesInForce now suspended) := by
  unfold Settings.rulesInForce
  rw [h.enabled, h.allowlistMode]
  split
  · exact List.Perm.nil
  · split
    · exact h.allowingRules suspended
    · exact h.blockingRules now suspended

theorem Reordered.exists_like (h : s.Reordered s') {d : Directive}
    (hd : d ∈ s.plan now suspended interstitial) :
    ∃ e ∈ s'.plan now suspended interstitial, Directive.SameButId d e := by
  have henabled := h.enabled
  have hmode := h.allowlistMode
  cases hon : s.enabled with
  | false =>
      rw [plan_disabled hon] at hd
      cases hd
  | true =>
      rw [hon] at henabled
      cases hallow : s.allowlistMode with
      | false =>
          rw [hallow] at hmode
          rcases exists_rule_of_mem_blocklist hon hallow hd with ⟨r, hr, hsame⟩
          have hr' := (h.blockingRules now suspended).mem_iff.mp hr
          rcases exists_mem_blocklist_of_rule henabled hmode hr' with ⟨e, he, hsame'⟩
          exact ⟨e, he, hsame.of_common hsame'⟩
      | true =>
          rw [hallow] at hmode
          rw [plan_allowlist hon hallow] at hd
          rcases List.mem_append.mp hd with hcaught | hrule
          · have hkept := (mem_caughtAll.mp hcaught).2
            rw [(mem_caughtAll.mp hcaught).1]
            exact ⟨_, catchAll_mem_allowlist henabled hmode hkept, rfl⟩
          · rcases Directive.exists_rule_of_mem_ofRules hrule with ⟨r, hr, hsame⟩
            have hr' := (h.allowingRules suspended).mem_iff.mp hr
            rcases exists_mem_allowlist_of_rule henabled hmode hr' with ⟨e, he, hsame'⟩
            exact ⟨e, he, hsame.of_common hsame'⟩

theorem Reordered.alike (h : s.Reordered s') (now : Moment) (suspended : List String)
    (interstitial : Url) :
    Directive.Alike (s.plan now suspended interstitial) (s'.plan now suspended interstitial) := by
  constructor
  · intro d hd
    exact h.exists_like hd
  · intro e he
    exact h.symm.exists_like he

/-- Where no two rules ask for one number, the plan has the same directives in any order. -/
theorem Reordered.plan_perm (h : s.Reordered s')
    (hnumbers : (s.rules.map fun r => Directive.idOf r.id).Nodup) :
    (s.plan now suspended interstitial).Perm (s'.plan now suspended interstitial) := by
  have henabled := h.enabled
  have hmode := h.allowlistMode
  cases hon : s.enabled with
  | false =>
      rw [hon] at henabled
      rw [plan_disabled hon, plan_disabled henabled]
  | true =>
      rw [hon] at henabled
      cases hallow : s.allowlistMode with
      | false =>
          rw [hallow] at hmode
          have hblocking : (s.blockingRules now suspended).Sublist s.rules :=
            List.filter_sublist
          rw [plan_blocklist hon hallow, plan_blocklist henabled hmode]
          apply Directive.ofRules_perm (h.blockingRules now suspended)
          · exact hnumbers.sublist (hblocking.map _)
          · intro id hid
            cases hid
      | true =>
          rw [hallow] at hmode
          have hallowing : (s.allowingRules suspended).Sublist s.rules :=
            List.filter_sublist
          rw [plan_allowlist hon hallow, plan_allowlist henabled hmode]
          apply List.Perm.append_left
          apply Directive.ofRules_perm (h.allowingRules suspended)
          · exact hnumbers.sublist (hallowing.map _)
          · intro id hid hrule
            rcases List.mem_map.mp hid with ⟨d, hd, rfl⟩
            rw [(mem_caughtAll.mp hd).1] at hrule
            exact hrule.ne_catchAllId rfl

end Plans

end Settings
end SiteGuard
