import SiteGuard.Proofs.Plan

/-!
# Exemptions

Suspensions and live overrides take rules out of a plan, and never put one in.  A
plan with more of either is the former one without the rules that are concerned,
though the directives of those that stay may get other numbers.  Overrides that are
not live count for nothing, and in an allowlist none does.
-/

namespace SiteGuard

open Calendar

/-! ## Live overrides -/

namespace Overrides

def Frees (o : Overrides) (now : Instant) (host : String) : Prop :=
  ∃ till, o.get? host = some till ∧ now < till

theorem mem_keys_live {o : Overrides} {now : Instant} {host : String} :
    host ∈ (o.live now).keys ↔ o.Frees now host := by
  unfold Frees live
  simp only [SortedMap.mem_keys, ← SortedMap.get?_eq_some_iff, SortedMap.get?_filter,
    Option.filter_eq_some_iff, decide_eq_true_eq]

end Overrides

namespace Rule

/--
Whether a rule is taken out by an override that has not run out, of the host that its
pattern names or of one whose home page it catches.
-/
def Shielded (r : Rule) (o : Overrides) (now : Instant) : Prop :=
  (∃ key, r.overrideKey? = some key ∧ o.Frees now key) ∨
    ∃ host, o.Frees now host ∧ r.catches (homePage host) = true

section Shields

variable {r : Rule} {o o' : Overrides} {now : Instant}

theorem isShielded_iff : r.isShielded o now = true ↔ r.Shielded o now := by
  unfold isShielded Shielded
  simp only [Bool.or_eq_true, List.any_eq_true, Overrides.mem_keys_live]
  cases r.overrideKey? with
  | none =>
      simp
  | some key =>
      simp only [List.contains_iff_mem, Overrides.mem_keys_live, Option.some.injEq,
        exists_eq_left']

instance (r : Rule) (o : Overrides) (now : Instant) : Decidable (r.Shielded o now) :=
  decidable_of_iff (r.isShielded o now = true) isShielded_iff

theorem Shielded.mono (hlive : ∀ host, o.Frees now host → o'.Frees now host)
    (h : r.Shielded o now) : r.Shielded o' now := by
  rcases h with ⟨key, hkey, hfrees⟩ | ⟨host, hfrees, hcatches⟩
  · exact Or.inl ⟨key, hkey, hlive key hfrees⟩
  · exact Or.inr ⟨host, hlive host hfrees, hcatches⟩

end Shields

end Rule

/-! ## Directives without their numbers -/

namespace Directive

def unnumbered (d : Directive) : Directive :=
  { d with id := 0 }

theorem SameButId.unnumbered_eq {d e : Directive} (h : SameButId d e) :
    e.unnumbered = d.unnumbered := by
  rw [h]
  rfl

theorem map_unnumbered_renumber (taken : List UInt32) (ds : List Directive) :
    (renumber taken ds).map unnumbered = ds.map unnumbered := by
  have hsame := renumber_sameButId taken ds
  generalize renumber taken ds = es at hsame
  induction hsame with
  | nil =>
      rfl
  | cons hhead _ ih =>
      rw [List.map_cons, List.map_cons, hhead.unnumbered_eq, ih]

theorem map_unnumbered_ofRules (interstitial : Url) (priority : UInt32) (taken : List UInt32)
    (rules : List Rule) :
    (ofRules interstitial priority taken rules).map unnumbered =
      rules.map fun r => (ofRule interstitial priority r).unnumbered := by
  unfold ofRules compileAll
  exact (map_unnumbered_renumber taken _).trans List.map_map

end Directive

/-! ## Plans -/

namespace Settings

/-- Other overrides in the same settings, among them all hosts that are let through before. -/
structure Eased (s s' : Settings) (now : Instant) : Prop where
  rest : s' = { s with overrides := s'.overrides }
  live : ∀ host, s.overrides.Frees now host → s'.overrides.Frees now host

section Plans

variable {s s' : Settings} {now : Moment} {suspended suspended' : List String}
variable {interstitial : Url}

theorem Eased.rules (h : s.Eased s' now.instant) : s'.rules = s.rules := by
  rw [h.rest]

theorem Eased.enabled (h : s.Eased s' now.instant) : s'.enabled = s.enabled := by
  rw [h.rest]

theorem Eased.allowlistMode (h : s.Eased s' now.instant) :
    s'.allowlistMode = s.allowlistMode := by
  rw [h.rest]

/-- What is exempt before is so afterwards, so the rules that stay are those that are not. -/
theorem Eased.blockingRules (h : s.Eased s' now.instant) (hsuspended : suspended ⊆ suspended') :
    s'.blockingRules now suspended' =
      (s.blockingRules now suspended).filter fun r =>
        r.id ∉ suspended' ∧ ¬r.Shielded s'.overrides now.instant := by
  unfold Settings.blockingRules
  rw [h.rules, List.filter_filter]
  apply List.filter_congr
  intro r _
  rw [Bool.eq_iff_iff]
  simp only [Bool.and_eq_true, Bool.not_eq_true', decide_eq_true_eq, List.contains_eq_mem,
    ← Bool.not_eq_true, Rule.isShielded_iff]
  constructor
  · intro hstays
    rcases hstays with ⟨⟨⟨hblock, hkept⟩, hactive⟩, hbare⟩
    exact ⟨⟨hkept, hbare⟩, ⟨⟨hblock, fun hmem => hkept (hsuspended hmem)⟩, hactive⟩,
      fun hshielded => hbare (hshielded.mono h.live)⟩
  · intro hstays
    rcases hstays with ⟨⟨hkept, hbare⟩, ⟨⟨hblock, _⟩, hactive⟩, _⟩
    exact ⟨⟨⟨hblock, hkept⟩, hactive⟩, hbare⟩

theorem Eased.rulesInForce (h : s.Eased s' now.instant) (hsuspended : suspended ⊆ suspended')
    (hmode : s.allowlistMode = false) :
    s'.rulesInForce now suspended' =
      (s.rulesInForce now suspended).filter fun r =>
        r.id ∉ suspended' ∧ ¬r.Shielded s'.overrides now.instant := by
  unfold Settings.rulesInForce
  rw [h.enabled, h.allowlistMode, hmode]
  cases s.enabled with
  | false =>
      rfl
  | true =>
      exact h.blockingRules hsuspended

theorem allowingRules_sublist (hsuspended : suspended ⊆ suspended') :
    (s.allowingRules suspended').Sublist (s.allowingRules suspended) := by
  apply List.monotone_filter_right
  intro r hr
  rw [Bool.and_eq_true, Bool.not_eq_true', List.contains_eq_mem, decide_eq_false_iff_not] at hr ⊢
  exact ⟨hr.1, fun hmem => hr.2 (hsuspended hmem)⟩

theorem caughtAll_sublist (hsuspended : suspended ⊆ suspended') :
    (caughtAll suspended' interstitial).Sublist (caughtAll suspended interstitial) := by
  unfold caughtAll
  split
  · exact List.nil_sublist _
  · rename_i hkept
    rw [List.contains_iff_mem] at hkept
    have hkept' : ¬suspended.contains Directive.catchAllRule = true := by
      rw [List.contains_iff_mem]
      exact fun hmem => hkept (hsuspended hmem)
    rw [if_neg hkept']

theorem map_unnumbered_blocklist (hmode : s.allowlistMode = false) :
    (s.plan now suspended interstitial).map Directive.unnumbered =
      (s.rulesInForce now suspended).map fun r =>
        (Directive.ofRule interstitial Directive.blocklistPriority r).unnumbered := by
  unfold rulesInForce
  rw [hmode]
  cases henabled : s.enabled with
  | false =>
      rw [plan_disabled henabled]
      rfl
  | true =>
      rw [plan_blocklist henabled hmode, Directive.map_unnumbered_ofRules]
      rfl

theorem map_unnumbered_allowlist (henabled : s.enabled = true) (hmode : s.allowlistMode = true) :
    (s.plan now suspended interstitial).map Directive.unnumbered =
      (caughtAll suspended interstitial).map Directive.unnumbered ++
        (s.allowingRules suspended).map fun r =>
          (Directive.ofRule interstitial Directive.allowlistPriority r).unnumbered := by
  rw [plan_allowlist henabled hmode, List.map_append, Directive.map_unnumbered_ofRules]

theorem plan_of_allowlist (hmode : s.allowlistMode = true) (overrides : Overrides) :
    { s with overrides }.plan now suspended interstitial = s.plan now suspended interstitial := by
  unfold plan
  simp only [hmode]
  rfl

theorem Eased.plan_sublist (h : s.Eased s' now.instant) (hsuspended : suspended ⊆ suspended') :
    ((s'.plan now suspended' interstitial).map Directive.unnumbered).Sublist
      ((s.plan now suspended interstitial).map Directive.unnumbered) := by
  cases hmode : s.allowlistMode with
  | false =>
      rw [map_unnumbered_blocklist hmode, map_unnumbered_blocklist (h.allowlistMode.trans hmode),
        h.rulesInForce hsuspended hmode]
      exact List.filter_sublist.map _
  | true =>
      rw [h.rest, plan_of_allowlist hmode]
      cases henabled : s.enabled with
      | false =>
          rw [plan_disabled henabled, plan_disabled henabled]
      | true =>
          rw [map_unnumbered_allowlist henabled hmode, map_unnumbered_allowlist henabled hmode]
          exact ((caughtAll_sublist hsuspended).map _).append
            ((allowingRules_sublist hsuspended).map _)

/--
With more suspensions and more live overrides nothing new is planned.  A blocklist
loses the rules that are suspended or shielded then and no others, an allowlist does
not see the overrides, and those that have run out can as well be dropped.
-/
theorem exemptions_only_remove (h : s.Eased s' now.instant)
    (hsuspended : suspended ⊆ suspended') (interstitial : Url) :
    ((s'.plan now suspended' interstitial).map Directive.unnumbered).Sublist
        ((s.plan now suspended interstitial).map Directive.unnumbered) ∧
      (s.allowlistMode = false →
        (s.plan now suspended interstitial).map Directive.unnumbered =
            (s.rulesInForce now suspended).map (fun r =>
              (Directive.ofRule interstitial Directive.blocklistPriority r).unnumbered) ∧
          (s'.plan now suspended' interstitial).map Directive.unnumbered =
            ((s.rulesInForce now suspended).filter fun r =>
                r.id ∉ suspended' ∧ ¬r.Shielded s'.overrides now.instant).map fun r =>
              (Directive.ofRule interstitial Directive.blocklistPriority r).unnumbered) ∧
      (s.allowlistMode = true → ∀ overrides,
        { s with overrides }.plan now suspended interstitial =
          s.plan now suspended interstitial) ∧
      (s.purged now.instant).plan now suspended interstitial =
        s.plan now suspended interstitial := by
  refine ⟨h.plan_sublist hsuspended, ?_, plan_of_allowlist,
    plan_purged s now suspended interstitial⟩
  intro hmode
  refine ⟨map_unnumbered_blocklist hmode, ?_⟩
  rw [map_unnumbered_blocklist (h.allowlistMode.trans hmode), h.rulesInForce hsuspended hmode]

end Plans

def loopbackBlock (id pattern : String) : Rule :=
  ⟨id, pattern, .wildcard, .hard, false, none, none⟩

/-- Two hosts are blocked, and one of them is let through until an instant. -/
def loopbackFreed (till : Instant) : Settings :=
  { Settings.default with
    rules := [loopbackBlock "one" "[::1]", loopbackBlock "two" "[::2]"]
    overrides := SortedMap.empty.insert "[::1]" till }

def nextSecond : Instant :=
  ⟨1, 0, by decide⟩

def standIn : Url :=
  ⟨"http".toList, some ⟨[], none, some (.domain "blocked".toList), none⟩, .rooted [[]], none, none⟩

/-- An override counts for nothing at its end; a longer one and a suspension empty the plan. -/
theorem loopback_exempted :
    (loopbackFreed Instant.epoch).Eased (loopbackFreed nextSecond) Instant.epoch ∧
      ((loopbackFreed Instant.epoch).plan (Moment.utc Instant.epoch) [] standIn).length = 2 ∧
      (loopbackFreed nextSecond).plan (Moment.utc Instant.epoch) ["two"] standIn = [] := by
  have heased : (loopbackFreed Instant.epoch).Eased (loopbackFreed nextSecond) Instant.epoch := by
    refine ⟨rfl, ?_⟩
    intro host hfrees
    rw [← Overrides.mem_keys_live] at hfrees
    cases hfrees
  have hforce : (loopbackFreed Instant.epoch).rulesInForce (Moment.utc Instant.epoch) [] =
      [loopbackBlock "one" "[::1]", loopbackBlock "two" "[::2]"] := by
    rfl
  have hshielded : (loopbackBlock "one" "[::1]").Shielded (loopbackFreed nextSecond).overrides
      Instant.epoch := by
    exact Rule.isShielded_iff.mp rfl
  have hremoves := @exemptions_only_remove _ _ (Moment.utc Instant.epoch) [] ["two"] heased
    (List.nil_subset _) standIn
  rcases hremoves.2.1 rfl with ⟨hbefore, hafter⟩
  rw [hforce] at hbefore hafter
  refine ⟨heased, ?_, ?_⟩
  · rw [← List.length_map, hbefore]
    rfl
  · apply List.map_eq_nil_iff.mp
    rw [hafter, List.map_eq_nil_iff, List.filter_eq_nil_iff]
    intro r hr hstays
    rcases of_decide_eq_true hstays with ⟨hkept, hbare⟩
    rcases List.mem_cons.mp hr with rfl | hr
    · exact hbare hshielded
    · rw [List.mem_singleton.mp hr] at hkept
      exact hkept (List.mem_singleton_self _)

end Settings
end SiteGuard
