import SiteGuard.Directive.Verdict
import SiteGuard.Proofs.Text
import SiteGuard.Proofs.Url.Web

/-!
# How far directives reach

The directive of a rule holds of every page that the rule catches.  It reaches
further only in three ways: an exact host brings its subdomains along, a star
brings the bare host along, and a pattern with a slash, which catches nothing,
comes to stand for a host and a path.
-/

namespace SiteGuard

open Text

/-! ## Hosts without slashes -/

namespace HostPattern

theorem isBelow_iff {base host : List Char} :
    isBelow base host = true ↔ ('.' :: base) <:+ host :=
  List.isSuffixOf_iff_suffix

theorem isBelow_self (host : List Char) : isBelow host host = false := by
  apply eq_false_of_ne_true
  intro h
  have hlength := (isBelow_iff.mp h).length_le
  rw [List.length_cons] at hlength
  exact absurd hlength (Nat.not_succ_le_self _)

theorem isBelow_of_slash {base host : List Char} (hbase : '/' ∈ base) (hhost : '/' ∉ host) :
    isBelow base host = false := by
  apply eq_false_of_ne_true
  intro h
  exact hhost ((isBelow_iff.mp h).subset (List.mem_cons_of_mem _ hbase))

theorem ne_of_slash {base host : List Char} (hbase : '/' ∈ base) (hhost : '/' ∉ host) :
    (host == base) = false := by
  apply beq_eq_false_iff_ne.mpr
  rintro rfl
  exact hhost hbase

theorem covers_of_slash {base host : List Char} (hbase : '/' ∈ base) (hhost : '/' ∉ host) :
    covers base host = false := by
  unfold covers
  rw [ne_of_slash hbase hhost, isBelow_of_slash hbase hhost]
  rfl

theorem stripStart_star_lower (cs : List Char) :
    stripStart star (lower cs) = (stripStart star cs).map lower := by
  apply stripStart_lower
  intro c hc
  rcases List.mem_cons.mp hc with rfl | hc
  · rfl
  · rcases List.mem_singleton.mp hc with rfl
    rfl

end HostPattern

/-! ## Pages within reach -/

namespace Rule

def anchor (r : Rule) : List Char :=
  match r.kind with
  | .wildcard => lower (HostPattern.base (trim r.pattern.toList))
  | _ => lower (trim r.pattern.toList)

def isStarred (r : Rule) : Bool :=
  (stripStart HostPattern.star (trim r.pattern.toList)).isSome

/--
Whether the directive of a rule reaches a page of a host that the rule is not
about: one below the host of an exact rule, the bare host behind a star, or, for
a pattern with a slash, a host that its first part covers, with the path in the
text of the page.
-/
def overreaches (r : Rule) (host : List Char) (url : String) : Bool :=
  match cut '/' r.anchor with
  | some (domain, path) =>
    HostPattern.covers domain host && occursIn ('/' :: path) (lower url.toList)
  | none =>
    match r.kind with
    | .exact => HostPattern.isBelow r.anchor host
    | .wildcard => r.isStarred && host == r.anchor
    | .regex => false

/-- Whether the directive of a rule holds of a page that the rule does not catch. -/
def overshoots (r : Rule) (url : String) : Bool :=
  match r.kind, (Url.parse url).toOption.bind Url.host? with
  | .regex, _ => false
  | _, none => false
  | _, some host => r.overreaches host.toList url

end Rule

/-! ## Anchored filters -/

namespace Directive

theorem holds_hostCondition (pattern : List Char) (url : String) :
    (hostCondition pattern).holds url = UrlFilter.anchoredMatches (lower pattern) url := by
  have hlower : lower ('|' :: '|' :: lower pattern) = '|' :: '|' :: lower pattern := by
    show '|' :: '|' :: lower (lower pattern) = _
    rw [lower_lower]
  unfold Condition.holds hostCondition UrlFilter.catches
  dsimp only
  rw [String.toList_ofList, hlower]
  rfl

section Web

variable {r : Rule} {url : String} {u : Url} {host : String}

theorem bind_host?_of_parse (hparse : Url.parse url = .ok u) (hhost : u.host? = some host) :
    (Url.parse url).toOption.bind Url.host? = some host := by
  rw [hparse]
  exact hhost

theorem anchoredMatches_of_host (hparse : Url.parse url = .ok u) (hhost : u.host? = some host)
    (rest : List Char) :
    UrlFilter.anchoredMatches rest url =
      match cut '/' rest with
      | none => HostPattern.covers rest host.toList
      | some (domain, path) =>
        HostPattern.covers domain host.toList && occursIn ('/' :: path) (lower url.toList) := by
  have hfound := bind_host?_of_parse hparse hhost
  cases hcut : cut '/' rest with
  | none =>
      simp only [UrlFilter.anchoredMatches, hfound, hcut]
  | some parts =>
      simp only [UrlFilter.anchoredMatches, hfound, hcut]

theorem overshoots_of_host (hparse : Url.parse url = .ok u) (hhost : u.host? = some host)
    (hkind : r.kind ≠ .regex) : r.overshoots url = r.overreaches host.toList url := by
  unfold Rule.overshoots
  rw [bind_host?_of_parse hparse hhost]
  cases hr : r.kind with
  | exact =>
      rfl
  | wildcard =>
      rfl
  | regex =>
      exact absurd hr hkind

theorem catches_exact (hparse : Url.parse url = .ok u) (hhost : u.host? = some host)
    (htext : Url.IsHostText host.toList) (hkind : r.kind = .exact) :
    r.catches url = (host.toList == r.anchor) := by
  unfold Rule.catches Rule.anchor
  rw [hparse, hkind]
  dsimp only
  rw [hhost]
  dsimp only
  rw [htext.lower]

theorem catches_wildcard (hparse : Url.parse url = .ok u) (hhost : u.host? = some host)
    (htext : Url.IsHostText host.toList) (hkind : r.kind = .wildcard) :
    r.catches url =
      if r.isStarred then HostPattern.isBelow r.anchor host.toList
      else HostPattern.covers r.anchor host.toList := by
  unfold Rule.catches Rule.anchor Rule.isStarred HostPattern.base
  rw [hparse, hkind]
  dsimp only
  rw [hhost]
  dsimp only
  unfold HostPattern.catchesHost
  dsimp only
  rw [htext.lower, HostPattern.stripStart_star_lower]
  cases stripStart HostPattern.star (trim r.pattern.toList) <;> rfl

theorem holds_anchored (hparse : Url.parse url = .ok u) (hhost : u.host? = some host)
    (hkind : r.kind ≠ .regex) :
    (conditionOf r).holds url =
      match cut '/' r.anchor with
      | none => HostPattern.covers r.anchor host.toList
      | some (domain, path) =>
        HostPattern.covers domain host.toList && occursIn ('/' :: path) (lower url.toList) := by
  rw [← anchoredMatches_of_host hparse hhost]
  unfold conditionOf Rule.anchor
  cases hr : r.kind with
  | exact =>
      exact holds_hostCondition _ url
  | wildcard =>
      exact holds_hostCondition _ url
  | regex =>
      exact absurd hr hkind

theorem holds_regex (hparse : Url.parse url = .ok u) (hkind : r.kind = .regex) :
    (conditionOf r).holds url = r.catches url := by
  cases hcompile : Pattern.compile? r.pattern with
  | none =>
      simp only [conditionOf, Rule.catches, Condition.holds, hparse, hkind, hcompile]
  | some p =>
      simp only [conditionOf, Rule.catches, Condition.holds, hparse, hkind, hcompile]

theorem catches_of_slash (hparse : Url.parse url = .ok u) (hhost : u.host? = some host)
    (htext : Url.IsHostText host.toList) (hkind : r.kind ≠ .regex) (hanchor : '/' ∈ r.anchor) :
    r.catches url = false := by
  have hslash : '/' ∉ host.toList := htext.not_mem_slash
  cases hr : r.kind with
  | exact =>
      rw [catches_exact hparse hhost htext hr]
      exact HostPattern.ne_of_slash hanchor hslash
  | wildcard =>
      rw [catches_wildcard hparse hhost htext hr]
      split
      · exact HostPattern.isBelow_of_slash hanchor hslash
      · exact HostPattern.covers_of_slash hanchor hslash
  | regex =>
      exact absurd hr hkind

/-- On the web, a directive holds of what its rule catches and of what it overshoots to. -/
theorem holds_conditionOf (hparse : Url.parse url = .ok u) (hweb : u.IsWeb) :
    (conditionOf r).holds url = (r.catches url || r.overshoots url) := by
  rcases hweb.exists_host hparse with ⟨host, hhost, htext⟩
  by_cases hkind : r.kind = .regex
  · rw [holds_regex hparse hkind]
    unfold Rule.overshoots
    rw [hkind]
    exact (Bool.or_false _).symm
  · rw [holds_anchored hparse hhost hkind, overshoots_of_host hparse hhost hkind]
    unfold Rule.overreaches
    cases hcut : cut '/' r.anchor with
    | some parts =>
        rw [catches_of_slash hparse hhost htext hkind (mem_of_cut hcut)]
        rfl
    | none =>
        cases hr : r.kind with
        | exact =>
            rw [catches_exact hparse hhost htext hr]
            rfl
        | wildcard =>
            rw [catches_wildcard hparse hhost htext hr]
            cases r.isStarred with
            | false =>
                exact (Bool.or_false _).symm
            | true =>
                exact Bool.or_comm _ _
        | regex =>
            exact absurd hr hkind

theorem catches_of_overshoots (hparse : Url.parse url = .ok u) (hweb : u.IsWeb)
    (h : r.overshoots url = true) : r.catches url = false := by
  rcases hweb.exists_host hparse with ⟨host, hhost, htext⟩
  by_cases hkind : r.kind = .regex
  · unfold Rule.overshoots at h
    rw [hkind] at h
    cases h
  · rw [overshoots_of_host hparse hhost hkind] at h
    unfold Rule.overreaches at h
    cases hcut : cut '/' r.anchor with
    | some parts =>
        exact catches_of_slash hparse hhost htext hkind (mem_of_cut hcut)
    | none =>
        rw [hcut] at h
        cases hr : r.kind with
        | exact =>
            rw [hr] at h
            rw [catches_exact hparse hhost htext hr]
            apply beq_eq_false_iff_ne.mpr
            intro heq
            rw [heq, HostPattern.isBelow_self] at h
            cases h
        | wildcard =>
            rw [hr] at h
            rcases Bool.and_eq_true_iff.mp h with ⟨hstarred, hbare⟩
            rw [catches_wildcard hparse hhost htext hr, if_pos hstarred, eq_of_beq hbare]
            exact HostPattern.isBelow_self _
        | regex =>
            exact absurd hr hkind

end Web

end Directive
end SiteGuard
