import SiteGuard.Proofs.Directive.Reach
import SiteGuard.Proofs.Url.Host

/-!
# Labels of hosts

Dots separate the labels of a host.  A pattern is compared with a host label by label
from the end, both where rules catch pages and where their directives hold of them, so
neither takes one name for another that merely ends in the same letters.
-/

namespace SiteGuard

open Text

namespace HostPattern

/-! ## Labels -/

def labels (cs : List Char) : List (List Char) :=
  pieces '.' cs

theorem labels_append_cons (front base : List Char) :
    labels (front ++ '.' :: base) = labels front ++ labels base :=
  pieces_append_cons '.' front base

theorem labels_ne_nil (cs : List Char) : labels cs ≠ [] :=
  pieces_ne_nil '.' cs

theorem labels_inj {cs ds : List Char} : labels cs = labels ds ↔ cs = ds := by
  constructor
  · intro h
    calc cs = join '.' (labels cs) := (join_pieces '.' cs).symm
      _ = join '.' (labels ds) := by rw [h]
      _ = ds := join_pieces '.' ds
  · intro h
    rw [h]

/-- Text that ends in the labels of a base, behind others, ends in a dot and the base. -/
theorem eq_append_of_labels {host base : List Char} {front : List (List Char)}
    (hfront : front ≠ []) (h : front ++ labels base = labels host) :
    join '.' front ++ '.' :: base = host :=
  calc join '.' front ++ '.' :: base
      = join '.' front ++ '.' :: join '.' (labels base) := by
        rw [show join '.' (labels base) = base from join_pieces '.' base]
    _ = join '.' (front ++ labels base) := (join_append '.' hfront (labels_ne_nil base)).symm
    _ = join '.' (labels host) := by rw [h]
    _ = host := join_pieces '.' host

theorem isBelow_iff_labels {base host : List Char} :
    isBelow base host = true ↔ labels base <:+ labels host ∧ labels base ≠ labels host := by
  rw [isBelow_iff]
  constructor
  · intro hsuffix
    rcases hsuffix with ⟨front, rfl⟩
    rw [labels_append_cons]
    constructor
    · exact List.suffix_append _ _
    · intro hsame
      exact labels_ne_nil front (List.self_eq_append_left.mp hsame)
  · intro h
    rcases h with ⟨⟨front, hfront⟩, hproper⟩
    have hne : front ≠ [] := by
      intro hnil
      rw [hnil] at hfront
      exact hproper hfront
    exact ⟨join '.' front, eq_append_of_labels hne hfront⟩

theorem covers_iff_labels {base host : List Char} :
    covers base host = true ↔ labels base <:+ labels host := by
  unfold covers
  rw [Bool.or_eq_true, beq_iff_eq, isBelow_iff_labels]
  constructor
  · intro h
    rcases h with rfl | ⟨hsuffix, _⟩
    · exact List.suffix_refl _
    · exact hsuffix
  · intro hsuffix
    by_cases hsame : labels base = labels host
    · exact Or.inl (labels_inj.mp hsame).symm
    · exact Or.inr ⟨hsuffix, hsame⟩

end HostPattern

/-! ## Patterns as they are compared -/

namespace Rule

open HostPattern

variable {r : Rule}

/-- The pattern of a rule without blanks around it and without capitals. -/
def reading (r : Rule) : List Char :=
  lower (trim r.pattern.toList)

theorem isStarred_eq (r : Rule) : r.isStarred = (stripStart star r.reading).isSome := by
  unfold isStarred reading
  rw [stripStart_star_lower, Option.isSome_map]

theorem anchor_of_wildcard (hkind : r.kind = .wildcard) :
    r.anchor = (stripStart star r.reading).getD r.reading := by
  unfold anchor reading base
  rw [hkind, stripStart_star_lower]
  cases stripStart star (trim r.pattern.toList) with
  | none =>
      rfl
  | some rest =>
      rfl

/-- The host that a pattern is about: for a wildcard, what stands behind the star, if there is one. -/
def IsAbout (r : Rule) (base : List Char) : Prop :=
  (r.kind = .exact ∧ r.reading = base) ∨
    (r.kind = .wildcard ∧
      (r.reading = star ++ base ∨ (¬star <+: r.reading ∧ r.reading = base)))

theorem IsAbout.kind {base : List Char} (h : r.IsAbout base) : r.kind ≠ .regex := by
  rcases h with ⟨hkind, _⟩ | ⟨hkind, _⟩
  · rw [hkind]
    exact RuleKind.noConfusion
  · rw [hkind]
    exact RuleKind.noConfusion

theorem IsAbout.anchor {base : List Char} (h : r.IsAbout base) : r.anchor = base := by
  rcases h with ⟨hkind, hreading⟩ | ⟨hkind, hstarred | ⟨hplain, hreading⟩⟩
  · rw [← hreading]
    unfold Rule.anchor
    rw [hkind]
    rfl
  · rw [anchor_of_wildcard hkind, stripStart_eq_some_iff.mpr hstarred]
    rfl
  · rw [anchor_of_wildcard hkind, stripStart_eq_none_iff.mpr hplain]
    exact hreading

end Rule

/-! ## Both comparisons -/

namespace HostPattern

open Directive

section Web

variable {r : Rule} {url : String} {u : Url} {host : String}

theorem catches_plain_iff (hparse : Url.parse url = .ok u) (hhost : u.host? = some host)
    (htext : Url.IsHostText host.toList) (hkind : r.kind = .wildcard)
    (hplain : ¬star <+: r.reading) :
    r.catches url = true ↔ labels r.reading <:+ labels host.toList := by
  have hnone : stripStart star r.reading = none := stripStart_eq_none_iff.mpr hplain
  rw [catches_wildcard hparse hhost htext hkind, r.isStarred_eq, Rule.anchor_of_wildcard hkind,
    hnone]
  exact covers_iff_labels

theorem catches_starred_iff (hparse : Url.parse url = .ok u) (hhost : u.host? = some host)
    (htext : Url.IsHostText host.toList) (hkind : r.kind = .wildcard) {base : List Char}
    (hstarred : r.reading = star ++ base) :
    r.catches url = true ↔
      labels base <:+ labels host.toList ∧ labels base ≠ labels host.toList := by
  have hsome : stripStart star r.reading = some base := stripStart_eq_some_iff.mpr hstarred
  rw [catches_wildcard hparse hhost htext hkind, r.isStarred_eq, Rule.anchor_of_wildcard hkind,
    hsome]
  exact isBelow_iff_labels

theorem holds_iff_labels (hparse : Url.parse url = .ok u) (hhost : u.host? = some host)
    {base : List Char} (habout : r.IsAbout base) (hslash : '/' ∉ base) :
    (conditionOf r).holds url = true ↔ labels base <:+ labels host.toList := by
  rw [holds_anchored hparse hhost habout.kind, habout.anchor, cut_eq_none_iff.mpr hslash]
  exact covers_iff_labels

end Web

/--
On the web a wildcard catches the hosts that end in its labels, and with a star in
front only those that have more of them.  The directive of a rule on a host without a
path holds of all hosts that end in the labels of that host.
-/
theorem labels_decide {url : String} {u : Url} (hparse : Url.parse url = .ok u)
    (hweb : u.IsWeb) :
    ∃ host, u.host? = some host ∧
      (∀ r : Rule, r.kind = .wildcard →
        (¬star <+: r.reading →
          (r.catches url = true ↔ labels r.reading <:+ labels host.toList)) ∧
        ∀ base, r.reading = star ++ base →
          (r.catches url = true ↔
            labels base <:+ labels host.toList ∧ labels base ≠ labels host.toList)) ∧
      ∀ (r : Rule) (base : List Char), r.IsAbout base → '/' ∉ base →
        ∀ interstitial priority,
          ((ofRule interstitial priority r).condition.holds url = true ↔
            labels base <:+ labels host.toList) := by
  rcases hweb.exists_host hparse with ⟨host, hhost, htext⟩
  refine ⟨host, hhost, ?_, ?_⟩
  · intro r hkind
    constructor
    · exact catches_plain_iff hparse hhost htext hkind
    · intro base hstarred
      exact catches_starred_iff hparse hhost htext hkind hstarred
  · intro r base habout hslash interstitial priority
    exact holds_iff_labels hparse hhost habout hslash

/-! ## A sample -/

def newsHost : List Char :=
  "www.news.test".toList

def newsUrl : Url :=
  ⟨"http".toList, some ⟨[], none, some (.domain newsHost), none⟩, .rooted [[]], none, none⟩

set_option maxRecDepth 4000 in
theorem newsHost_plain : newsHost.all Url.Domain.isPlain = true := by
  rfl

theorem parse_newsHost : Url.Host.parse newsHost = .ok (.domain newsHost) := by
  have hplain := List.all_eq_true.mp newsHost_plain
  have hcoded : ∀ piece ∈ pieces '.' newsHost,
      stripStart Url.Domain.aceStart piece = none := by
    decide
  rcases Url.Domain.labels?_uncoded hplain hcoded with ⟨known, hknown⟩
  exact (Url.Host.parse_plain hplain hknown).trans
    (Url.ofAscii_of_not_number (by decide) (by decide))

theorem readAuthority_news : Url.readAuthority "http".toList false (newsHost ++ ['/']) =
    .ok (⟨[], none, some (.domain newsHost), none⟩, ['/']) := by
  have hsplit : Url.splitAuthority (Url.kindOf "http".toList) (newsHost ++ ['/']) =
      (newsHost, ['/']) := by
    decide
  have huser : cutLast '@' newsHost = none := by
    decide
  have hport : Url.splitHost false newsHost = (newsHost, none) := by
    decide
  have hhost : Url.readHost (Url.kindOf "http".toList) newsHost =
      .ok (some (.domain newsHost)) := by
    show (Url.Host.parse newsHost).map some = _
    rw [parse_newsHost]
    rfl
  unfold Url.readAuthority
  dsimp only
  rw [hsplit]
  simp only [huser, hport, hhost]
  rfl

theorem parse_newsUrl : Url.parse "http://www.news.test/" = .ok newsUrl := by
  have hscheme : Url.scheme? (Url.clean "http://www.news.test/".toList) =
      some ("http".toList, '/' :: '/' :: (newsHost ++ ['/'])) := by
    decide
  have hfragment : Url.cutMark '#' ('/' :: '/' :: (newsHost ++ ['/'])) =
      ('/' :: '/' :: (newsHost ++ ['/']), none) := by
    rfl
  have hquery : Url.cutMark '?' ('/' :: '/' :: (newsHost ++ ['/'])) =
      ('/' :: '/' :: (newsHost ++ ['/']), none) := by
    rfl
  have hslashes : ('/' :: '/' :: (newsHost ++ ['/'])).dropWhile
      (fun c => c == '/' || c == '\\') = newsHost ++ ['/'] := by
    rfl
  have hkind : Url.kindOf "http".toList = .special := by
    decide
  unfold Url.parse Url.parseChars
  rw [hscheme]
  simp only [hfragment, hquery, Option.isSome_none, Bool.or_self, Url.readLocator, hkind,
    hslashes, readAuthority_news]
  rfl

def newsRule (kind : RuleKind) (pattern : String) : Rule :=
  ⟨"news", pattern, kind, .hard, false, none, none⟩

theorem news_by_labels :
    (newsRule .wildcard " News.TEST ").catches "http://www.news.test/" = true ∧
      (newsRule .wildcard "ews.test").catches "http://www.news.test/" = false ∧
      (newsRule .wildcard "*.www.news.test").catches "http://www.news.test/" = false ∧
      (ofRule newsUrl 10 (newsRule .exact "test")).condition.holds "http://www.news.test/" =
        true := by
  rcases labels_decide parse_newsUrl (by decide) with ⟨host, hhost, hcatches, hholds⟩
  obtain rfl : "www.news.test" = host := Option.some.inj hhost
  refine ⟨?_, ?_, ?_, ?_⟩
  · exact ((hcatches _ rfl).1 (by decide)).mpr (by decide)
  · apply eq_false_of_ne_true
    rw [(hcatches _ rfl).1 (by decide)]
    decide
  · apply eq_false_of_ne_true
    rw [(hcatches _ rfl).2 newsHost (by decide)]
    decide
  · exact (hholds _ "test".toList (Or.inl ⟨rfl, by decide⟩) (by decide) newsUrl 10).mpr
      (by decide)

end HostPattern
end SiteGuard
