import SiteGuard.Proofs.Directive.Winner
import SiteGuard.Proofs.Url.Query
import SiteGuard.Proofs.Url.Reading

/-!
# What the block page is told

A blocked page is sent to the block page with three query pairs: the rule, its mode
and the page itself.  Whatever these hold, the block page reads just them, since each
is escaped when it is written and the mark for the page is put in before that.
-/

namespace SiteGuard

open Text

/-! ## The mark for the page -/

namespace Text

theorem substituteFrom_dropped (mark value cs : List Char) :
    substituteFrom mark value cs.length cs = [] := by
  induction cs with
  | nil =>
      rfl
  | cons c rest ih =>
      exact ih

theorem substituteFrom_mark (c : Char) (rest value : List Char) :
    substituteFrom (c :: rest) value 0 (c :: rest) = value := by
  have hfound : (c :: rest).isPrefixOf (c :: rest) = true :=
    List.isPrefixOf_iff_prefix.mpr (List.prefix_refl _)
  rw [substituteFrom, if_pos hfound]
  show value ++ substituteFrom (c :: rest) value rest.length rest = value
  rw [substituteFrom_dropped, List.append_nil]

end Text

theorem substitute_pageMark (page : String) :
    substitute Directive.pageMark page Directive.pageMark = page := by
  have hmark : ∃ c rest, Directive.pageMark.toList = c :: rest := ⟨_, _, rfl⟩
  rcases hmark with ⟨c, rest, hmark⟩
  unfold substitute
  rw [hmark, substituteFrom_mark, String.ofList_toList]

/-! ## Query pairs of addresses -/

namespace Url

theorem pairs_withPairs (u : Url) (pairs : List (String × String)) :
    (u.withPairs pairs).pairs = pairs :=
  Query.read_write pairs

/-- An address is read back from its text with the pairs that it has been given. -/
theorem Located.parse_withPairs {u : Url} {a : Authority} {segs : List (List Char)}
    (h : Located u a segs) (pairs : List (String × String)) :
    Url.parse (u.withPairs pairs).text = .ok (u.settled.withPairs pairs) := by
  have hread := h.parseChars (Query.settled_write pairs)
  unfold Url.parse Url.text
  rw [String.toList_ofList]
  exact hread

end Url

/-! ## Locations -/

namespace Redirection

theorem location_of_parse {url : String} {target : Url} (hparse : Url.parse url = .ok target)
    (page : String) :
    location ⟨url, some [⟨"u", Directive.pageMark⟩]⟩ page =
      (target.withPairs
        (target.pairs.filter (fun pair => !("u" == pair.1)) ++ [("u", page)])).text := by
  unfold location
  rw [hparse]
  simp [substitute_pageMark]

end Redirection

namespace Verdict

open Directive

theorem redirect_ofRule {interstitial : Url} {priority id : UInt32} {r : Rule}
    {page location : String}
    (h : of [Directive.ofRule interstitial priority r] page = .redirect id location) :
    location = Redirection.location
      ⟨(interstitial.withPairs [("rid", r.id), ("mode", r.mode.name)]).text,
        some [⟨"u", pageMark⟩]⟩ page := by
  rcases of_cases [Directive.ofRule interstitial priority r] page with
    ⟨hproceed, _⟩ | ⟨w, hw, hjudged⟩
  · rw [hproceed] at h
    cases h
  · obtain rfl := List.mem_singleton.mp hw.mem
    rw [hjudged] at h
    rcases verdict_cases (Directive.ofRule interstitial priority r) page with
      ⟨_, hallowed⟩ | ⟨target, haction, hredirect⟩
    · rw [hallowed] at h
      cases h
    · rw [hredirect] at h
      cases h
      unfold Directive.ofRule at haction
      dsimp only at haction
      split at haction
      · cases haction
      · cases haction
        rfl

/--
The block page reads the rule, its mode and the page from where it was sent to, in this
order and as they are.  Everything else there is the address of the block page, just if
this does not stray.
-/
theorem blocked_page_recovered {text : String} {interstitial : Url}
    (hparse : Url.parse text = .ok interstitial) (hauthority : interstitial.authority ≠ none)
    {r : Rule} {priority id : UInt32} {page location : String}
    (hredirect : of [Directive.ofRule interstitial priority r] page = .redirect id location) :
    ∃ u, Url.parse location = .ok u ∧
      u.pairs = [("rid", r.id), ("mode", r.mode.name), ("u", page)] ∧
      { u with query := interstitial.query } = interstitial.settled ∧
      ({ u with query := interstitial.query } = interstitial ↔ ¬interstitial.Strays) := by
  rcases Url.located_of_parseChars hparse hauthority with ⟨a, segs, hlocated⟩
  rcases hlocated.settled with ⟨a', segs', hsettled⟩
  have htarget := hlocated.parse_withPairs [("rid", r.id), ("mode", r.mode.name)]
  have hlocation := redirect_ofRule hredirect
  rw [Redirection.location_of_parse htarget, Url.pairs_withPairs] at hlocation
  have hread := hsettled.parse_withPairs [("rid", r.id), ("mode", r.mode.name), ("u", page)]
  rw [Url.settled_settled] at hread
  have houtside : { interstitial.settled.withPairs
      [("rid", r.id), ("mode", r.mode.name), ("u", page)] with query := interstitial.query } =
      interstitial.settled := by
    show { interstitial.settled with query := interstitial.query } = interstitial.settled
    rw [← (Url.settled_rest interstitial).2.1]
  refine ⟨_, ?_, Url.pairs_withPairs _ _, houtside, ?_⟩
  · rw [hlocation]
    exact hread
  · rw [houtside]
    exact hlocated.settled_eq_iff

def guardPage : Url :=
  ⟨"ext".toList, some ⟨[], none, some (.domain "guard".toList), none⟩,
    .rooted ["block.html".toList], some "rid=0".toList, some "top".toList⟩

def markedRule : Rule :=
  ⟨"a&u=+%41#é", "*.[::1]", .wildcard, .soft, false, none, none⟩

/-- A page whose address holds the mark for the page and pairs of its own. -/
def markedPage : String :=
  "http://[::1]/?rid=b&u=\x7burl\x7d+%26#é"

set_option maxRecDepth 10000 in
theorem marked_page_recovered :
    Url.parse "ext://guard/block.html?rid=0#top" = .ok guardPage ∧
      ∃ id location, of [Directive.ofRule guardPage blocklistPriority markedRule] markedPage =
          .redirect id location ∧
        ∃ u, Url.parse location = .ok u ∧
          u.pairs = [("rid", markedRule.id), ("mode", "soft"), ("u", markedPage)] ∧
          { u with query := guardPage.query } = guardPage := by
  have hparse : Url.parse "ext://guard/block.html?rid=0#top" = .ok guardPage := by
    rfl
  have hredirect : ∃ id location, of [Directive.ofRule guardPage blocklistPriority markedRule]
      markedPage = .redirect id location :=
    ⟨_, _, rfl⟩
  have hstays : ¬guardPage.Strays := fun h => absurd h.1 (by decide)
  rcases hredirect with ⟨id, location, hredirect⟩
  rcases blocked_page_recovered hparse (by decide) hredirect with ⟨u, hread, hpairs, _, houtside⟩
  exact ⟨hparse, id, location, hredirect, u, hread, hpairs, houtside.mpr hstays⟩

/-- A file on a host, in front of whose path an empty segment was dropped. -/
def strayPage : Url :=
  ⟨"file".toList, some ⟨[], none, some (.ipv6 ⟨List.replicate 7 0 ++ [1], rfl⟩), none⟩,
    .rooted ["C:".toList, "block.html".toList], none, none⟩

def strayLocation : String :=
  "file:///C:/block.html?rid=a&mode=hard&u=http%3A%2F%2F%5B%3A%3A1%5D%2F"

set_option maxRecDepth 10000 in
/-- The block page is on a host, but pages are sent to one that is on none. -/
theorem stray_host_lost :
    Url.parse "file://[::1]//C:/block.html" = .ok strayPage ∧ strayPage.authority ≠ none ∧
      of [Directive.ofRule strayPage blocklistPriority { markedRule with id := "a", mode := .hard }]
        "http://[::1]/" = .redirect 1097 strayLocation ∧
      ∃ u, Url.parse strayLocation = .ok u ∧ u.host? = none ∧
        strayPage.host? = some "[::1]" ∧ { u with query := strayPage.query } ≠ strayPage := by
  refine ⟨rfl, by decide, rfl, _, rfl, rfl, rfl, ?_⟩
  intro hsame
  have hhost := congrArg Url.host? hsame
  cases hhost

end Verdict
end SiteGuard
