import SiteGuard.Directive
import SiteGuard.Json.Value

/-!
# Verdicts

What becomes of a navigation under a list of directives: the one of the highest
priority that matches decides, and at equal priority one that allows.
-/

namespace SiteGuard

open Text

inductive Verdict where
  | proceed
  | allowed (directive : UInt32)
  | redirect (directive : UInt32) (location : String)
  deriving DecidableEq

/-! ## Filters -/

namespace UrlFilter

/-- A host with its subdomains, and a part of the URL that begins with a slash, if there is one. -/
def anchoredMatches (rest : List Char) (url : String) : Bool :=
  match (Url.parse url).toOption.bind Url.host? with
  | none => false
  | some host =>
    match cut '/' rest with
    | none => HostPattern.covers rest host.toList
    | some (domain, path) =>
      HostPattern.covers domain host.toList && occursIn ('/' :: path) (lower url.toList)

/-- Two bars anchor a filter at the host and one at the beginning; else it may occur anywhere. -/
def catches (filter : String) (url : String) : Bool :=
  match lower filter.toList with
  | '|' :: '|' :: rest => anchoredMatches rest url
  | '|' :: rest => rest.isPrefixOf (lower url.toList)
  | rest => occursIn rest (lower url.toList)

end UrlFilter

namespace Condition

/-- Whether a condition holds of a URL; a filter on the URL counts before a regular expression. -/
def holds (c : Condition) (url : String) : Bool :=
  match c.urlFilter, c.regexFilter with
  | some filter, _ => UrlFilter.catches filter url
  | none, some pattern =>
    match Pattern.compile? pattern with
    | some p => p.occursIn url
    | none => false
  | none, none => false

end Condition

/-! ## Targets -/

namespace Redirection

/-- Where a page is sent: parameters that are set replace those of the same name. -/
def location (r : Redirection) (page : String) : String :=
  match r.params, Url.parse r.url with
  | some params, .ok target =>
    let kept := target.pairs.filter fun pair => !(params.any fun p => p.key == pair.1)
    let added := params.map fun p => (p.key, substitute Directive.pageMark page p.value)
    (target.withPairs (kept ++ added)).text
  | _, _ => r.url

end Redirection

/-! ## The winner -/

namespace Directive

def yieldsTo (d e : Directive) : Bool :=
  d.priority < e.priority
    || (d.priority == e.priority && (!d.action.isAllow || e.action.isAllow))

def stronger (best : Option Directive) (d : Directive) : Option Directive :=
  match best with
  | none => some d
  | some b => if b.yieldsTo d then some d else some b

/-- The directive that decides; of several equal ones it is the last. -/
def winner? (ds : List Directive) (url : String) : Option Directive :=
  (ds.filter fun d => d.condition.holds url).foldl stronger none

def verdict (d : Directive) (url : String) : Verdict :=
  match d.action with
  | .allow => .allowed d.id
  | .redirect target => .redirect d.id (target.location url)

end Directive

namespace Verdict

def of (ds : List Directive) (url : String) : Verdict :=
  match Directive.winner? ds url with
  | none => .proceed
  | some d => d.verdict url

def toJson : Verdict → Json
  | proceed => .object [("verdict", .text "proceed")]
  | allowed id => .object [("verdict", .text "allowed"), ("directive_id", .nat id.toNat)]
  | redirect id location =>
    .object
      [("verdict", .text "redirect"), ("directive_id", .nat id.toNat), ("location", .text location)]

end Verdict
end SiteGuard
