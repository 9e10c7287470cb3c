import SiteGuard.Rule
import SiteGuard.Url.Parser

/-!
# Host patterns

How a rule catches the URL of a page: by its host, by the host as a suffix of
whole labels, or by a regular expression on the whole URL.  A text that is not a
URL is never caught.
-/

namespace SiteGuard

open Text

namespace HostPattern

/-! ## Labels -/

/-- Whether a host is a subdomain of a base: it ends in a dot and the base. -/
def isBelow (base host : List Char) : Bool :=
  ('.' :: base).isSuffixOf host

def covers (base host : List Char) : Bool :=
  host == base || isBelow base host

def star : List Char := ['*', '.']

def base (cs : List Char) : List Char :=
  (stripStart star cs).getD cs

/-- With a star in front the pattern stands for subdomains only. -/
def catchesHost (pattern host : List Char) : Bool :=
  let p := lower (trim pattern)
  match stripStart star p with
  | some base => isBelow base (lower host)
  | none => covers p (lower host)

/-! ## Hosts of addresses and patterns -/

def withoutFinalDots (cs : List Char) : List Char :=
  (cs.reverse.dropWhile (· == '.')).reverse

/-- What stands before a character, or all of a text that does not hold it. -/
def before (mark : Char) (cs : List Char) : List Char :=
  (cs.takeWhile (· != mark))

/-- The host of a pattern: without star, path and port. -/
def bareHost (cs : List Char) : List Char :=
  lower (trim (before ':' (before '/' (base cs))))

def isHost (cs : List Char) : Bool :=
  match Url.Host.parse cs with
  | .ok _ => true
  | .error _ => false

/-- The host that a URL or a pattern names, in small letters. -/
def hostname? (s : String) : Option String :=
  let input := trim s.toList
  match (Url.parseChars input).toOption.bind Url.host? with
  | some host => some (String.ofList (lower (withoutFinalDots host.toList)))
  | none =>
    let host := bareHost input
    if host.isEmpty || !isHost host then none else some (String.ofList host)

end HostPattern

namespace Rule

def catches (r : Rule) (url : String) : Bool :=
  match Url.parse url with
  | .error _ => false
  | .ok u =>
    match r.kind with
    | .exact =>
      match u.host? with
      | some host => lower host.toList == lower (trim r.pattern.toList)
      | none => false
    | .wildcard =>
      match u.host? with
      | some host => HostPattern.catchesHost r.pattern.toList host.toList
      | none => false
    | .regex =>
      match Pattern.compile? r.pattern with
      | some p => p.occursIn url
      | none => false

/-- The host whose override shields a rule by itself; a regular expression has none. -/
def overrideKey? (r : Rule) : Option String :=
  match r.kind with
  | .regex => none
  | _ => HostPattern.hostname? r.pattern

end Rule
end SiteGuard
