import SiteGuard.HostPattern
import SiteGuard.SortedMap

/-!
# Directives

What the browser is told to do with a navigation: let it through, or send it to
another page.  A directive is made from one rule, under a number that depends on
the id of the rule alone.
-/

namespace SiteGuard

open Text

/-! ## Parts -/

/-- A query parameter that a redirection sets; its value may hold the mark for the page. -/
structure QueryParam where
  key : String
  value : String
  deriving DecidableEq

structure Redirection where
  url : String
  /-- The parameters that are set on the way, if any rule says so. -/
  params : Option (List QueryParam)
  deriving DecidableEq

inductive Action where
  | allow
  | redirect (target : Redirection)
  deriving DecidableEq

def Action.isAllow : Action → Bool
  | allow => true
  | redirect _ => false

inductive ResourceType where
  | mainFrame
  deriving DecidableEq

structure Condition where
  urlFilter : Option String
  regexFilter : Option String
  resourceTypes : List ResourceType
  deriving DecidableEq

structure Directive where
  id : UInt32
  priority : UInt32
  action : Action
  condition : Condition
  deriving DecidableEq

/-! ## Numbers -/

def units16 (c : Char) : List UInt32 :=
  if c.toNat < 0x10000 then [c.val]
  else
    let n := c.toNat - 0x10000
    [UInt32.ofNat (0xD800 + n / 1024), UInt32.ofNat (0xDC00 + n % 1024)]

/-- A rolling hash over UTF-16 code units, modulo 2 ^ 32. -/
def rollingHash (s : String) : UInt32 :=
  (s.toList.flatMap units16).foldl (fun h u => h * 31 + u) 0

namespace Directive

/-- Numbers of rules begin here; smaller ones are reserved. -/
def firstId : Nat := 1000

def idCount : Nat := 2000000000

def idOf (ruleId : String) : UInt32 :=
  UInt32.ofNat (firstId + (rollingHash ruleId).toNat % idCount)

/-- The next number for a rule, from the last back to the first. -/
def nextId (id : UInt32) : UInt32 :=
  if firstId + idCount - 1 ≤ id.toNat then UInt32.ofNat firstId else id + 1

def catchAllId : UInt32 := 2
def catchAllPriority : UInt32 := 1

def allowlistPriority : UInt32 := 2
def blocklistPriority : UInt32 := 10

def catchAllRule : String := "__catchall__"

/-! ## Compilation -/

def pageMark : String := "\x7burl\x7d"

/-- Sends a page to the block page, which learns the rule, its mode and the page. -/
def blockAction (interstitial : Url) (ruleId : String) (mode : BlockMode) : Action :=
  .redirect
    ⟨(interstitial.withPairs [("rid", ruleId), ("mode", mode.name)]).text,
      some [⟨"u", pageMark⟩]⟩

def hostCondition (host : List Char) : Condition :=
  ⟨some (String.ofList ('|' :: '|' :: lower host)), none, [.mainFrame]⟩

def conditionOf (r : Rule) : Condition :=
  let pattern := trim r.pattern.toList
  match r.kind with
  | .exact => hostCondition pattern
  | .wildcard => hostCondition (HostPattern.base pattern)
  | .regex => ⟨none, some r.pattern, [.mainFrame]⟩

def ofRule (interstitial : Url) (priority : UInt32) (r : Rule) : Directive :=
  ⟨idOf r.id, priority, if r.allow then .allow else blockAction interstitial r.id r.mode,
    conditionOf r⟩

def catchAll (interstitial : Url) : Directive :=
  ⟨catchAllId, catchAllPriority, blockAction interstitial catchAllRule .hard,
    ⟨some "|http", none, [.mainFrame]⟩⟩

/-! ## Distinct numbers -/

/-- The first free number from a given one on; there are more numbers than taken ones. -/
def freeId (taken : List UInt32) : (fuel : Nat) → UInt32 → UInt32
  | 0, id => id
  | fuel + 1, id => if taken.contains id then freeId taken fuel (nextId id) else id

/--
Gives each directive in turn the first free number from its own on, and tells which
numbers are taken in the end.
-/
def renumberAll (taken : List UInt32) : List Directive → List Directive × List UInt32
  | [] => ([], taken)
  | d :: rest =>
    let id := freeId taken (taken.length + 1) d.id
    let (renumbered, taken) := renumberAll (id :: taken) rest
    ({ d with id } :: renumbered, taken)

def renumber (taken : List UInt32) (ds : List Directive) : List Directive :=
  (renumberAll taken ds).1

/--
The directives of some rules, with numbers that differ from each other and from those
taken, and the numbers that are taken in the end.
-/
def compileAll (interstitial : Url) (priority : UInt32) (taken : List UInt32)
    (rules : List Rule) : List Directive × List UInt32 :=
  renumberAll taken (rules.map (ofRule interstitial priority))

def ofRules (interstitial : Url) (priority : UInt32) (taken : List UInt32) (rules : List Rule) :
    List Directive :=
  (compileAll interstitial priority taken rules).1

/-- The numbers that are taken in the end, each once and in increasing order. -/
def takenAfter (taken : List UInt32) (ds : List Directive) : List UInt32 :=
  (SortedMap.ofList ((renumberAll taken ds).2.map fun id => (id, ()))).keys

end Directive
end SiteGuard
