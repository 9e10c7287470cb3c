import SiteGuard.Actor
import SiteGuard.Engine.Wire
import SiteGuard.Http.MediaType

/-!
# HTTP surface

The routes on which commands reach the actor.  A path without a resource is not
found, a resource without the method is not allowed, and a body has to be JSON of
the form that the resource takes.  Answers carry `ok` and either data or a code.
-/

namespace SiteGuard
namespace Http

open Json Text

/-! ## Requests and responses -/

structure Request where
  method : String
  path : String
  contentType : Option String
  body : String

structure Response where
  status : Nat
  /-- Every origin may read the response. -/
  openToAll : Bool
  body : Option Json

def bare (status : Nat) : Response :=
  ⟨status, true, none⟩

def succeeded (data : Option Json) : Response :=
  ⟨200, true, some (.object (("ok", .bool true) :: (data.map fun d => ("data", d)).toList))⟩

def failed (f : Failure) : Response :=
  ⟨f.status, true, some (.object [("ok", .bool false), ("error", .text f.code)])⟩

/-! ## Resources -/

inductive Resource where
  | health
  | settings
  | enabled
  | rules
  | rulePatch
  | ruleTest
  | ruleSuspension
  | currentSite
  | rule (id : List Char)
  | overrides
  | pin
  | policyExport
  | policyImport
  | directives
  | navigate
  | reconcile

def plainPath (path : String) : List Char :=
  path.toList.takeWhile fun c => c != '?' && c != '#'

/-- Named resources come before the rule of an id; paths are compared as they are written. -/
def resource? (path : String) : Option Resource :=
  match (pieces '/' (plainPath path)).map String.ofList with
  | ["", "health"] => some .health
  | ["", "settings"] => some .settings
  | ["", "settings", "enabled"] => some .enabled
  | ["", "rules"] => some .rules
  | ["", "rules", "update"] => some .rulePatch
  | ["", "rules", "test"] => some .ruleTest
  | ["", "rules", "temporary_allow"] => some .ruleSuspension
  | ["", "rules", "current_site"] => some .currentSite
  | ["", "rules", id] => if id.isEmpty then none else some (.rule id.toList)
  | ["", "overrides"] => some .overrides
  | ["", "pin"] => some .pin
  | ["", "policy", "export"] => some .policyExport
  | ["", "policy", "import"] => some .policyImport
  | ["", "directives"] => some .directives
  | ["", "navigate"] => some .navigate
  | ["", "reconcile"] => some .reconcile
  | _ => none

/-! ## Bodies -/

/-- The command of a body; what follows its value is not looked at. -/
def fromBody (row : Row) (command : row.Val → Command) (body : String) : Except Fault Command := do
  let (v, _) ← (Shape.record "Request" row).read (body.length + 1) depthLimit body.toList
  .ok (command v)

def enabledRow : Row := .field "enabled" true .bool .done

def urlRow : Row := .field "url" true .text .done

def patchRow : Row := .field "settings" true .free (.field "pin" false (.nullable .text) .done)

def suspensionRow : Row := .field "rid" true .text (.field "url" false .text .done)

def overrideRow : Row :=
  .field "hostname" true .text
    (.field "minutes" true (.integer .long) (.field "url" false (.nullable .text) .done))

def pinRow : Row := .field "pin" true .text (.field "currentPin" false (.nullable .text) .done)

def importRow : Row :=
  .field "policy" true (Wire.shape PolicyExport) (.field "pin" false (.nullable .text) .done)

/-- The page that a suspension opens where none is named. -/
def blankPage : String := "about:blank"

/-! ## Operations -/

inductive Operation where
  | health
  | command (c : Command)
  | body (read : String → Except Fault Command)
  | badPath

def removal (id : List Char) : Operation :=
  match Utf8.decode? (Url.Percent.decode id) with
  | some id => .command (.removeRule (String.ofList id))
  | none => .badPath

def operation? (method : String) (r : Resource) : Option Operation :=
  let reads := method == "GET" || method == "HEAD"
  let posts := method == "POST"
  match r with
  | .health => if reads then some .health else none
  | .settings =>
    if reads then some (.command .viewSettings)
    else if posts then
      some (.body (fromBody patchRow fun (settings, pin, ()) => .patchSettings settings (pin.bind id)))
    else none
  | .enabled =>
    if posts then some (.body (fromBody enabledRow fun (enabled, ()) => .switchTo enabled)) else none
  | .rules =>
    if posts then
      some (.body fun body => (decodeFirst RuleDraft body).map fun (draft, _) => .addRule draft)
    else none
  | .rulePatch =>
    if posts then
      some (.body fun body => (decodeFirst Json body).map fun (patch, _) => .patchRule patch)
    else none
  | .ruleTest =>
    if posts then some (.body (fromBody urlRow fun (url, ()) => .findBlocker url)) else none
  | .ruleSuspension =>
    if posts then
      some (.body (fromBody suspensionRow fun (rule, url, ()) => .suspend rule (url.getD blankPage)))
    else none
  | .currentSite =>
    if posts then some (.body (fromBody urlRow fun (url, ()) => .blockSite url)) else none
  | .rule id => if method == "DELETE" then some (removal id) else none
  | .overrides =>
    if posts then
      some (.body (fromBody overrideRow fun (hostname, minutes, url, ()) =>
        .grantOverride hostname minutes (url.bind id)))
    else none
  | .pin =>
    if posts then
      some (.body (fromBody pinRow fun (pin, current, ()) => .changePin pin (current.bind id)))
    else none
  | .policyExport => if reads then some (.command .exportPolicy) else none
  | .policyImport =>
    if posts then
      some (.body (fromBody importRow fun (policy, pin, ()) =>
        .importPolicy (Wire.unpack policy) (pin.bind id)))
    else none
  | .directives => if reads then some (.command .listDirectives) else none
  | .navigate =>
    if posts then some (.body (fromBody urlRow fun (url, ()) => .navigate url)) else none
  | .reconcile => if posts then some (.command (.refresh "manual")) else none

/-! ## Answers -/

def serviceName : String := "policy_core"

def serviceVersion : String := "0.1.0"

def healthInfo : Json :=
  .object [("service", .text serviceName), ("version", .text serviceVersion)]

def dataOf : Reply → Option Json
  | .found none => some (.object [("matched", .bool false)])
  | .found (some r) => some (.object [("matched", .bool true), ("rule", toJson r)])
  | reply => reply.toJson?

def answer : Except Failure Reply → Response
  | .ok reply => succeeded (dataOf reply)
  | .error f => failed f

def rejected : Fault → Response
  | .mismatched => bare 422
  | _ => bare 400

/-! ## Service -/

abbrev Service : Type := Option Actor

namespace Service

def run (s : Service) (fresh : Fresh) (c : Command) : Response × Service :=
  match s with
  | none => (failed .engineUnavailable, none)
  | some a =>
    let (result, a) := a.request fresh c
    (answer result, some a)

def perform (s : Service) (fresh : Fresh) (r : Request) : Operation → Response × Service
  | .health => (succeeded (some healthInfo), s)
  | .command c => s.run fresh c
  | .badPath => (bare 400, s)
  | .body read =>
    if !(r.contentType.map MediaType.isJson).getD false then (bare 415, s)
    else
      match read r.body with
      | .error fault => (rejected fault, s)
      | .ok c => s.run fresh c

/-- The response to one request; one that asks for the head only has no body. -/
def handle (s : Service) (fresh : Fresh) (r : Request) : Response × Service :=
  if r.method == "OPTIONS" then (bare 200, s)
  else
    match resource? r.path with
    | none => (bare 404, s)
    | some resource =>
      match operation? r.method resource with
      | none => (bare 405, s)
      | some operation =>
        let (response, s) := s.perform fresh r operation
        (if r.method == "HEAD" then { response with body := none } else response, s)

end Service
end Http
end SiteGuard
