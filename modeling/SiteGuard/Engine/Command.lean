import SiteGuard.Directive.Verdict
import SiteGuard.Engine.Procedure
import SiteGuard.Settings.Merge

/-!
# Commands

What a client can ask of an engine, and the procedure of each of these commands.  Checks
come first, then suspensions are ended, settings are saved, and a pass brings the table
in step.
-/

namespace SiteGuard

open Calendar

/-! ## Commands and replies -/

inductive Command where
  | refresh (reason : String)
  | viewSettings
  | switchTo (enabled : Bool)
  | patchSettings (patch : Json) (pin : Option String)
  | addRule (draft : RuleDraft)
  | removeRule (id : String)
  | patchRule (patch : Json)
  | findBlocker (url : String)
  | suspend (rule : String) (url : String)
  | resume (rule : String)
  | grantOverride (hostname : String) (minutes : Int64) (url : Option String)
  | blockSite (url : String)
  | changePin (pin : String) (current : Option String)
  | exportPolicy
  | importPolicy (policy : PolicyExport) (pin : Option String)
  | listDirectives
  | navigate (url : String)

/-- A rule is left out until the seconds have passed. -/
structure Allowance where
  rule : String
  seconds : Nat
  navigateTo : String
  deriving DecidableEq

structure Grant where
  hostname : String
  till : Instant
  navigateTo : String
  deriving DecidableEq

inductive Reply where
  | done
  | report (r : Engine.Report)
  | settings (v : SettingsView)
  | rule (r : Rule)
  | found (r : Option Rule)
  | allowance (a : Allowance)
  | grant (g : Grant)
  | policy (p : PolicyExport)
  | directives (ds : List Directive)
  | verdict (v : Verdict)

/-- What a command finds outside of the engine: the time, and material that nobody can guess. -/
structure Occasion where
  now : Moment
  freshRuleId : String
  freshSalt : List UInt8

namespace Command

open Procedure

def maxOverrideMinutes : Int := 365 * 24 * 60

def siteNote : String := "Added from current page"

def urlOf (url : String) : Except Failure Url :=
  match Url.parse url with
  | .ok u => .ok u
  | .error f => .error (.invalidUrl url (.fault f))

/-- Puts a rule in the place of the first one with an id. -/
def replaceRule (id : String) (new : Rule) : List Rule → List Rule
  | [] => []
  | r :: rest => if r.id = id then new :: rest else r :: replaceRule id new rest

def isRetained (s : Settings) (rule : String) : Bool :=
  rule == Directive.catchAllRule || (s.rule? rule).isSome

/-! ## Procedures -/

def switch (o : Occasion) (enabled : Bool) : Procedure Reply := do
  let s ← load
  commit o.now { s with enabled } "toggle"
  return .done

def patch (o : Occasion) (changes : Json) (pin : Option String) : Procedure Reply := do
  let s ← load
  attempt (s.authorize pin)
  let merged ← attempt (Json.merge s changes ["pin"])
  let merged ← attempt merged.normalized
  check merged.fault?
  let dropped := (← suspendedRules).filter fun rule => !isRetained merged rule
  dropped.forM cancel
  commit o.now merged "save"
  return .done

def add (o : Occasion) (draft : RuleDraft) : Procedure Reply := do
  let s ← load
  let rule := draft.toRule o.freshRuleId s.defaultBlockMode
  check rule.fault?
  refuseIf (s.rule? rule.id).isSome (.duplicateRuleId rule.id)
  commit o.now { s with rules := s.rules ++ [rule] } "addRule"
  return .rule rule

def remove (o : Occasion) (id : String) : Procedure Reply := do
  let s ← load
  refuseIf (s.rule? id).isNone (.notFound id)
  cancel id
  commit o.now { s with rules := s.rules.eraseP fun r => r.id == id } "removeRule"
  return .done

def patchedRule (o : Occasion) (changes : Json) : Procedure Reply := do
  match (changes.get? "id").bind Json.text? with
  | none => throw (.invalidSettings .ruleIdMissing)
  | some id =>
    let s ← load
    match s.rule? id with
    | none => throw (.notFound id)
    | some rule =>
      let updated ← attempt (Json.merge rule changes ["id"])
      check updated.fault?
      cancel id
      commit o.now { s with rules := replaceRule id updated s.rules } "updateRule"
      return .rule updated

def blocker (url : String) : Procedure Reply := do
  let _ ← attempt (urlOf url)
  let s ← load
  return .found (s.rules.find? fun r => !r.allow && r.catches url)

def letThrough (o : Occasion) (rule url : String) : Procedure Reply := do
  let _ ← attempt (urlOf url)
  let s ← load
  refuseIf (rule != Directive.catchAllRule && (s.rule? rule).isNone) (.notFound rule)
  schedule rule
  let _ ← pass o.now "temporaryAllow"
  return .allowance ⟨rule, ← grace, url⟩

/-- A suspension that has ended already is left alone, and so is a rule that is gone. -/
def restore (o : Occasion) (rule : String) : Procedure Reply := do
  if !(← isSuspended rule) then return .done
  cancel rule
  if !isRetained (← load) rule then return .done
  let _ ← pass o.now "restore"
  return .done

def override (o : Occasion) (hostname : String) (minutes : Int64) (url : Option String) :
    Procedure Reply := do
  let n := minutes.toInt
  refuseIf (decide (n < 1 ∨ maxOverrideMinutes < n)) (.invalidMinutes n)
  match HostPattern.hostname? hostname with
  | none => throw (.invalidHostname hostname)
  | some host =>
    match o.now.instant.after? (n.toNat * Instant.minuteNanos) with
    | none => throw (.invalidMinutes n)
    | some requested =>
      let s ← load
      let overrides := s.overrides.extend host requested
      let till := (overrides.get? host).getD requested
      commit o.now { s with overrides } "override"
      return .grant ⟨host, till, url.getD (homePage host)⟩

def block (o : Occasion) (url : String) : Procedure Reply := do
  match (← attempt (urlOf url)).host? with
  | none => throw (.invalidUrl url .noHost)
  | some host =>
    let host := String.ofList (Text.lower host.toList)
    let s ← load
    let known := s.rules.find? fun r =>
      r.kind == .wildcard && !r.allow && Text.lower r.pattern.toList == Text.lower host.toList
    match known with
    | some rule => return .rule rule
    | none =>
      let rule : Rule :=
        ⟨o.freshRuleId, host, .wildcard, s.defaultBlockMode, false, none, some siteNote⟩
      commit o.now { s with rules := s.rules ++ [rule] } "addCurrentSite"
      return .rule rule

def choosePin (o : Occasion) (pin : String) (current : Option String) : Procedure Reply := do
  refuseIf (Text.isBlankString pin) (.invalidSettings .emptyPin)
  let s ← load
  attempt (s.checkPin current)
  commit o.now { s with pin := PinRecord.ofPin pin o.freshSalt } "setPin"
  return .done

def takeOver (o : Occasion) (policy : PolicyExport) (pin : Option String) : Procedure Reply := do
  let s ← load
  attempt (s.authorize pin)
  let s ← attempt (s.imported policy).normalized
  check s.fault?
  (← suspendedRules).forM cancel
  commit o.now s "import"
  return .done

def judge (url : String) : Procedure Reply := do
  let _ ← attempt (urlOf url)
  return .verdict (Verdict.of (← installed) url)

def procedure (o : Occasion) : Command → Procedure Reply
  | refresh reason => do return .report (← pass o.now reason)
  | viewSettings => do return .settings (← load).redacted
  | switchTo enabled => switch o enabled
  | patchSettings changes pin => patch o changes pin
  | addRule draft => add o draft
  | removeRule id => remove o id
  | patchRule changes => patchedRule o changes
  | findBlocker url => blocker url
  | suspend rule url => letThrough o rule url
  | resume rule => restore o rule
  | grantOverride hostname minutes url => override o hostname minutes url
  | blockSite url => block o url
  | changePin pin current => choosePin o pin current
  | exportPolicy => do return .policy (← load).exported
  | importPolicy policy pin => takeOver o policy pin
  | listDirectives => do return .directives (← installed)
  | navigate url => judge url

end Command

/-! ## Runs -/

structure Outcome where
  result : Except Failure Reply
  engine : Engine
  /-- Whether there was a pass, even one that failed. -/
  passed : Bool

def Procedure.outcome (p : Procedure Reply) (e : Engine) : Outcome :=
  let (result, w) := p.on ⟨e, false⟩
  ⟨result, w.engine, w.passed⟩

/-- Runs one command. -/
def Engine.run (e : Engine) (o : Occasion) (c : Command) : Outcome :=
  (c.procedure o).outcome e

end SiteGuard
