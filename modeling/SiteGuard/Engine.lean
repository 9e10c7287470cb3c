import SiteGuard.Directive.Delta
import SiteGuard.Directive.Table
import SiteGuard.Plan
import SiteGuard.Store

/-!
# Engines

An engine keeps the settings and the installed directives in step.  A pass reads
the settings, drops the overrides that have run out, and installs what the plan
asks for.
-/

namespace SiteGuard

open Calendar

/-! ## State -/

/-- A rule that is left out for a while; the ticket names the timer that ends it. -/
structure Suspension where
  rule : String
  ticket : Nat
  deriving DecidableEq

/-- Calls of the backends that fail although the backends are in order. -/
structure Outage where
  installed : Bool
  replace : Bool
  save : Bool
  deriving DecidableEq

def Outage.none : Outage := ⟨false, false, false⟩

structure Engine where
  store : Store
  table : DirectiveTable
  suspended : List Suspension
  /-- The ticket of the next suspension. -/
  nextTicket : Nat
  /-- The page that blocked navigations are sent to. -/
  interstitial : Url
  /-- How long a suspension lasts. -/
  graceSeconds : Nat
  outage : Outage

namespace Engine

def start (store : Store) (interstitial : Url) (graceSeconds : Nat) : Engine :=
  ⟨store, DirectiveTable.empty, [], 0, interstitial, graceSeconds, Outage.none⟩

def settings (e : Engine) : Settings :=
  e.store.load

def suspendedRules (e : Engine) : List String :=
  e.suspended.map (·.rule)

/-! ## Backends -/

def saved (e : Engine) (s : Settings) : Except Failure Engine :=
  if e.outage.save then .error (.storage .refused)
  else (e.store.save s).map fun store => { e with store }

def installed (e : Engine) : Except Failure (List Directive) :=
  if e.outage.installed then .error (.interception .quotaExceeded) else e.table.installed

def replaced (e : Engine) (d : Delta) : Except Failure Engine :=
  if e.outage.replace then .error (.interception .quotaExceeded)
  else (e.table.replace d.remove d.add).map fun table => { e with table }

/-! ## Passes -/

structure Report where
  reason : String
  installed : Nat
  added : Nat
  removed : Nat
  deriving DecidableEq

/-- Stores the settings without the overrides that have run out; a failure is put up with. -/
def purged (e : Engine) (now : Instant) : Engine :=
  if e.settings.expiredCount now = 0 then e
  else
    match e.saved (e.settings.purged now) with
    | .ok e => e
    | .error _ => e

def wanted (e : Engine) (now : Moment) : List Directive :=
  (e.settings.purged now.instant).plan now e.suspendedRules e.interstitial

def install (e : Engine) (wanted : List Directive) (reason : String) :
    Except Failure (Report × Engine) := do
  let delta := Delta.between (← e.installed) wanted
  let report : Report := ⟨reason, wanted.length, delta.add.length, delta.remove.length⟩
  if delta.isEmpty then .ok (report, e) else .ok (report, ← e.replaced delta)

/-- One pass; where it fails, the table has not changed. -/
def pass (e : Engine) (now : Moment) (reason : String) : Except Failure Report × Engine :=
  let wanted := e.wanted now
  let e := e.purged now.instant
  match e.install wanted reason with
  | .ok (report, e) => (.ok report, e)
  | .error f => (.error f, e)

/-! ## Suspensions -/

def released (e : Engine) (rule : String) : List Suspension :=
  e.suspended.filter fun s => s.rule != rule

def suspending (e : Engine) (rule : String) : List Suspension :=
  ⟨rule, e.nextTicket⟩ :: e.released rule

def isSuspended (e : Engine) (rule : String) : Bool :=
  e.suspended.any fun s => s.rule == rule

/-- Suspends exactly the given rules; the ticket of a new suspension is used up. -/
def withSuspended (e : Engine) (suspended : List Suspension) : Engine :=
  { e with
    suspended
    nextTicket :=
      if suspended.any fun s => s.ticket == e.nextTicket && !e.suspended.contains s then
        e.nextTicket + 1
      else e.nextTicket }

/-! ## Restarting -/

/-- A new engine on the same files; suspensions are lost. -/
def restarted (e : Engine) : Engine :=
  { e with
    store := { e.store.reopen with quota := e.store.quota }
    table := e.table.reopen
    suspended := [] }

end Engine
end SiteGuard
