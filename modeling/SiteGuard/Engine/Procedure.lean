import SiteGuard.Engine

/-!
# Procedures

The steps in which commands work on an engine.  They are taken one after the other; where
one of them fails, those behind it are left out, and what has been done stays done.
-/

namespace SiteGuard

open Calendar

/-- The engine as it is by now, and whether there has been a pass, even one that failed. -/
structure Work where
  engine : Engine
  passed : Bool

abbrev Procedure : Type → Type := ExceptT Failure (StateM Work)

namespace Procedure

variable {α : Type}

def on (p : Procedure α) (w : Work) : Except Failure α × Work :=
  (p.run.run w).run

/-! ## Looking -/

def load : Procedure Settings := do
  return (← get).engine.settings

def suspendedRules : Procedure (List String) := do
  return (← get).engine.suspendedRules

def isSuspended (rule : String) : Procedure Bool := do
  return (← get).engine.isSuspended rule

def grace : Procedure Nat := do
  return (← get).engine.graceSeconds

/-! ## Checks -/

def attempt (x : Except Failure α) : Procedure α :=
  match x with
  | .ok a => pure a
  | .error f => throw f

def check (fault : Option Failure) : Procedure Unit :=
  match fault with
  | none => pure ()
  | some f => throw f

def refuseIf (refused : Bool) (f : Failure) : Procedure Unit :=
  if refused then throw f else pure ()

def installed : Procedure (List Directive) := do
  attempt (← get).engine.installed

/-! ## Effects -/

def cancel (rule : String) : Procedure Unit :=
  modify fun w => { w with engine := w.engine.withSuspended (w.engine.released rule) }

def schedule (rule : String) : Procedure Unit :=
  modify fun w => { w with engine := w.engine.withSuspended (w.engine.suspending rule) }

def save (s : Settings) : Procedure Unit := do
  let w ← get
  set { w with engine := ← attempt (w.engine.saved s) }

/-- Passes; what the pass has done stays done where it fails. -/
def pass (now : Moment) (reason : String) : Procedure Engine.Report := do
  let (result, engine) := (← get).engine.pass now reason
  set (Work.mk engine true)
  attempt result

def commit (now : Moment) (s : Settings) (reason : String) : Procedure Unit := do
  save s
  let _ ← pass now reason

end Procedure
end SiteGuard
