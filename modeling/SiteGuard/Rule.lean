import SiteGuard.Pattern.Search
import SiteGuard.Schedule

/-!
# Rules

A rule names sites by a host, by a host with its subdomains, or by a regular
expression, and says whether they are blocked or allowed.
-/

namespace SiteGuard

open Text

/-! ## Kinds and modes -/

inductive RuleKind where
  | exact
  | wildcard
  | regex
  deriving DecidableEq, Repr

/-- How strictly the page that stands in for a blocked one behaves. -/
inductive BlockMode where
  | hard
  | soft
  deriving DecidableEq, Repr

def BlockMode.name : BlockMode → String
  | hard => "hard"
  | soft => "soft"

/-! ## Rules -/

structure Rule where
  id : String
  pattern : String
  kind : RuleKind
  mode : BlockMode
  allow : Bool
  schedule : Option Schedule
  notes : Option String
  deriving DecidableEq

namespace Rule

def fault? (r : Rule) : Option Failure :=
  if isBlankString r.pattern then some .missingPattern
  else if r.kind = .regex ∧ (Pattern.compile? r.pattern).isNone then
    some (.invalidRegex r.pattern)
  else (r.schedule.bind Schedule.fault?).map .invalidSchedule

end Rule

/-! ## Drafts -/

/-- A rule as it is handed in: its id, kind and mode may be left open. -/
structure RuleDraft where
  id : Option String
  pattern : String
  kind : Option RuleKind
  mode : Option BlockMode
  allow : Bool
  schedule : Option Schedule
  notes : Option String
  deriving DecidableEq

namespace RuleDraft

/-- The id that a draft asks for; a blank one asks for none. -/
def chosenId? (d : RuleDraft) : Option String :=
  d.id.filter fun id => !isBlankString id

def toRule (d : RuleDraft) (freshId : String) (defaultMode : BlockMode) : Rule :=
  ⟨d.chosenId?.getD freshId, trimmed d.pattern, d.kind.getD .wildcard, d.mode.getD defaultMode,
    d.allow, d.schedule, d.notes⟩

end RuleDraft
end SiteGuard
