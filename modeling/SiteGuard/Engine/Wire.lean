import SiteGuard.Engine.Command
import SiteGuard.Settings.Wire

/-!
# Replies as JSON
-/

namespace SiteGuard

open Calendar

def Engine.Report.toJson (r : Engine.Report) : Json :=
  .object
    [("reason", .text r.reason), ("installed", .nat r.installed), ("added", .nat r.added),
      ("removed", .nat r.removed)]

def Allowance.toJson (a : Allowance) : Json :=
  .object
    [("ruleId", .text a.rule), ("restoreInSeconds", .nat a.seconds), ("navigateTo", .text a.navigateTo)]

def Grant.toJson (g : Grant) : Json :=
  .object
    [("hostname", .text g.hostname), ("until", .text (Rfc3339.writeUtc g.till)),
      ("navigateTo", .text g.navigateTo)]

/-- The value of a reply; a command that only changes something has none. -/
def Reply.toJson? : Reply → Option Json
  | done => none
  | report r => some r.toJson
  | settings v => some v.toJson
  | rule r => some (Json.toJson r)
  | found r => some (Json.option Json.toJson r)
  | allowance a => some a.toJson
  | grant g => some g.toJson
  | policy p => some (Json.toJson p)
  | directives ds => some (.list (ds.map Json.toJson))
  | verdict v => some v.toJson

end SiteGuard
