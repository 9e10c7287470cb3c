import SiteGuard.Directive
import SiteGuard.Settings

/-!
# Plans

Which rules are enforced at a moment, and the directives that enforce them.  In
blocklist mode these are the active rules that block and are neither suspended
nor shielded by an override; in allowlist mode everything is blocked but what
the rules allow.
-/

namespace SiteGuard

open Calendar

/-! ## Shields -/

def homePage (host : String) : String :=
  "https://" ++ host

namespace Rule

/-- Whether a live override takes a rule out: of its own host, or of a host that it catches. -/
def isShielded (r : Rule) (overrides : Overrides) (now : Instant) : Bool :=
  let hosts := (overrides.live now).keys
  (match r.overrideKey? with
    | some key => hosts.contains key
    | none => false)
    || hosts.any fun host => r.catches (homePage host)

end Rule

/-! ## Plans -/

namespace Settings

def blockingRules (s : Settings) (now : Moment) (suspended : List String) : List Rule :=
  s.rules.filter fun r =>
    !r.allow && !suspended.contains r.id && activeAt r.schedule now
      && !r.isShielded s.overrides now.instant

def allowingRules (s : Settings) (suspended : List String) : List Rule :=
  s.rules.filter fun r => r.allow && !suspended.contains r.id

def plan (s : Settings) (now : Moment) (suspended : List String) (interstitial : Url) :
    List Directive :=
  if !s.enabled then []
  else if s.allowlistMode then
    let caught :=
      if suspended.contains Directive.catchAllRule then []
      else [Directive.catchAll interstitial]
    caught
      ++ Directive.ofRules interstitial Directive.allowlistPriority (caught.map (·.id))
        (s.allowingRules suspended)
  else
    Directive.ofRules interstitial Directive.blocklistPriority []
      (s.blockingRules now suspended)

end Settings
end SiteGuard
