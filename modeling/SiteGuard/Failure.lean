import SiteGuard.Json.Complaint
import SiteGuard.Url.Host

/-!
# Failures

Why a command on the policy is refused or fails.  Each failure has a code that
does not change, a status that tells whose fault it is, and a text.  Some texts end in
words that are not those of this library; such a failure tells all that they depend on.
-/

namespace SiteGuard

/-! ## Causes -/

inductive UrlCause where
  | fault (f : Url.Fault)
  | noHost
  deriving DecidableEq, Repr

inductive ScheduleCause where
  | weekday (day : UInt8)
  | time (text : String)
  deriving DecidableEq, Repr

inductive SettingsCause where
  | notAnObject
  | baseNotAnObject
  | ruleWithoutId
  | minutesNotPositive
  | ruleIdMissing
  | emptyPin
  | undecodable (complaint : Json.Complaint)
  deriving DecidableEq, Repr

inductive StorageCause where
  | noFallback
  | refused
  /-- There is a directory where the file should be. -/
  | directory
  | noTable
  deriving DecidableEq, Repr

inductive InterceptionCause where
  | duplicateId (id : UInt32)
  | quotaExceeded
  | corruptRow (text : String)
  | noTable
  | deletionRefused
  | insertionRefused
  deriving DecidableEq, Repr

inductive Failure where
  | missingPattern
  | invalidRegex (pattern : String)
  | invalidUrl (url : String) (cause : UrlCause)
  | invalidHostname (text : String)
  | invalidMinutes (minutes : Int)
  | invalidSchedule (cause : ScheduleCause)
  | duplicateRuleId (id : String)
  | invalidSettings (cause : SettingsCause)
  | pinRequired
  | invalidPin
  | notFound (id : String)
  | storage (cause : StorageCause)
  | interception (cause : InterceptionCause)
  | engineUnavailable
  deriving DecidableEq, Repr

/-! ## Wording -/

/-- The words in which others refuse what they are given; a failure tells what that was. -/
structure Wording extends Json.Wording where
  pattern : String → String
  row : String → String
  storage : StorageCause → String
  interception : InterceptionCause → String

def UrlCause.message : UrlCause → String
  | fault f => f.message
  | noHost => "no host"

def ScheduleCause.message : ScheduleCause → String
  | weekday day => "weekday " ++ toString day.toNat ++ " out of range 0-6"
  | time text => "time '" ++ text ++ "' is not HH:MM"

def SettingsCause.text (w : Wording) : SettingsCause → String
  | notAnObject => "expected a JSON object"
  | baseNotAnObject => "base is not an object"
  | ruleWithoutId => "rule without id"
  | minutesNotPositive => "defaultOverrideMinutes must be positive"
  | ruleIdMissing => "rule id missing"
  | emptyPin => "PIN must not be empty"
  | undecodable complaint => complaint.phrase w.toWording

def StorageCause.text (w : Wording) : StorageCause → String
  | noFallback => "primary write failed and no fallback is configured"
  | cause => w.storage cause

def InterceptionCause.text (w : Wording) : InterceptionCause → String
  | duplicateId id => "duplicate directive id " ++ toString id.toNat ++ " in one update"
  | quotaExceeded => "rule quota exceeded"
  | corruptRow text => "corrupt directive row: " ++ w.row text
  | cause => w.interception cause

namespace Failure

def code : Failure → String
  | missingPattern => "missing_pattern"
  | invalidRegex _ => "invalid_regex"
  | invalidUrl _ _ => "invalid_url"
  | invalidHostname _ => "invalid_hostname"
  | invalidMinutes _ => "invalid_minutes"
  | invalidSchedule _ => "invalid_schedule"
  | duplicateRuleId _ => "duplicate_rule_id"
  | invalidSettings _ => "invalid_settings"
  | pinRequired => "pin_required"
  | invalidPin => "invalid_pin"
  | notFound _ => "not_found"
  | storage _ => "storage_error"
  | interception _ => "interception_error"
  | engineUnavailable => "engine_unavailable"

def status : Failure → Nat
  | pinRequired => 403
  | invalidPin => 403
  | notFound _ => 404
  | storage _ => 500
  | interception _ => 500
  | engineUnavailable => 503
  | _ => 400

/-- The text of a failure, with the words of others where it ends in those. -/
def text (w : Wording) : Failure → String
  | missingPattern => "rule pattern is empty"
  | invalidRegex pattern => "invalid regex pattern: " ++ w.pattern pattern
  | invalidUrl url cause => "invalid url: " ++ url ++ ": " ++ cause.message
  | invalidHostname text => "invalid hostname: " ++ text
  | invalidMinutes minutes => "override minutes must be positive, got " ++ toString minutes
  | invalidSchedule cause => "invalid schedule: " ++ cause.message
  | duplicateRuleId id => "duplicate rule id: " ++ id
  | invalidSettings cause => "invalid settings: " ++ cause.text w
  | pinRequired => "PIN required"
  | invalidPin => "invalid PIN"
  | notFound id => "rule not found: " ++ id
  | storage cause => "storage error: " ++ cause.text w
  | interception cause => "interception layer error: " ++ cause.text w
  | engineUnavailable => "policy engine is not running"

/-- Whether the words of a failure are all those of this library. -/
def isOwn : Failure → Bool
  | invalidRegex _ => false
  | invalidSettings (.undecodable _) => false
  | storage cause => cause == .noFallback
  | interception (.duplicateId _) => true
  | interception cause => cause == .quotaExceeded
  | _ => true

def silence : Wording where
  quoted _ := ""
  real _ := ""
  instant _ := ""
  pattern _ := ""
  row _ := ""
  storage _ := ""
  interception _ := ""

/-- The text of a failure; none where others word it. -/
def message (f : Failure) : Option String :=
  if f.isOwn then some (f.text silence) else none

end Failure
end SiteGuard
