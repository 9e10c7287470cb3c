import SiteGuard.Digest.Base64
import SiteGuard.Digest.Sha256
import SiteGuard.Overrides
import SiteGuard.Text.Utf8

/-!
# Settings

The whole policy: switches, rules, the PIN that guards changes, and overrides.
-/

namespace SiteGuard

open Calendar Digest Text

/-! ## PIN -/

/-- The salted hash of a PIN, both parts in Base64. -/
structure PinRecord where
  hash : Option String
  salt : Option String
  deriving DecidableEq

namespace PinRecord

def none : PinRecord := ⟨.none, .none⟩

def isSet (p : PinRecord) : Bool :=
  p.hash.isSome && p.salt.isSome

/-- The hash of a PIN with the bytes of a salt behind it; none if the salt is not Base64. -/
def hash? (pin salt : String) : Option String := do
  let bytes ← Base64.decode? salt.toList
  some (String.ofList (Base64.encode (Sha256.hash (Utf8.encode pin.toList ++ bytes))))

def ofPin (pin : String) (salt : List UInt8) : PinRecord :=
  let text := String.ofList (Base64.encode salt)
  ⟨hash? pin text, some text⟩

/-- Whether a candidate is the PIN of a record; none is where no PIN is set. -/
def accepts (p : PinRecord) (candidate : String) : Bool :=
  match p.hash, p.salt with
  | some hash, some salt => hash? candidate salt == some hash
  | _, _ => false

end PinRecord

/-! ## Settings -/

structure Settings where
  enabled : Bool
  allowlistMode : Bool
  defaultBlockMode : BlockMode
  requirePinForChanges : Bool
  defaultOverrideMinutes : List Int64
  rules : List Rule
  pin : PinRecord
  overrides : Overrides

namespace Settings

def default : Settings :=
  ⟨true, false, .hard, false, [5, 15, 30], [], PinRecord.none, SortedMap.empty⟩

def rule? (s : Settings) (id : String) : Option Rule :=
  s.rules.find? fun r => r.id == id

/-! ## Validity -/

/-- The first thing that is wrong with rules whose ids must not be among those seen. -/
def rulesFault? : (seen : List String) → List Rule → Option Failure
  | _, [] => none
  | seen, r :: rest =>
    if isBlankString r.id then some (.invalidSettings .ruleWithoutId)
    else if seen.contains r.id then some (.duplicateRuleId r.id)
    else (r.fault?).or (rulesFault? (r.id :: seen) rest)

def fault? (s : Settings) : Option Failure :=
  (rulesFault? [] s.rules).or
    (if s.defaultOverrideMinutes.any fun m => m.toInt ≤ 0 then
      some (.invalidSettings .minutesNotPositive)
    else none)

/-! ## Overrides -/

def normalized (s : Settings) : Except Failure Settings :=
  match s.overrides.normalize with
  | .ok overrides => .ok { s with overrides }
  | .error key => .error (.invalidHostname key)

def purged (s : Settings) (now : Instant) : Settings :=
  { s with overrides := s.overrides.live now }

def expiredCount (s : Settings) (now : Instant) : Nat :=
  s.overrides.size - (s.overrides.live now).size

/-! ## Authorization -/

def given? (candidate : Option String) : Option String :=
  candidate.filter fun p => !p.isEmpty

def checkPin (s : Settings) (candidate : Option String) : Except Failure Unit :=
  if !s.pin.isSet then .ok ()
  else
    match given? candidate with
    | none => .error .pinRequired
    | some p => if s.pin.accepts p then .ok () else .error .invalidPin

def authorize (s : Settings) (candidate : Option String) : Except Failure Unit :=
  if s.requirePinForChanges then s.checkPin candidate else .ok ()

end Settings

/-! ## Views -/

/-- Settings without the contents of the PIN record. -/
structure SettingsView where
  settings : Settings
  pinConfigured : Bool

def Settings.redacted (s : Settings) : SettingsView :=
  ⟨{ s with pin := PinRecord.none }, s.pin.isSet⟩

/-- The part of the settings that is carried from one installation to another. -/
structure PolicyExport where
  enabled : Bool
  allowlistMode : Bool
  defaultBlockMode : Option BlockMode
  rules : List Rule

def Settings.exported (s : Settings) : PolicyExport :=
  ⟨s.enabled, s.allowlistMode, some s.defaultBlockMode, s.rules⟩

/-- Takes over an exported policy; everything that it does not carry stays. -/
def Settings.imported (s : Settings) (p : PolicyExport) : Settings :=
  { s with
    enabled := p.enabled
    allowlistMode := p.allowlistMode
    defaultBlockMode := p.defaultBlockMode.getD s.defaultBlockMode
    rules := p.rules }

end SiteGuard
