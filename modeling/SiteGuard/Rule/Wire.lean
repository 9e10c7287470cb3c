import SiteGuard.Json.Wire
import SiteGuard.Rule

/-!
# Rules as JSON

Fields that are left out take their defaults; an absent schedule or note is not
written.
-/

namespace SiteGuard

open Json

/-! ## Names -/

instance : Wire RuleKind where
  shape := .choice ["exact", "wildcard", "regex"]
  pack k := (match k with | .exact => 0 | .wildcard => 1 | .regex => 2 : Fin 3)
  unpack (i : Fin 3) := match i with | 0 => .exact | 1 => .wildcard | 2 => .regex

instance : Wire BlockMode where
  shape := .choice ["hard", "soft"]
  pack m := (match m with | .hard => 0 | .soft => 1 : Fin 2)
  unpack (i : Fin 2) := match i with | 0 => .hard | 1 => .soft

/-! ## Optional fields -/

def absentOr (pack : α → β) : Option α → Option (Option β)
  | none => none
  | some a => some (some (pack a))

def orAbsent (unpack : β → α) (slot : Option (Option β)) : Option α :=
  (slot.bind id).map unpack

/-! ## Schedules -/

def scheduleRow : Row :=
  .field "days" false (.nullable (.list (.integer .byte)))
    (.field "start" false (.nullable .text)
      (.field "end" false (.nullable .text)
        (.field "timezone" false .text .done)))

instance : Wire Schedule where
  shape := .record "Schedule" scheduleRow
  pack s := (absentOr id s.days, absentOr id s.start, absentOr id s.finish, some s.timezone, ())
  unpack := fun (days, start, finish, timezone, ()) =>
    ⟨orAbsent id days, orAbsent id start, orAbsent id finish, timezone.getD "auto"⟩

/-! ## Rules -/

def ruleRow : Row :=
  .field "id" false .text
    (.field "pattern" false .text
      (.field "type" false (Wire.shape RuleKind)
        (.field "mode" false (Wire.shape BlockMode)
          (.field "allow" false .bool
            (.field "schedule" false (.nullable (Wire.shape Schedule))
              (.field "notes" false (.nullable .text) .done))))))

instance : Wire Rule where
  shape := .record "Rule" ruleRow
  pack r :=
    (some r.id, some r.pattern, some (Wire.pack r.kind), some (Wire.pack r.mode), some r.allow,
      absentOr Wire.pack r.schedule, absentOr id r.notes, ())
  unpack := fun (key, pattern, kind, mode, allow, schedule, notes, ()) =>
    ⟨key.getD "", pattern.getD "", (kind.map Wire.unpack).getD .wildcard,
      (mode.map Wire.unpack).getD .hard, allow.getD false, orAbsent Wire.unpack schedule,
      orAbsent id notes⟩

/-! ## Drafts -/

def draftRow : Row :=
  .field "id" false (.nullable .text)
    (.field "pattern" false .text
      (.field "type" false (.nullable (Wire.shape RuleKind))
        (.field "mode" false (.nullable (Wire.shape BlockMode))
          (.field "allow" false .bool
            (.field "schedule" false (.nullable (Wire.shape Schedule))
              (.field "notes" false (.nullable .text) .done))))))

instance : Wire RuleDraft where
  shape := .record "RuleDraft" draftRow
  pack d :=
    (absentOr id d.id, some d.pattern, absentOr Wire.pack d.kind, absentOr Wire.pack d.mode,
      some d.allow, absentOr Wire.pack d.schedule, absentOr id d.notes, ())
  unpack := fun (key, pattern, kind, mode, allow, schedule, notes, ()) =>
    ⟨orAbsent id key, pattern.getD "", orAbsent Wire.unpack kind, orAbsent Wire.unpack mode,
      allow.getD false, orAbsent Wire.unpack schedule, orAbsent id notes⟩

end SiteGuard
