import SiteGuard.Rule.Wire
import SiteGuard.Settings

/-!
# Settings as JSON

Every field of the settings is written and may be left out; no field may be null.
-/

namespace SiteGuard

open Json

/-! ## PIN -/

instance : Wire PinRecord where
  shape :=
    .record "PinRecord"
      (.field "hash" false (.nullable .text) (.field "salt" false (.nullable .text) .done))
  pack p := (some p.hash, some p.salt, ())
  unpack := fun (hash, salt, ()) => ⟨hash.bind id, salt.bind id⟩

/-! ## Overrides -/

instance : Wire Overrides where
  shape := .dict .instant
  pack o := o.entries
  unpack entries := SortedMap.ofList entries

/-! ## Settings -/

def settingsRow : Row :=
  .field "enabled" false .bool
    (.field "allowlistMode" false .bool
      (.field "defaultBlockMode" false (Wire.shape BlockMode)
        (.field "requirePinForChanges" false .bool
          (.field "defaultOverrideMinutes" false (.list (.integer .long))
            (.field "rules" false (.list (Wire.shape Rule))
              (.field "pin" false (Wire.shape PinRecord)
                (.field "overrides" false (Wire.shape Overrides) .done)))))))

instance : Wire Settings where
  shape := .record "Settings" settingsRow
  pack s :=
    (some s.enabled, some s.allowlistMode, some (Wire.pack s.defaultBlockMode),
      some s.requirePinForChanges, some s.defaultOverrideMinutes, some (s.rules.map Wire.pack),
      some (Wire.pack s.pin), some (Wire.pack s.overrides), ())
  unpack := fun (enabled, allowlistMode, mode, requirePin, minutes, rules, pin, overrides, ()) =>
    ⟨enabled.getD true, allowlistMode.getD false, (mode.map Wire.unpack).getD .hard,
      requirePin.getD false, minutes.getD Settings.default.defaultOverrideMinutes,
      (rules.getD []).map Wire.unpack, (pin.map Wire.unpack).getD PinRecord.none,
      (overrides.map Wire.unpack).getD SortedMap.empty⟩

def SettingsView.toJson (v : SettingsView) : Json :=
  match Json.toJson v.settings with
  | .object members => .object (members ++ [("pinConfigured", .bool v.pinConfigured)])
  | other => other

/-! ## Exported policies -/

instance : Wire PolicyExport where
  shape :=
    .record "PolicyExport"
      (.field "enabled" false .bool
        (.field "allowlistMode" false .bool
          (.field "defaultBlockMode" false (.nullable (Wire.shape BlockMode))
            (.field "rules" true (.list (Wire.shape Rule)) .done))))
  pack p :=
    (some p.enabled, some p.allowlistMode, some (p.defaultBlockMode.map Wire.pack),
      p.rules.map Wire.pack, ())
  unpack := fun (enabled, allowlistMode, mode, rules, ()) =>
    ⟨enabled.getD false, allowlistMode.getD false, orAbsent Wire.unpack mode,
      rules.map Wire.unpack⟩

/-! ## Any value -/

instance : Wire Json where
  shape := .free
  pack j := j
  unpack j := j

end SiteGuard
