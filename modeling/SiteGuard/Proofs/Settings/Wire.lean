import SiteGuard.Proofs.Json.Wire
import SiteGuard.Proofs.SortedMap
import SiteGuard.Settings.Wire

/-!
# Settings as JSON

Nothing is lost where settings, or the rules in them, are written and read again.
-/

namespace SiteGuard

open Json

/-! ## Optional fields -/

theorem orAbsent_absentOr {α β : Type} {pack : α → β} {unpack : β → α}
    (h : ∀ a, unpack (pack a) = a) (a : Option α) : orAbsent unpack (absentOr pack a) = a := by
  cases a with
  | none =>
      rfl
  | some a =>
      exact congrArg some (h a)

theorem orAbsent_id {α : Type} (a : Option α) : orAbsent id (absentOr id a) = a :=
  orAbsent_absentOr (fun _ => rfl) a

/-! ## Rules -/

instance : LawfulWire RuleKind where
  faithful := rfl
  shallow := by decide
  unpack_pack k := by cases k <;> rfl

instance : LawfulWire BlockMode where
  faithful := rfl
  shallow := by decide
  unpack_pack m := by cases m <;> rfl

instance : LawfulWire Schedule where
  faithful := rfl
  shallow := by decide
  unpack_pack s := by
    show Schedule.mk (orAbsent id (absentOr id s.days)) (orAbsent id (absentOr id s.start))
      (orAbsent id (absentOr id s.finish)) s.timezone = s
    rw [orAbsent_id, orAbsent_id, orAbsent_id]

instance : LawfulWire Rule where
  faithful := rfl
  shallow := by decide
  unpack_pack r := by
    show Rule.mk r.id r.pattern (Wire.unpack (Wire.pack r.kind)) (Wire.unpack (Wire.pack r.mode))
      r.allow (orAbsent Wire.unpack (absentOr Wire.pack r.schedule))
      (orAbsent id (absentOr id r.notes)) = r
    rw [LawfulWire.unpack_pack, LawfulWire.unpack_pack, orAbsent_absentOr LawfulWire.unpack_pack,
      orAbsent_id]

/-! ## Settings -/

instance : LawfulWire PinRecord where
  faithful := rfl
  shallow := by decide
  unpack_pack _ := rfl

instance : LawfulWire Overrides where
  faithful := rfl
  shallow := by decide
  unpack_pack o := SortedMap.ofList_entries o

theorem map_unpack_pack {α : Type} [Wire α] [LawfulWire α] (as : List α) :
    (as.map Wire.pack).map Wire.unpack = as := by
  rw [List.map_map]
  exact List.map_id'' LawfulWire.unpack_pack as

instance : LawfulWire Settings where
  faithful := rfl
  shallow := by decide
  unpack_pack s := by
    show Settings.mk s.enabled s.allowlistMode (Wire.unpack (Wire.pack s.defaultBlockMode))
      s.requirePinForChanges s.defaultOverrideMinutes ((s.rules.map Wire.pack).map Wire.unpack)
      (Wire.unpack (Wire.pack s.pin)) (Wire.unpack (Wire.pack s.overrides)) = s
    rw [LawfulWire.unpack_pack, LawfulWire.unpack_pack, LawfulWire.unpack_pack, map_unpack_pack]

/-! ## Exported policies -/

theorem orAbsent_map {α β : Type} {pack : α → β} {unpack : β → α}
    (h : ∀ a, unpack (pack a) = a) (a : Option α) :
    orAbsent unpack (some (a.map pack)) = a := by
  cases a with
  | none =>
      rfl
  | some a =>
      exact congrArg some (h a)

instance : LawfulWire PolicyExport where
  faithful := rfl
  shallow := by decide
  unpack_pack p := by
    show PolicyExport.mk p.enabled p.allowlistMode
      (orAbsent Wire.unpack (some (p.defaultBlockMode.map Wire.pack)))
      ((p.rules.map Wire.pack).map Wire.unpack) = p
    rw [orAbsent_map LawfulWire.unpack_pack, map_unpack_pack]

/-! ## Members -/

def Settings.members (s : Settings) : List (String × Json) :=
  settingsRow.toMembers (Wire.pack s)

end SiteGuard
