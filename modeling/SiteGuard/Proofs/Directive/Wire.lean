import SiteGuard.Directive.Wire
import SiteGuard.Proofs.Settings.Wire

/-!
# Everything that is written is read back

Directives tell their parts apart as settings do, so each type that leaves the
library as text comes back from it unchanged.
-/

namespace SiteGuard

open Json

/-! ## Actions -/

instance : LawfulWire QueryParam where
  faithful := rfl
  shallow := by decide
  unpack_pack _ := rfl

instance : LawfulWire Redirection where
  faithful := rfl
  shallow := by decide
  unpack_pack r := by
    rcases r with ⟨url, params⟩
    cases params with
    | none =>
        rfl
    | some params =>
        exact congrArg (fun params => Redirection.mk url (some params)) (map_unpack_pack params)

instance : LawfulWire Action where
  faithful := rfl
  shallow := by decide
  unpack_pack a := by
    cases a with
    | allow =>
        rfl
    | redirect target =>
        exact congrArg Action.redirect (LawfulWire.unpack_pack target)

/-! ## Conditions -/

instance : LawfulWire ResourceType where
  faithful := rfl
  shallow := by decide
  unpack_pack _ := rfl

instance : LawfulWire Condition where
  faithful := rfl
  shallow := by decide
  unpack_pack c := by
    show Condition.mk (orAbsent id (absentOr id c.urlFilter))
      (orAbsent id (absentOr id c.regexFilter))
      ((c.resourceTypes.map Wire.pack).map Wire.unpack) = c
    rw [orAbsent_id, orAbsent_id, map_unpack_pack]

/-! ## Directives -/

instance : LawfulWire Directive where
  faithful := rfl
  shallow := by decide
  unpack_pack d := by
    show Directive.mk d.id d.priority (Wire.unpack (Wire.pack d.action))
      (Wire.unpack (Wire.pack d.condition)) = d
    rw [LawfulWire.unpack_pack, LawfulWire.unpack_pack]

/-! ## Texts -/

/--
The text written for settings, a rule, a schedule, a PIN record, an exported policy
or a directive decodes to the value that it was written for, whatever is in it.
-/
theorem written_decodes :
    (∀ s : Settings, decode Settings (encode s) = .ok s) ∧
      (∀ r : Rule, decode Rule (encode r) = .ok r) ∧
      (∀ s : Schedule, decode Schedule (encode s) = .ok s) ∧
      (∀ p : PinRecord, decode PinRecord (encode p) = .ok p) ∧
      (∀ p : PolicyExport, decode PolicyExport (encode p) = .ok p) ∧
      ∀ d : Directive, decode Directive (encode d) = .ok d :=
  ⟨decode_encode, decode_encode, decode_encode, decode_encode, decode_encode, decode_encode⟩

end SiteGuard
