import SiteGuard.Proofs.Json.Complaint
import SiteGuard.Proofs.Merge
import SiteGuard.Proofs.Settings.Pin
import SiteGuard.Store

/-!
# Settings with another PIN

Settings are twins if they differ in the contents of their PIN records alone, and
these are written equally long.  What is read, merged and checked is the same for
both, but for the record that is carried along.
-/

namespace SiteGuard

open Json

/-! ## Twins -/

namespace Settings

def withPin (s : Settings) (pin : PinRecord) : Settings :=
  { s with pin }

/-- The same settings, but for what is in the PIN record. -/
inductive Twin (s : Settings) : Settings → Prop where
  | mk {q : PinRecord} (h : s.pin.Alike q) : Twin s (s.withPin q)

theorem Twin.refl (s : Settings) : s.Twin s :=
  .mk (.refl s.pin)

variable {s s' : Settings}

theorem Twin.view {α : Type} {f : Settings → α} (h : s.Twin s')
    (hf : ∀ s q, f (s.withPin q) = f s) : f s' = f s := by
  cases h with
  | mk h =>
      exact hf s _

theorem Twin.update {f : Settings → Settings} (h : s.Twin s')
    (hf : ∀ s q, f (s.withPin q) = (f s).withPin q) : (f s).Twin (f s') := by
  have hself : f s = (f s).withPin s.pin :=
    hf s s.pin
  have hpin : (f s).pin = s.pin := by
    rw [hself]
    rfl
  cases h with
  | mk h =>
      rw [hf]
      exact .mk (hpin.symm ▸ h)

theorem Twin.isSet (h : s.Twin s') : s'.pin.isSet = s.pin.isSet := by
  cases h with
  | mk h =>
      exact h.set

theorem Twin.redacted (h : s.Twin s') : s'.redacted = s.redacted := by
  cases h with
  | @mk q h =>
      show SettingsView.mk _ q.isSet = _
      rw [h.set]
      rfl

theorem Twin.checkPin (h : s.Twin s') {candidate : Option String}
    (hnone : given? candidate = none) : s'.checkPin candidate = s.checkPin candidate := by
  unfold Settings.checkPin
  rw [hnone, h.isSet]

theorem Twin.authorize (h : s.Twin s') {candidate : Option String}
    (hnone : given? candidate = none) : s'.authorize candidate = s.authorize candidate := by
  have hcheck := h.checkPin hnone
  cases h with
  | mk h =>
      unfold Settings.authorize
      rw [hcheck]
      rfl

theorem Twin.normalized (h : s.Twin s') : Matched Twin s.normalized s'.normalized := by
  cases h with
  | @mk q h =>
      have hsame : (s.withPin q).overrides = s.overrides :=
        rfl
      unfold Settings.normalized
      rw [hsame]
      cases s.overrides.normalize with
      | error key =>
          exact .error _
      | ok overrides =>
          exact .ok (.mk h)

/-! ## Texts -/

theorem toJson_withPin (s : Settings) (q : PinRecord) : toJson (s.withPin q) =
    .object (s.members.take 6 ++ ("pin", toJson q) :: s.members.drop 7) :=
  rfl

theorem Twin.size (h : s.Twin s') : (Document.saved s').size = (Document.saved s).size := by
  cases h with
  | @mk q h =>
      have hparts := size_exchange (s.members.take 6) (s.members.drop 7) "pin" (toJson s.pin)
        (toJson q)
      have hpin := h.size
      rw [← toJson_withPin, ← toJson_withPin] at hparts
      show (toJson (s.withPin q)).size = (toJson (s.withPin s.pin)).size
      omega

end Settings

/-! ## Reading -/

namespace Json

theorem valuesOf_exchange {key other : String} (h : other ≠ key) (front back : List (String × Json))
    (j j' : Json) :
    valuesOf other (front ++ (key, j') :: back) = valuesOf other (front ++ (key, j) :: back) := by
  unfold valuesOf
  simp only [List.filterMap_append, List.filterMap_cons, h.symm, if_false]

theorem valuesOf_overlay_congr {key : String} {base base' : List (String × Json)}
    (h : valuesOf key base' = valuesOf key base) (isProtected : String → Bool)
    (patch : List (String × Json)) :
    valuesOf key (overlay isProtected base' patch) =
      valuesOf key (overlay isProtected base patch) := by
  unfold overlay
  induction patch generalizing base base' with
  | nil =>
      exact h
  | cons m rest ih =>
      rw [List.foldl_cons, List.foldl_cons]
      apply ih
      split
      · exact h
      · by_cases hkey : m.1 = key
        · rw [hkey, valuesOf_insert_self, valuesOf_insert_self, h]
        · rw [valuesOf_insert hkey, valuesOf_insert hkey, h]

variable {key : String} {s : Shape} {rest : Row} {members members' : List (String × Json)}

theorem ofMembers_before {f : rest.Val → rest.Val}
    (hkey : valuesOf key members' = valuesOf key members)
    (hrest : rest.ofMembers members' = (rest.ofMembers members).map f) :
    (Row.field key false s rest).ofMembers members' =
      ((Row.field key false s rest).ofMembers members).map fun v => (v.1, f v.2) := by
  simp only [Row.ofMembers, hkey, hrest]
  split
  · cases rest.ofMembers members with
    | none =>
        rfl
    | some vs =>
        rfl
  · rename_i j _
    cases s.ofJson j with
    | none =>
        rfl
    | some v =>
        cases rest.ofMembers members with
        | none =>
            rfl
        | some vs =>
            rfl
  · rfl

theorem ofMembers_at {j j' : Json} {v v' : s.Val} (hvalues : valuesOf key members = [j])
    (hvalues' : valuesOf key members' = [j']) (hread : s.ofJson j = some v)
    (hread' : s.ofJson j' = some v') (hrest : rest.ofMembers members' = rest.ofMembers members) :
    (Row.field key false s rest).ofMembers members' =
      ((Row.field key false s rest).ofMembers members).map fun w => (some v', w.2) := by
  simp only [Row.ofMembers, hvalues, hvalues', hread, hread', hrest]
  cases rest.ofMembers members with
  | none =>
      rfl
  | some vs =>
      rfl

end Json

namespace Settings

variable {s s' : Settings}

/-- Where only the member of the record differs, so do the settings that are read. -/
theorem ofJson?_withPin {members members' : List (String × Json)} {p q : PinRecord}
    (hsame : ∀ key, key ≠ "pin" → valuesOf key members' = valuesOf key members)
    (hpin : valuesOf "pin" members = [toJson p]) (hpin' : valuesOf "pin" members' = [toJson q]) :
    ofJson? Settings (.object members') =
      (ofJson? Settings (.object members)).map (·.withPin q) := by
  have hread : ∀ r : PinRecord, (Wire.shape PinRecord).ofJson (toJson r) = some (Wire.pack r) :=
    fun r => Shape.ofJson_toJson _ rfl _
  have hlast : (Row.field "overrides" false (Wire.shape Overrides) .done).ofMembers members' =
      (Row.field "overrides" false (Wire.shape Overrides) .done).ofMembers members := by
    simp only [Row.ofMembers, hsame "overrides" (by decide)]
  have hfields : ∃ f : settingsRow.Val → settingsRow.Val,
      (∀ v, (Wire.unpack (f v) : Settings) = (Wire.unpack v : Settings).withPin q) ∧
        settingsRow.ofMembers members' = (settingsRow.ofMembers members).map f := by
    refine ⟨_, ?_, ofMembers_before (hsame "enabled" (by decide))
      (ofMembers_before (hsame "allowlistMode" (by decide))
        (ofMembers_before (hsame "defaultBlockMode" (by decide))
          (ofMembers_before (hsame "requirePinForChanges" (by decide))
            (ofMembers_before (hsame "defaultOverrideMinutes" (by decide))
              (ofMembers_before (hsame "rules" (by decide))
                (ofMembers_at hpin hpin' (hread p) (hread q) hlast))))))⟩
    intro v
    rfl
  rcases hfields with ⟨f, hf, hfields⟩
  show Option.map (Wire.unpack (α := Settings)) (settingsRow.ofMembers members') =
    Option.map (·.withPin q) (Option.map (Wire.unpack (α := Settings))
      (settingsRow.ofMembers members))
  rw [hfields]
  cases settingsRow.ofMembers members with
  | none =>
      rfl
  | some v =>
      exact congrArg some (hf v)

theorem complaint_withPin {members members' : List (String × Json)} {p q : PinRecord}
    (hsame : ∀ key, key ≠ "pin" → valuesOf key members' = valuesOf key members)
    (hpin : valuesOf "pin" members = [toJson p]) (hpin' : valuesOf "pin" members' = [toJson q]) :
    complaint Settings (.object members') = complaint Settings (.object members) := by
  have hshape : ∀ f ∈ settingsRow.fields, f.1 = "pin" → f.2 = Wire.shape PinRecord := by
    simp [settingsRow, Row.fields]
  have hnone : ∀ r : PinRecord, (Wire.shape PinRecord).complaint? (toJson r) = none := by
    intro r
    rw [Shape.complaint?_eq_none_iff]
    exact Option.isSome_of_eq_some (Shape.ofJson_toJson _ rfl _)
  apply complaint_congr rfl
  · intro f hf
    by_cases hkey : f.1 = "pin"
    · rw [hkey, hpin, hpin', hshape f hf hkey]
      simp only [List.filterMap_cons, hnone, List.filterMap_nil]
    · rw [hsame f.1 hkey]
  · intro f hf
    by_cases hkey : f.1 = "pin"
    · rw [hkey, hpin, hpin']
      rfl
    · rw [hsame f.1 hkey]

theorem Twin.merge (h : s.Twin s') {guarded : List String}
    (hguarded : guarded.contains "pin" = true) (patch : Json) :
    Matched Twin (Json.merge s patch guarded) (Json.merge s' patch guarded) := by
  cases h with
  | @mk q h =>
      have hbase : toJson s =
          .object (s.members.take 6 ++ ("pin", toJson s.pin) :: s.members.drop 7) :=
        toJson_withPin s s.pin
      unfold Json.merge
      rw [toJson_withPin s q, hbase]
      generalize hfront : s.members.take 6 = front
      generalize hback : s.members.drop 7 = back
      cases patch with
      | object changes =>
          have hpins : ∀ r : PinRecord, valuesOf "pin" (overlay guarded.contains
              (front ++ ("pin", toJson r) :: back) changes) = [toJson r] := by
            intro r
            rcases toJson_pin (s.withPin r) with ⟨members, hmembers, hvalues⟩
            rw [toJson_withPin s r, hfront, hback] at hmembers
            cases hmembers
            rw [valuesOf_overlay_of_guarded hguarded]
            exact hvalues
          have hothers : ∀ key, key ≠ "pin" →
              valuesOf key (overlay guarded.contains (front ++ ("pin", toJson q) :: back) changes) =
                valuesOf key
                  (overlay guarded.contains (front ++ ("pin", toJson s.pin) :: back) changes) :=
            fun key hkey => valuesOf_overlay_congr
              (valuesOf_exchange hkey front back (toJson s.pin) (toJson q)) guarded.contains changes
          have hread := ofJson?_withPin hothers (hpins s.pin) (hpins q)
          have hcomplaint := complaint_withPin hothers (hpins s.pin) (hpins q)
          simp only [hread, hcomplaint]
          cases hmerged : ofJson? Settings (.object (overlay guarded.contains
              (front ++ ("pin", toJson s.pin) :: back) changes)) with
          | none =>
              exact .error _
          | some merged =>
              have hpin : merged.pin = s.pin :=
                pin_of_ofJson hmerged (hpins s.pin)
              exact .ok (.mk (hpin.symm ▸ h))
      | _ =>
          exact .error _

end Settings
end SiteGuard
