import Mathlib.Data.List.Induction
import SiteGuard.Proofs.Overrides
import SiteGuard.Proofs.Settings.Wire
import SiteGuard.Proofs.Steps
import SiteGuard.Settings.Merge

/-!
# Merging settings

A patch that does not name a field leaves the member of that field as it was
written.  So the overrides that come of such a patch have the keys that there were,
and the rules are the same ones.  A field that is guarded stays in any case.
-/

namespace SiteGuard

/-! ## Members -/

namespace Json

theorem valuesOf_insert {key other : String} (h : other ≠ key) (value : Json)
    (members : List (String × Json)) :
    valuesOf key (insert members other value) = valuesOf key members := by
  induction members with
  | nil =>
      simp [insert, valuesOf, h]
  | cons m rest ih =>
      rcases m with ⟨k, v⟩
      unfold insert
      split
      · rename_i hk
        simp [valuesOf, hk, h]
      · unfold valuesOf at ih ⊢
        rw [List.filterMap_cons, List.filterMap_cons, ih]

theorem valuesOf_overlay {isProtected : String → Bool} {key : String}
    {patch : List (String × Json)} (h : ∀ m ∈ patch, m.1 ≠ key) (base : List (String × Json)) :
    valuesOf key (overlay isProtected base patch) = valuesOf key base := by
  unfold overlay
  induction patch generalizing base with
  | nil =>
      rfl
  | cons m rest ih =>
      rw [List.foldl_cons, ih fun m hm => h m (List.mem_cons_of_mem _ hm)]
      split
      · rfl
      · exact valuesOf_insert (h m List.mem_cons_self) m.2 base

theorem valuesOf_overlay_of_guarded {isProtected : String → Bool} {key : String}
    (h : isProtected key = true) (patch base : List (String × Json)) :
    valuesOf key (overlay isProtected base patch) = valuesOf key base := by
  unfold overlay
  induction patch generalizing base with
  | nil =>
      rfl
  | cons m rest ih =>
      rw [List.foldl_cons, ih]
      split
      · rfl
      · rename_i hopen
        apply valuesOf_insert
        rintro rfl
        exact hopen h

theorem valuesOf_insert_self (key : String) (value : Json) (members : List (String × Json)) :
    valuesOf key (insert members key value) = value :: (valuesOf key members).tail := by
  induction members with
  | nil =>
      simp [insert, valuesOf]
  | cons m rest ih =>
      rcases m with ⟨k, v⟩
      unfold insert
      split
      · rename_i hk
        simp [valuesOf, hk]
      · rename_i hk
        unfold valuesOf at ih ⊢
        simp [hk, ih]

theorem tail_valuesOf_overlay {isProtected : String → Bool} {key : String}
    {base : List (String × Json)} (h : (valuesOf key base).tail = [])
    (patch : List (String × Json)) :
    (valuesOf key (overlay isProtected base patch)).tail = [] := by
  unfold overlay
  induction patch generalizing base with
  | nil =>
      exact h
  | cons m rest ih =>
      rw [List.foldl_cons]
      apply ih
      split
      · exact h
      · by_cases hkey : m.1 = key
        · rw [hkey, valuesOf_insert_self]
          exact h
        · rw [valuesOf_insert hkey]
          exact h

theorem lookup_concat (key : String) (members : List (String × Json)) (m : String × Json) :
    lookup key (members ++ [m]) = if m.1 = key then some m.2 else lookup key members := by
  unfold lookup
  rw [List.reverse_append, List.reverse_singleton, List.singleton_append, List.find?_cons]
  by_cases hkey : m.1 = key
  · simp [hkey]
  · simp [hkey, beq_eq_false_iff_ne.mpr hkey]

theorem valuesOf_overlay_of_lookup {isProtected : String → Bool} {key : String}
    {base patch : List (String × Json)} {value : Json} (h : (valuesOf key base).tail = [])
    (hopen : isProtected key = false) (hvalue : lookup key patch = some value) :
    valuesOf key (overlay isProtected base patch) = [value] := by
  induction patch using List.reverseRecOn with
  | nil =>
      cases hvalue
  | append_singleton front m ih =>
      have hstep : overlay isProtected base (front ++ [m]) =
          if isProtected m.1 then overlay isProtected base front
          else insert (overlay isProtected base front) m.1 m.2 := by
        unfold overlay
        rw [List.foldl_append]
        rfl
      rw [lookup_concat] at hvalue
      rw [hstep]
      by_cases hkey : m.1 = key
      · rw [if_pos hkey, Option.some.injEq] at hvalue
        rw [hkey, hopen, if_neg Bool.false_ne_true, valuesOf_insert_self,
          tail_valuesOf_overlay h, hvalue]
      · rw [if_neg hkey] at hvalue
        split
        · exact ih hvalue
        · rw [valuesOf_insert hkey]
          exact ih hvalue

theorem ne_of_lookup_eq_none {key : String} {members : List (String × Json)}
    (h : lookup key members = none) : ∀ m ∈ members, m.1 ≠ key := by
  intro m hm hkey
  have hnone := Option.map_eq_none_iff.mp h
  have hnot := List.find?_eq_none.mp hnone m (List.mem_reverse.mpr hm)
  exact hnot (beq_iff_eq.mpr hkey)

/-! ## Fields -/

theorem ofMembers_field {key : String} {s : Shape} {rest : Row} {members : List (String × Json)}
    {slot : Option s.Val} {vs : rest.Val}
    (h : (Row.field key false s rest).ofMembers members = some (slot, vs)) :
    rest.ofMembers members = some vs ∧
      ∀ j, valuesOf key members = [j] → s.ofJson j = slot := by
  unfold Row.ofMembers at h
  split at h
  · rename_i hvalues
    rcases Option.bind_eq_some_iff.mp h with ⟨ws, hws, h⟩
    cases h
    refine ⟨hws, ?_⟩
    intro j hj
    rw [hj] at hvalues
    cases hvalues
  · rename_i j hvalues
    rcases Option.bind_eq_some_iff.mp h with ⟨w, hw, h⟩
    rcases Option.bind_eq_some_iff.mp h with ⟨ws, hws, h⟩
    cases h
    refine ⟨hws, ?_⟩
    intro j' hj'
    rw [hvalues] at hj'
    cases hj'
    exact hw
  · cases h

theorem object_of_dict {s : Shape} {j : Json} {entries : List (String × s.Val)}
    (h : (Shape.dict s).ofJson j = some entries) : ∃ members, j = .object members := by
  cases j with
  | object members =>
      exact ⟨members, rfl⟩
  | _ =>
      cases h

theorem keys_of_dict {s : Shape} {members : List (String × Json)} {entries : List (String × s.Val)}
    (h : (Shape.dict s).ofJson (.object members) = some entries) :
    entries.map (·.1) = members.map (·.1) := by
  have hread : members.mapM (fun m => (s.ofJson m.2).map fun v => (m.1, v)) = some entries := h
  clear h
  induction members generalizing entries with
  | nil =>
      cases hread
      rfl
  | cons m rest ih =>
      rw [List.mapM_cons] at hread
      rcases Option.bind_eq_some_iff.mp hread with ⟨e, he, hread⟩
      rcases Option.bind_eq_some_iff.mp hread with ⟨es, hes, hread⟩
      cases hread
      rcases Option.map_eq_some_iff.mp he with ⟨v, _, rfl⟩
      rw [List.map_cons, List.map_cons, ih hes]

theorem merge_eq_ok {α : Type} [Wire α] {base merged : α} {patch : Json} {guarded : List String}
    (h : merge base patch guarded = .ok merged) :
    ∃ changes members, patch = .object changes ∧ toJson base = .object members ∧
      ofJson? α (.object (overlay guarded.contains members changes)) = some merged := by
  unfold merge at h
  split at h
  · rename_i changes members hbase
    dsimp only at h
    split at h
    · rename_i found hread
      cases h
      exact ⟨changes, members, rfl, hbase, hread⟩
    · cases h
  · cases h
  · cases h

end Json

/-! ## Rules -/

namespace Rule

open Json

theorem toJson_id (r : Rule) : ∃ members, toJson r = .object members ∧
    valuesOf "id" members = [Shape.text.toJson r.id] := by
  rcases r with ⟨id, pattern, kind, mode, allow, schedule, notes⟩
  refine ⟨_, rfl, ?_⟩
  cases schedule with
  | none =>
      cases notes with
      | none =>
          rfl
      | some notes =>
          rfl
  | some schedule =>
      cases notes with
      | none =>
          rfl
      | some notes =>
          rfl

theorem id_of_ofJson {members : List (String × Json)} {r : Rule} {id : String}
    (h : ofJson? Rule (.object members) = some r)
    (hvalues : valuesOf "id" members = [Shape.text.toJson id]) : r.id = id := by
  rcases Option.map_eq_some_iff.mp h with ⟨v, hv, rfl⟩
  have hfields : ruleRow.ofMembers members = some v := hv
  have hslot : some id = v.1 := (ofMembers_field hfields).2 _ hvalues
  show v.1.getD "" = id
  rw [← hslot]
  rfl

theorem id_of_merge {r merged : Rule} {patch : Json} {guarded : List String}
    (hguarded : guarded.contains "id" = true) (h : merge r patch guarded = .ok merged) :
    merged.id = r.id := by
  rcases merge_eq_ok h with ⟨changes, members, _, hbase, hread⟩
  rcases toJson_id r with ⟨members', hbase', hvalues⟩
  rw [hbase] at hbase'
  cases hbase'
  apply id_of_ofJson hread
  rw [valuesOf_overlay_of_guarded hguarded]
  exact hvalues

end Rule

/-! ## Settings -/

namespace Settings

open Json

theorem toJson_overrides (s : Settings) : ∃ members, toJson s = .object members ∧
    valuesOf "overrides" members =
      [.object (s.overrides.entries.map fun e => (e.1, Shape.instant.toJson e.2))] := by
  refine ⟨_, rfl, ?_⟩
  rfl

theorem keys_of_ofJson {members : List (String × Json)} {j : Json} {s : Settings}
    (h : ofJson? Settings (.object members) = some s) (hvalues : valuesOf "overrides" members = [j])
    {key : String} (hkey : key ∈ s.overrides.keys) :
    ∃ entries, j = .object entries ∧ key ∈ entries.map (·.1) := by
  rcases Option.map_eq_some_iff.mp h with ⟨v, hv, rfl⟩
  have hfields : settingsRow.ofMembers members = some v := hv
  iterate 7 replace hfields := (ofMembers_field hfields).1
  have hslot := (ofMembers_field hfields).2 j hvalues
  have hkeys : key ∈ SortedMap.keys ((Option.map Wire.unpack v.2.2.2.2.2.2.2.1).getD
      (SortedMap.empty : Overrides)) := hkey
  rw [← hslot] at hkeys
  cases hread : (Wire.shape Overrides).ofJson j with
  | none =>
      rw [hread] at hkeys
      cases hkeys
  | some found =>
      rw [hread] at hkeys
      rcases object_of_dict hread with ⟨entries, rfl⟩
      refine ⟨entries, rfl, ?_⟩
      rw [← keys_of_dict hread]
      exact SortedMap.keys_ofList_subset found hkeys

/-- A merge takes the keys of the overrides from the settings or from the patch. -/
theorem keys_of_merge {s merged : Settings} {patch : Json} {guarded : List String}
    (hopen : guarded.contains "overrides" = false) (h : merge s patch guarded = .ok merged)
    {key : String} (hkey : key ∈ merged.overrides.keys) :
    (patch.get? "overrides" = none ∧ key ∈ s.overrides.keys) ∨
      ∃ entries, patch.get? "overrides" = some (.object entries) ∧ key ∈ entries.map (·.1) := by
  rcases merge_eq_ok h with ⟨changes, members, rfl, hbase, hread⟩
  rcases toJson_overrides s with ⟨members', hbase', hvalues⟩
  rw [hbase] at hbase'
  cases hbase'
  cases hpatch : Json.get? "overrides" (.object changes) with
  | none =>
      have hkept : valuesOf "overrides" (overlay guarded.contains members changes) = _ :=
        (valuesOf_overlay (ne_of_lookup_eq_none hpatch) members).trans hvalues
      rcases keys_of_ofJson hread hkept hkey with ⟨entries, hentries, hmem⟩
      cases hentries
      rw [List.map_map] at hmem
      exact Or.inl ⟨rfl, hmem⟩
  | some j =>
      have hone : (valuesOf "overrides" members).tail = [] := by
        rw [hvalues]
        rfl
      have hnew : valuesOf "overrides" (overlay guarded.contains members changes) = [j] :=
        valuesOf_overlay_of_lookup hone hopen hpatch
      rcases keys_of_ofJson hread hnew hkey with ⟨entries, rfl, hmem⟩
      exact Or.inr ⟨entries, rfl, hmem⟩

theorem toJson_rules (s : Settings) : ∃ members, toJson s = .object members ∧
    valuesOf "rules" members = [(Shape.list (Wire.shape Rule)).toJson (s.rules.map Wire.pack)] := by
  refine ⟨_, rfl, ?_⟩
  rfl

theorem rules_of_ofJson {members : List (String × Json)} {s : Settings} {rules : List Rule}
    (h : ofJson? Settings (.object members) = some s)
    (hvalues : valuesOf "rules" members =
      [(Shape.list (Wire.shape Rule)).toJson (rules.map Wire.pack)]) : s.rules = rules := by
  rcases Option.map_eq_some_iff.mp h with ⟨v, hv, rfl⟩
  have hfields : settingsRow.ofMembers members = some v := hv
  iterate 5 replace hfields := (ofMembers_field hfields).1
  have hslot := (ofMembers_field hfields).2 _ hvalues
  have hread : (Shape.list (Wire.shape Rule)).ofJson
      ((Shape.list (Wire.shape Rule)).toJson (rules.map Wire.pack)) = some (rules.map Wire.pack) :=
    Shape.ofJson_toJson _ rfl _
  rw [hread] at hslot
  show (v.2.2.2.2.2.1.getD []).map Wire.unpack = rules
  rw [← hslot]
  exact map_unpack_pack rules

theorem rules_of_merge {s merged : Settings} {patch : Json} {guarded : List String}
    (h : merge s patch guarded = .ok merged) (hpatch : patch.get? "rules" = none) :
    merged.rules = s.rules := by
  rcases merge_eq_ok h with ⟨changes, members, rfl, hbase, hread⟩
  rcases toJson_rules s with ⟨members', hbase', hvalues⟩
  rw [hbase] at hbase'
  cases hbase'
  apply rules_of_ofJson hread
  exact (valuesOf_overlay (ne_of_lookup_eq_none hpatch) members).trans hvalues

theorem toJson_pin (s : Settings) : ∃ members, toJson s = .object members ∧
    valuesOf "pin" members = [toJson s.pin] := by
  refine ⟨_, rfl, ?_⟩
  rfl

theorem pin_of_ofJson {members : List (String × Json)} {s : Settings} {pin : PinRecord}
    (h : ofJson? Settings (.object members) = some s)
    (hvalues : valuesOf "pin" members = [toJson pin]) : s.pin = pin := by
  rcases Option.map_eq_some_iff.mp h with ⟨v, hv, rfl⟩
  have hfields : settingsRow.ofMembers members = some v := hv
  iterate 6 replace hfields := (ofMembers_field hfields).1
  have hslot := (ofMembers_field hfields).2 _ hvalues
  have hread : (Wire.shape PinRecord).ofJson (toJson pin) = some (Wire.pack pin) :=
    Shape.ofJson_toJson _ rfl _
  rw [hread] at hslot
  show (v.2.2.2.2.2.2.1.map Wire.unpack).getD PinRecord.none = pin
  rw [← hslot]
  exact LawfulWire.unpack_pack pin

theorem pin_of_merge {s merged : Settings} {patch : Json} {guarded : List String}
    (hguarded : guarded.contains "pin" = true) (h : merge s patch guarded = .ok merged) :
    merged.pin = s.pin := by
  rcases merge_eq_ok h with ⟨changes, members, rfl, hbase, hread⟩
  rcases toJson_pin s with ⟨members', hbase', hvalues⟩
  rw [hbase] at hbase'
  cases hbase'
  apply pin_of_ofJson hread
  rw [valuesOf_overlay_of_guarded hguarded]
  exact hvalues

end Settings
end SiteGuard
