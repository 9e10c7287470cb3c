import Mathlib.Data.List.Nodup
import SiteGuard.Settings

/-!
# Valid settings

What the checks of schedules, rules and settings let through, said of the values
themselves and not of the order in which they are looked at.
-/

namespace SiteGuard

open Text

/-! ## Schedules -/

/-- The weekdays are some, and the times can be read. -/
structure Schedule.Valid (s : Schedule) : Prop where
  days : ∀ ds, s.days = some ds → ∀ d ∈ ds, d ≤ 6
  start : ∀ t, s.start = some t → (TimeOfDay.parse? t).isSome = true
  finish : ∀ t, s.finish = some t → (TimeOfDay.parse? t).isSome = true

theorem Schedule.fault?_eq_none_iff {s : Schedule} : s.fault? = none ↔ s.Valid := by
  have hdays : (s.days.getD []).find? (fun d => 6 < d) = none ↔
      ∀ ds, s.days = some ds → ∀ d ∈ ds, d ≤ 6 := by
    cases s.days with
    | none =>
        simp
    | some ds =>
        simp
  have htimes : (s.start.toList ++ s.finish.toList).find?
      (fun t => (TimeOfDay.parse? t).isNone) = none ↔
      (∀ t, s.start = some t → (TimeOfDay.parse? t).isSome = true) ∧
        ∀ t, s.finish = some t → (TimeOfDay.parse? t).isSome = true := by
    rw [List.find?_eq_none, List.forall_mem_append]
    simp only [Option.mem_toList, Bool.not_eq_true, Option.isNone_eq_false_iff]
  unfold fault?
  rw [Option.or_eq_none_iff, Option.map_eq_none_iff, Option.map_eq_none_iff, hdays, htimes]
  constructor
  · rintro ⟨hd, hs, hf⟩
    exact ⟨hd, hs, hf⟩
  · intro h
    exact ⟨h.days, h.start, h.finish⟩

/-! ## Rules -/

structure Rule.Valid (r : Rule) : Prop where
  pattern : isBlankString r.pattern = false
  regex : r.kind = .regex → (Pattern.compile? r.pattern).isSome = true
  schedule : ∀ s, r.schedule = some s → s.Valid

theorem Rule.fault?_eq_none_iff {r : Rule} : r.fault? = none ↔ r.Valid := by
  unfold fault?
  split
  · rename_i hblank
    constructor
    · intro h
      cases h
    · intro h
      rw [h.pattern] at hblank
      cases hblank
  · rename_i hpattern
    split
    · rename_i hregex
      constructor
      · intro h
        cases h
      · intro h
        rw [← Option.not_isSome, h.regex hregex.1] at hregex
        cases hregex.2
    · rename_i hregex
      have hschedule : (r.schedule.bind Schedule.fault?).map Failure.invalidSchedule = none ↔
          ∀ s, r.schedule = some s → s.Valid := by
        rw [Option.map_eq_none_iff, Option.bind_eq_none_iff]
        simp only [Schedule.fault?_eq_none_iff]
      rw [hschedule]
      constructor
      · intro h
        refine ⟨Bool.eq_false_iff.mpr hpattern, ?_, h⟩
        intro hkind
        rw [← Option.not_isNone, Bool.not_eq_true', Bool.eq_false_iff]
        exact fun hnone => hregex ⟨hkind, hnone⟩
      · intro h
        exact h.schedule

/-! ## Settings -/

namespace Settings

structure Valid (s : Settings) : Prop where
  ids : ∀ r ∈ s.rules, isBlankString r.id = false
  distinct : (s.rules.map (·.id)).Nodup
  rules : ∀ r ∈ s.rules, r.Valid
  minutes : ∀ m ∈ s.defaultOverrideMinutes, 0 < m.toInt

theorem rulesFault?_eq_none_iff {seen : List String} {rules : List Rule} :
    rulesFault? seen rules = none ↔
      (∀ r ∈ rules, isBlankString r.id = false ∧ r.id ∉ seen ∧ r.Valid) ∧
        (rules.map (·.id)).Nodup := by
  induction rules generalizing seen with
  | nil =>
      simp [rulesFault?]
  | cons r rest ih =>
      unfold rulesFault?
      rw [List.forall_mem_cons, List.map_cons, List.nodup_cons]
      split
      · rename_i hblank
        simp [hblank]
      · rename_i hblank
        split
        · rename_i hseen
          simp [List.contains_iff_mem.mp hseen]
        · rename_i hseen
          rw [List.contains_iff_mem] at hseen
          rw [Option.or_eq_none_iff, Rule.fault?_eq_none_iff, ih]
          constructor
          · rintro ⟨hr, hrest, hnodup⟩
            refine ⟨⟨⟨Bool.eq_false_iff.mpr hblank, hseen, hr⟩, ?_⟩, ?_, hnodup⟩
            · intro r' hr'
              rcases hrest r' hr' with ⟨hid, hnew, hvalid⟩
              exact ⟨hid, fun hmem => hnew (List.mem_cons_of_mem _ hmem), hvalid⟩
            · intro hmem
              rcases List.mem_map.mp hmem with ⟨r', hr', hid⟩
              exact (hrest r' hr').2.1 (hid ▸ List.mem_cons_self)
          · rintro ⟨⟨⟨_, _, hr⟩, hrest⟩, hother, hnodup⟩
            refine ⟨hr, ?_, hnodup⟩
            intro r' hr'
            rcases hrest r' hr' with ⟨hid, hnew, hvalid⟩
            refine ⟨hid, ?_, hvalid⟩
            intro hmem
            rcases List.mem_cons.mp hmem with hsame | hmem
            · exact hother (List.mem_map.mpr ⟨r', hr', hsame⟩)
            · exact hnew hmem

theorem fault?_eq_none_iff {s : Settings} : s.fault? = none ↔ s.Valid := by
  have hminutes : (if s.defaultOverrideMinutes.any fun m => m.toInt ≤ 0 then
      some (Failure.invalidSettings .minutesNotPositive) else none) = none ↔
      ∀ m ∈ s.defaultOverrideMinutes, 0 < m.toInt := by
    simp
  unfold fault?
  rw [Option.or_eq_none_iff, rulesFault?_eq_none_iff, hminutes]
  constructor
  · rintro ⟨⟨hrules, hdistinct⟩, hpositive⟩
    exact ⟨fun r hr => (hrules r hr).1, hdistinct, fun r hr => (hrules r hr).2.2, hpositive⟩
  · intro h
    exact ⟨⟨fun r hr => ⟨h.ids r hr, List.not_mem_nil, h.rules r hr⟩, h.distinct⟩, h.minutes⟩

theorem default_valid : default.Valid :=
  fault?_eq_none_iff.mp rfl

/-! ## Changes of the rules -/

variable {s s' : Settings}

theorem Valid.of_same (h : s.Valid) (hrules : s'.rules = s.rules)
    (hminutes : s'.defaultOverrideMinutes = s.defaultOverrideMinutes) : s'.Valid := by
  constructor
  · rw [hrules]
    exact h.ids
  · rw [hrules]
    exact h.distinct
  · rw [hrules]
    exact h.rules
  · rw [hminutes]
    exact h.minutes

theorem Valid.append (h : s.Valid) {r : Rule} (hid : isBlankString r.id = false)
    (hnew : ∀ r' ∈ s.rules, r'.id ≠ r.id) (hr : r.Valid) :
    { s with rules := s.rules ++ [r] }.Valid := by
  constructor
  · intro r' hr'
    rcases List.mem_append.mp hr' with hold | hadded
    · exact h.ids r' hold
    · rw [List.mem_singleton.mp hadded]
      exact hid
  · show ((s.rules ++ [r]).map (·.id)).Nodup
    rw [List.map_append, List.nodup_append']
    refine ⟨h.distinct, List.nodup_singleton _, ?_⟩
    intro id hmem hsame
    rcases List.mem_map.mp hmem with ⟨r', hr', rfl⟩
    exact hnew r' hr' (List.mem_singleton.mp hsame)
  · intro r' hr'
    rcases List.mem_append.mp hr' with hold | hadded
    · exact h.rules r' hold
    · rw [List.mem_singleton.mp hadded]
      exact hr
  · exact h.minutes

theorem Valid.sublist (h : s.Valid) {rules : List Rule} (hrules : rules.Sublist s.rules) :
    { s with rules }.Valid :=
  ⟨fun r hr => h.ids r (hrules.subset hr), h.distinct.sublist (hrules.map _),
    fun r hr => h.rules r (hrules.subset hr), h.minutes⟩

theorem Valid.of_same_ids (h : s.Valid) {rules : List Rule}
    (hids : rules.map (·.id) = s.rules.map (·.id)) (hvalid : ∀ r ∈ rules, r.Valid) :
    { s with rules }.Valid := by
  refine ⟨?_, ?_, hvalid, h.minutes⟩
  · intro r hr
    have hid : r.id ∈ s.rules.map (·.id) := hids ▸ List.mem_map_of_mem hr
    rcases List.mem_map.mp hid with ⟨r', hr', hsame⟩
    rw [← hsame]
    exact h.ids r' hr'
  · show (rules.map (·.id)).Nodup
    rw [hids]
    exact h.distinct

end Settings
end SiteGuard
