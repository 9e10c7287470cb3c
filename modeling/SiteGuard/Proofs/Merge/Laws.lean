import SiteGuard.Proofs.Merge.Fields

/-!
# Laws of merging

Merges of settings and of rules obey the same laws: they compose, and a merge
onto the defaults decodes the patch.
-/

namespace SiteGuard

open Json

/-! ## Fields of a record -/

namespace Json

variable {said : Option Json}

/-- A field that is computed from a slot follows what is said, as the slot does. -/
theorem Follows.slot_iff {β : Type} {s : Shape} {f : Option s.Val → β}
    {read : Json → Option β} {slot : Option s.Val} {new : β}
    (hread : ∀ j, (s.ofJson j).map (fun v => f (some v)) = read j) :
    (∃ slot', Follows (fun j => (s.ofJson j).map some) said slot slot' ∧ f slot' = new) ↔
      Follows read said (f slot) new := by
  have hsame : (fun j => ((s.ofJson j).map some).map f) = read := by
    funext j
    rw [Option.map_map]
    exact hread j
  rw [Follows.map_iff, hsame]

theorem Follows.raw_iff {s : Shape} {slot : Option s.Val} {absent new : s.Val} :
    (∃ slot', Follows (fun j => (s.ofJson j).map some) said slot slot' ∧
      slot'.getD absent = new) ↔ Follows s.ofJson said (slot.getD absent) new :=
  Follows.slot_iff (f := fun slot => slot.getD absent) fun _ => Option.map_id'

theorem Follows.wire_iff {α : Type} [Wire α] {slot : Option (Wire.shape α).Val} {absent new : α} :
    (∃ slot', Follows (fun j => ((Wire.shape α).ofJson j).map some) said slot slot' ∧
      (slot'.map Wire.unpack).getD absent = new) ↔
        Follows (ofJson? α) said ((slot.map Wire.unpack).getD absent) new :=
  Follows.slot_iff (f := fun slot => (slot.map Wire.unpack).getD absent) fun _ => rfl

theorem Follows.nullable_iff {s : Shape} {slot : Option (Option s.Val)} {new : Option s.Val} :
    (∃ slot', Follows (fun j => ((Shape.nullable s).ofJson j).map some) said slot slot' ∧
      orAbsent id slot' = new) ↔
        Follows (Shape.nullable s).ofJson said (orAbsent id slot) new := by
  apply Follows.slot_iff (s := .nullable s) (f := orAbsent id)
  intro j
  cases (Shape.nullable s).ofJson j with
  | none =>
      rfl
  | some found =>
      exact congrArg some Option.map_id'

end Json

/-! ## Settings -/

namespace Settings

def readRules (j : Json) : Option (List Rule) :=
  ((Shape.list (Wire.shape Rule)).ofJson j).map (List.map Wire.unpack)

/-- Every field is decoded from what is said of its key, or it stays. -/
structure Follows (said : String → Option Json) (old new : Settings) : Prop where
  enabled : Json.Follows Shape.bool.ofJson (said "enabled") old.enabled new.enabled
  allowlistMode :
    Json.Follows Shape.bool.ofJson (said "allowlistMode") old.allowlistMode new.allowlistMode
  defaultBlockMode :
    Json.Follows (ofJson? BlockMode) (said "defaultBlockMode") old.defaultBlockMode
      new.defaultBlockMode
  requirePinForChanges :
    Json.Follows Shape.bool.ofJson (said "requirePinForChanges") old.requirePinForChanges
      new.requirePinForChanges
  defaultOverrideMinutes :
    Json.Follows (Shape.list (.integer .long)).ofJson (said "defaultOverrideMinutes")
      old.defaultOverrideMinutes new.defaultOverrideMinutes
  rules : Json.Follows readRules (said "rules") old.rules new.rules
  pin : Json.Follows (ofJson? PinRecord) (said "pin") old.pin new.pin
  overrides : Json.Follows (ofJson? Overrides) (said "overrides") old.overrides new.overrides

def unpackRules (slot : Option (Shape.list (Wire.shape Rule)).Val) : List Rule :=
  (Option.getD (α := List (Wire.shape Rule).Val) slot []).map Wire.unpack

theorem rules_follow_iff {said : Option Json} {slot : Option (Shape.list (Wire.shape Rule)).Val}
    {new : List Rule} :
    (∃ slot', Json.Follows (fun j => ((Shape.list (Wire.shape Rule)).ofJson j).map some) said slot
      slot' ∧ unpackRules slot' = new) ↔ Json.Follows readRules said (unpackRules slot) new :=
  Follows.slot_iff fun _ => rfl

theorem follows_iff (said : String → Option Json) (v : settingsRow.Val) (s : Settings) :
    (∃ w, settingsRow.Follows said rfl v w ∧ Wire.unpack (α := Settings) w = s) ↔
      Follows said (Wire.unpack (α := Settings) v) s := by
  rcases v with ⟨enabled, allowlistMode, mode, requirePin, minutes, rules, pin, overrides, ⟨⟩⟩
  constructor
  · rintro ⟨⟨enabled', allowlistMode', mode', requirePin', minutes', rules', pin', overrides',
      ⟨⟩⟩, ⟨h1, h2, h3, h4, h5, h6, h7, h8, _⟩, rfl⟩
    exact {
      enabled := Follows.raw_iff.mp ⟨enabled', h1, rfl⟩
      allowlistMode := Follows.raw_iff.mp ⟨allowlistMode', h2, rfl⟩
      defaultBlockMode := Follows.wire_iff.mp ⟨mode', h3, rfl⟩
      requirePinForChanges := Follows.raw_iff.mp ⟨requirePin', h4, rfl⟩
      defaultOverrideMinutes := Follows.raw_iff.mp ⟨minutes', h5, rfl⟩
      rules := rules_follow_iff.mp ⟨rules', h6, rfl⟩
      pin := Follows.wire_iff.mp ⟨pin', h7, rfl⟩
      overrides := Follows.wire_iff.mp ⟨overrides', h8, rfl⟩ }
  · intro h
    rcases Follows.raw_iff.mpr h.enabled with ⟨enabled', h1, e1⟩
    rcases Follows.raw_iff.mpr h.allowlistMode with ⟨allowlistMode', h2, e2⟩
    rcases Follows.wire_iff.mpr h.defaultBlockMode with ⟨mode', h3, e3⟩
    rcases Follows.raw_iff.mpr h.requirePinForChanges with ⟨requirePin', h4, e4⟩
    rcases Follows.raw_iff.mpr h.defaultOverrideMinutes with ⟨minutes', h5, e5⟩
    rcases rules_follow_iff.mpr h.rules with ⟨rules', h6, e6⟩
    rcases Follows.wire_iff.mpr h.pin with ⟨pin', h7, e7⟩
    rcases Follows.wire_iff.mpr h.overrides with ⟨overrides', h8, e8⟩
    refine ⟨(enabled', allowlistMode', mode', requirePin', minutes', rules', pin', overrides', ()),
      ⟨h1, h2, h3, h4, h5, h6, h7, h8, trivial⟩, ?_⟩
    cases s
    exact (Settings.mk.injEq ..).mpr ⟨e1, e2, e3, e4, e5, e6, e7, e8⟩

def record : FlatRecord Settings where
  title := "Settings"
  row := settingsRow
  shape_eq := rfl
  isOptional := rfl
  isFaithful := rfl
  pack := Wire.pack
  unpack := Wire.unpack (α := Settings)
  default := Settings.default
  Follows := Settings.Follows
  toJson_eq _ := rfl
  ofJson?_eq _ := rfl
  unpack_pack := LawfulWire.unpack_pack
  unpack_absent := rfl
  follows_iff := follows_iff

end Settings

/-! ## Rules -/

namespace Rule

def default : Rule := ⟨"", "", .wildcard, .hard, false, none, none⟩

def readSchedule (j : Json) : Option (Option Schedule) :=
  ((Shape.nullable (Wire.shape Schedule)).ofJson j).map (Option.map Wire.unpack)

/-- Every field is decoded from what is said of its key, or it stays. -/
structure Follows (said : String → Option Json) (old new : Rule) : Prop where
  id : Json.Follows Shape.text.ofJson (said "id") old.id new.id
  pattern : Json.Follows Shape.text.ofJson (said "pattern") old.pattern new.pattern
  kind : Json.Follows (ofJson? RuleKind) (said "type") old.kind new.kind
  mode : Json.Follows (ofJson? BlockMode) (said "mode") old.mode new.mode
  allow : Json.Follows Shape.bool.ofJson (said "allow") old.allow new.allow
  schedule : Json.Follows readSchedule (said "schedule") old.schedule new.schedule
  notes : Json.Follows (Shape.nullable .text).ofJson (said "notes") old.notes new.notes

theorem schedule_follows_iff {said : Option Json}
    {slot : Option (Shape.nullable (Wire.shape Schedule)).Val} {new : Option Schedule} :
    (∃ slot', Json.Follows
        (fun j => ((Shape.nullable (Wire.shape Schedule)).ofJson j).map some) said slot slot' ∧
      orAbsent Wire.unpack slot' = new) ↔
        Json.Follows readSchedule said (orAbsent Wire.unpack slot) new :=
  Follows.slot_iff fun _ => rfl

theorem follows_iff (said : String → Option Json) (v : ruleRow.Val) (r : Rule) :
    (∃ w, ruleRow.Follows said rfl v w ∧ Wire.unpack (α := Rule) w = r) ↔
      Follows said (Wire.unpack (α := Rule) v) r := by
  rcases v with ⟨id, pattern, kind, mode, allow, schedule, notes, ⟨⟩⟩
  constructor
  · rintro ⟨⟨id', pattern', kind', mode', allow', schedule', notes', ⟨⟩⟩,
      ⟨h1, h2, h3, h4, h5, h6, h7, _⟩, rfl⟩
    exact {
      id := Follows.raw_iff.mp ⟨id', h1, rfl⟩
      pattern := Follows.raw_iff.mp ⟨pattern', h2, rfl⟩
      kind := Follows.wire_iff.mp ⟨kind', h3, rfl⟩
      mode := Follows.wire_iff.mp ⟨mode', h4, rfl⟩
      allow := Follows.raw_iff.mp ⟨allow', h5, rfl⟩
      schedule := schedule_follows_iff.mp ⟨schedule', h6, rfl⟩
      notes := Follows.nullable_iff.mp ⟨notes', h7, rfl⟩ }
  · intro h
    rcases Follows.raw_iff.mpr h.id with ⟨id', h1, e1⟩
    rcases Follows.raw_iff.mpr h.pattern with ⟨pattern', h2, e2⟩
    rcases Follows.wire_iff.mpr h.kind with ⟨kind', h3, e3⟩
    rcases Follows.wire_iff.mpr h.mode with ⟨mode', h4, e4⟩
    rcases Follows.raw_iff.mpr h.allow with ⟨allow', h5, e5⟩
    rcases schedule_follows_iff.mpr h.schedule with ⟨schedule', h6, e6⟩
    rcases Follows.nullable_iff.mpr h.notes with ⟨notes', h7, e7⟩
    refine ⟨(id', pattern', kind', mode', allow', schedule', notes', ()),
      ⟨h1, h2, h3, h4, h5, h6, h7, trivial⟩, ?_⟩
    cases r
    exact (Rule.mk.injEq ..).mpr ⟨e1, e2, e3, e4, e5, e6, e7⟩

def record : FlatRecord Rule where
  title := "Rule"
  row := ruleRow
  shape_eq := rfl
  isOptional := rfl
  isFaithful := rfl
  pack := Wire.pack
  unpack := Wire.unpack (α := Rule)
  default := Rule.default
  Follows := Rule.Follows
  toJson_eq _ := rfl
  ofJson?_eq _ := rfl
  unpack_pack := LawfulWire.unpack_pack
  unpack_absent := rfl
  follows_iff := follows_iff

end Rule

/-! ## Laws -/

/-- What holds of merges onto values whose fields are changed as `Follows` says. -/
structure MergeLaws {α : Type} [Wire α] (Follows : (String → Option Json) → α → α → Prop)
    (keys : List String) (default : α) : Prop where
  not_object : ∀ (base : α) (patch : Json) (guarded : List String),
    (∀ changes, patch ≠ .object changes) →
      merge base patch guarded = .error (.invalidSettings .notAnObject)
  fields : ∀ (base merged : α) (changes : List (String × Json)) (guarded : List String),
    merge base (.object changes) guarded = .ok merged ↔
      Follows (fun key => if guarded.contains key then none else lookup key changes) base merged
  unknown : ∀ (base : α) (changes changes' : List (String × Json)) (guarded : List String),
    (∀ key ∈ keys, lookup key changes = lookup key changes') →
      merge base (.object changes) guarded = merge base (.object changes') guarded
  empty : ∀ (base : α) (guarded : List String), merge base (.object []) guarded = .ok base
  onto_default : ∀ (changes : List (String × Json)) (value : α), (changes.map (·.1)).Nodup →
    (merge default (.object changes) [] = .ok value ↔ ofJson? α (.object changes) = some value)
  compose : ∀ (base x y : α) (first second both : List (String × Json)) (guarded : List String),
    (∀ key, lookup key both = (lookup key second).or (lookup key first)) →
      merge base (.object first) guarded = .ok x → merge x (.object second) guarded = .ok y →
        merge base (.object both) guarded = .ok y

namespace Json.FlatRecord

variable {α : Type} [Wire α] (r : FlatRecord α)

theorem mergeLaws : MergeLaws r.Follows r.row.keys r.default where
  not_object := by
    intro base patch guarded hpatch
    unfold merge
    split
    · exact absurd rfl (hpatch _)
    · exact absurd rfl (hpatch _)
    · rfl
  fields := fun _ _ _ _ => r.merge_eq_ok_iff
  unknown := by
    intro base changes changes' guarded hsame
    cases hmerge : merge base (.object changes) guarded with
    | ok merged =>
        exact (r.merge_congr hsame hmerge).symm
    | error failure =>
        cases hmerge' : merge base (.object changes') guarded with
        | ok merged =>
            rw [r.merge_congr (fun key hkey => (hsame key hkey).symm) hmerge'] at hmerge
            cases hmerge
        | error failure' =>
            rw [r.failure_of_merge hmerge, r.failure_of_merge hmerge',
              r.complaint_overlay_congr hsame]
  empty := by
    intro base guarded
    have hnone : sayings guarded [] = fun _ => none := by
      funext key
      exact ite_self none
    rw [r.merge_eq_ok_iff, hnone]
    exact r.follows_none_iff.mpr rfl
  onto_default := by
    intro changes value hnodup
    rw [r.merge_eq_ok_iff, r.ofJson?_eq_some_iff (Row.says_of_nodup r.isOptional hnodup),
      r.unpack_absent]
    rfl
  compose := by
    intro base x y first second both guarded hboth hfirst hsecond
    have hsaid : sayings guarded both =
        fun key => (sayings guarded second key).or (sayings guarded first key) := by
      funext key
      unfold sayings
      split
      · rfl
      · exact hboth key
    rw [r.merge_eq_ok_iff] at hfirst hsecond ⊢
    rw [hsaid]
    exact r.follows_trans hfirst hsecond

end Json.FlatRecord

/-- Merging obeys these laws for settings and for rules alike. -/
theorem merge_laws :
    MergeLaws Settings.Follows settingsRow.keys Settings.default ∧
      MergeLaws Rule.Follows ruleRow.keys Rule.default :=
  ⟨Settings.record.mergeLaws, Rule.record.mergeLaws⟩

end SiteGuard
