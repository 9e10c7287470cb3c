import SiteGuard.Proofs.Json.Complaint
import SiteGuard.Proofs.Merge

/-!
# Merging field by field

Each field of a merge is decoded from what the patch says of it, or it stays as it
is where the patch says nothing.  Decoding a value that was encoded does not lose
anything, so this holds of the values themselves and not only of their members.
-/

namespace SiteGuard
namespace Json

/-! ## One field -/

/-- A value is decoded from what is said of it; it stays where nothing is said. -/
def Follows {β : Type} (decode : Json → Option β) (said : Option Json) (old new : β) : Prop :=
  match said with
  | none => new = old
  | some j => decode j = some new

section Field

variable {β γ : Type} {decode : Json → Option β} {said later : Option Json} {a b c : β}

theorem Follows.trans (hab : Follows decode said a b) (hbc : Follows decode later b c) :
    Follows decode (later.or said) a c := by
  cases later with
  | none =>
      cases hbc
      exact hab
  | some j =>
      exact hbc

theorem Follows.map_iff {f : β → γ} {new : γ} :
    (∃ b, Follows decode said a b ∧ f b = new) ↔
      Follows (fun j => (decode j).map f) said (f a) new := by
  unfold Follows
  cases said with
  | none =>
      constructor
      · rintro ⟨b, rfl, rfl⟩
        rfl
      · rintro rfl
        exact ⟨a, rfl, rfl⟩
  | some j =>
      exact Option.map_eq_some_iff.symm

end Field

/-! ## Rows -/

def Row.isOptional : Row → Bool
  | .done => true
  | .field _ required _ rest => !required && rest.isOptional

def Row.absent : (r : Row) → r.isOptional = true → r.Val
  | .done, _ => ()
  | .field _ false _ rest, h => (none, rest.absent h)

/-- The optional fields of a row follow what is said of their keys. -/
def Row.Follows (said : String → Option Json) :
    (r : Row) → r.isOptional = true → r.Val → r.Val → Prop
  | .done, _, _, _ => True
  | .field key false s rest, h, (slot, vs), (slot', vs') =>
    Json.Follows (fun j => (s.ofJson j).map some) (said key) slot slot' ∧
      rest.Follows said h vs vs'

variable {said later : String → Option Json}

theorem Row.Follows.trans : {r : Row} → {h : r.isOptional = true} → {u v w : r.Val} →
    r.Follows said h u v → r.Follows later h v w →
      r.Follows (fun key => (later key).or (said key)) h u w
  | .done, _, _, _, _, _, _ => trivial
  | .field _ false _ _, _, _, _, _, huv, hvw => ⟨huv.1.trans hvw.1, huv.2.trans hvw.2⟩

theorem Row.Follows.congr : {r : Row} → {h : r.isOptional = true} → {v w : r.Val} →
    (∀ key ∈ r.keys, said key = later key) → r.Follows said h v w → r.Follows later h v w
  | .done, _, _, _, _, _ => trivial
  | .field key false _ _, _, _, _, hsame, hvw => by
      refine ⟨?_, hvw.2.congr fun k hk => hsame k (List.mem_cons_of_mem key hk)⟩
      rw [← hsame key List.mem_cons_self]
      exact hvw.1

theorem Row.follows_none_iff : {r : Row} → {h : r.isOptional = true} → {v w : r.Val} →
    (r.Follows (fun _ => none) h v w ↔ w = v)
  | .done, _, _, _ => ⟨fun _ => rfl, fun _ => trivial⟩
  | .field _ false _ rest, h, (slot, vs), (slot', vs') => by
      constructor
      · rintro ⟨hslot, hrest⟩
        cases hslot
        cases (rest.follows_none_iff (h := h)).mp hrest
        rfl
      · intro hsame
        cases hsame
        exact ⟨rfl, rest.follows_none_iff.mpr rfl⟩

/-! ## Members of a row -/

def Shape.ofValues (s : Shape) : List Json → Option (Option s.Val)
  | [] => some none
  | [j] => (s.ofJson j).map some
  | _ => none

theorem Row.ofMembers_field (key : String) (s : Shape) (rest : Row)
    (members : List (String × Json)) :
    (Row.field key false s rest).ofMembers members =
      (s.ofValues (valuesOf key members)).bind fun slot =>
        (rest.ofMembers members).map fun vs => (slot, vs) := by
  rw [Row.ofMembers]
  generalize valuesOf key members = values
  match values with
  | [] =>
      cases rest.ofMembers members with
      | none =>
          rfl
      | some vs =>
          rfl
  | [j] =>
      show ((s.ofJson j).bind fun v => (rest.ofMembers members).bind fun vs => some (some v, vs)) =
        ((s.ofJson j).map some).bind _
      cases s.ofJson j with
      | none =>
          rfl
      | some v =>
          cases rest.ofMembers members with
          | none =>
              rfl
          | some vs =>
              rfl
  | _ :: _ :: _ =>
      rfl

theorem Row.ofMembers_field_eq_some_iff {key : String} {s : Shape} {rest : Row}
    {members : List (String × Json)} {v : (Row.field key false s rest).Val} :
    (Row.field key false s rest).ofMembers members = some v ↔
      s.ofValues (valuesOf key members) = some v.1 ∧ rest.ofMembers members = some v.2 := by
  rw [Row.ofMembers_field]
  refine Option.bind_eq_some_iff.trans ?_
  constructor
  · rintro ⟨slot, hslot, hpair⟩
    rcases Option.map_eq_some_iff.mp hpair with ⟨vs, hvs, rfl⟩
    exact ⟨hslot, hvs⟩
  · rintro ⟨hslot, hrest⟩
    exact ⟨v.1, hslot, Option.map_eq_some_iff.mpr ⟨v.2, hrest, rfl⟩⟩

theorem Row.valuesOf_toMembers_self {key : String} {s : Shape} {rest : Row}
    (hkey : key ∉ rest.keys) (slot : Option s.Val) (vs : rest.Val) :
    valuesOf key ((Row.field key false s rest).toMembers (slot, vs)) =
      (slot.map s.toJson).toList := by
  have hrest := Row.valuesOf_toMembers_eq_nil hkey vs
  cases slot with
  | none =>
      exact hrest
  | some v =>
      show valuesOf key ((key, s.toJson v) :: rest.toMembers vs) = _
      rw [valuesOf_cons, if_pos rfl, hrest]
      rfl

theorem Row.valuesOf_toMembers_other {key other : String} {s : Shape} {rest : Row}
    (hne : key ≠ other) (slot : Option s.Val) (vs : rest.Val) :
    valuesOf other ((Row.field key false s rest).toMembers (slot, vs)) =
      valuesOf other (rest.toMembers vs) := by
  cases slot with
  | none =>
      rfl
  | some v =>
      show valuesOf other ((key, s.toJson v) :: rest.toMembers vs) = _
      rw [valuesOf_cons, if_neg hne]

theorem Shape.ofValues_toJson {s : Shape} (h : s.isFaithful = true) (slot : Option s.Val) :
    s.ofValues (slot.map s.toJson).toList = some slot := by
  cases slot with
  | none =>
      rfl
  | some v =>
      show (s.ofJson (s.toJson v)).map some = _
      rw [s.ofJson_toJson h]
      rfl

/-- What the members of an object are: what was written, unless something else is said. -/
def Row.Says (said : String → Option Json) (r : Row) (v : r.Val)
    (members : List (String × Json)) : Prop :=
  ∀ key ∈ r.keys, valuesOf key members =
    match said key with
    | some j => [j]
    | none => valuesOf key (r.toMembers v)

theorem Row.ofMembers_eq_some_iff {members : List (String × Json)} :
    (r : Row) → (h : r.isOptional = true) → r.isFaithful = true → {v w : r.Val} →
      r.Says said v members → (r.ofMembers members = some w ↔ r.Follows said h v w)
  | .done, _, _, _, _, _ => ⟨fun _ => trivial, fun _ => rfl⟩
  | .field key false s rest, h, hfaithful, (slot, vs), (slot', vs'), hsaid => by
      simp only [Row.isFaithful, Bool.and_eq_true, Bool.not_eq_true', List.contains_eq_mem,
        decide_eq_false_iff_not] at hfaithful
      have hrest : rest.Says said vs members := by
        intro other hother
        have hne : key ≠ other := by
          rintro rfl
          exact hfaithful.1.2 hother
        rw [hsaid other (List.mem_cons_of_mem key hother), Row.valuesOf_toMembers_other hne]
      have hslot : s.ofValues (valuesOf key members) = some slot' ↔
          Json.Follows (fun j => (s.ofJson j).map some) (said key) slot slot' := by
        rw [hsaid key List.mem_cons_self, Row.valuesOf_toMembers_self hfaithful.1.2]
        cases said key with
        | none =>
            show s.ofValues (slot.map s.toJson).toList = some slot' ↔ slot' = slot
            rw [Shape.ofValues_toJson hfaithful.1.1, Option.some.injEq, eq_comm]
        | some j =>
            rfl
      have hothers := rest.ofMembers_eq_some_iff (v := vs) (w := vs') h hfaithful.2 hrest
      exact Row.ofMembers_field_eq_some_iff.trans (and_congr hslot hothers)

theorem Row.toMembers_absent : (r : Row) → (h : r.isOptional = true) →
    r.toMembers (r.absent h) = []
  | .done, _ => rfl
  | .field _ false _ rest, h => rest.toMembers_absent h

theorem Row.mem_keys_of_mem_fields {f : String × Shape} : {r : Row} → f ∈ r.fields → f.1 ∈ r.keys
  | .field _ _ _ _, h => by
      rcases List.mem_cons.mp h with rfl | h
      · exact List.mem_cons_self
      · exact List.mem_cons_of_mem _ (Row.mem_keys_of_mem_fields h)

/-! ## Merged members -/

theorem valuesOf_of_nodup (key : String) {members : List (String × Json)}
    (h : (members.map (·.1)).Nodup) : valuesOf key members = (lookup key members).toList := by
  induction members using List.reverseRecOn with
  | nil =>
      rfl
  | append_singleton front m ih =>
      rw [List.map_append, List.nodup_append] at h
      have hfront := ih h.1
      have hsplit : valuesOf key (front ++ [m]) = valuesOf key front ++ valuesOf key [m] :=
        List.filterMap_append
      rw [hsplit, lookup_concat, valuesOf_cons]
      by_cases hkey : m.1 = key
      · have hnot : ∀ n ∈ front, n.1 ≠ key := by
          intro n hn hsame
          exact h.2.2 n.1 (List.mem_map_of_mem hn) m.1 List.mem_cons_self (hsame.trans hkey.symm)
        rw [if_pos hkey, if_pos hkey, valuesOf_eq_nil hnot]
        rfl
      · rw [if_neg hkey, if_neg hkey, hfront]
        exact List.append_nil _

theorem Row.tail_valuesOf_toMembers (key : String) : {r : Row} → (h : r.isOptional = true) →
    r.isFaithful = true → (v : r.Val) → (valuesOf key (r.toMembers v)).tail = []
  | .done, _, _, _ => rfl
  | .field k false s rest, h, hfaithful, (slot, vs) => by
      simp only [Row.isFaithful, Bool.and_eq_true, Bool.not_eq_true', List.contains_eq_mem,
        decide_eq_false_iff_not] at hfaithful
      by_cases hkey : k = key
      · subst hkey
        rw [Row.valuesOf_toMembers_self hfaithful.1.2]
        cases slot with
        | none =>
            rfl
        | some v =>
            rfl
      · rw [Row.valuesOf_toMembers_other hkey]
        exact rest.tail_valuesOf_toMembers key h hfaithful.2 vs

def sayings (guarded : List String) (changes : List (String × Json)) (key : String) :
    Option Json :=
  if guarded.contains key then none else lookup key changes

theorem Row.says_overlay {r : Row} (h : r.isOptional = true) (hfaithful : r.isFaithful = true)
    (v : r.Val) (guarded : List String) (changes : List (String × Json)) :
    r.Says (sayings guarded changes) v (overlay guarded.contains (r.toMembers v) changes) := by
  intro key _
  unfold sayings
  by_cases hguarded : guarded.contains key = true
  · rw [if_pos hguarded]
    exact valuesOf_overlay_of_guarded hguarded changes (r.toMembers v)
  · rw [if_neg hguarded]
    have hopen := Bool.eq_false_of_not_eq_true hguarded
    cases hvalue : lookup key changes with
    | none =>
        exact valuesOf_overlay (ne_of_lookup_eq_none hvalue) (r.toMembers v)
    | some j =>
        exact valuesOf_overlay_of_lookup (Row.tail_valuesOf_toMembers key h hfaithful v) hopen
          hvalue

theorem Row.says_of_nodup {r : Row} (h : r.isOptional = true) {members : List (String × Json)}
    (hnodup : (members.map (·.1)).Nodup) :
    r.Says (fun key => lookup key members) (r.absent h) members := by
  intro key _
  rw [valuesOf_of_nodup key hnodup, r.toMembers_absent h]
  dsimp only
  cases lookup key members with
  | none =>
      rfl
  | some j =>
      rfl

/-! ## Records -/

/--
A type that is written as a record of optional fields.  `Follows` says of its values, field by
field, what the rows say of what is packed.
-/
structure FlatRecord (α : Type) [Wire α] where
  title : String
  row : Row
  shape_eq : Wire.shape α = .record title row
  isOptional : row.isOptional = true
  isFaithful : row.isFaithful = true
  pack : α → row.Val
  unpack : row.Val → α
  default : α
  Follows : (String → Option Json) → α → α → Prop
  toJson_eq : ∀ a, toJson a = .object (row.toMembers (pack a))
  ofJson?_eq : ∀ members, ofJson? α (.object members) = (row.ofMembers members).map unpack
  unpack_pack : ∀ a, unpack (pack a) = a
  unpack_absent : unpack (row.absent isOptional) = default
  follows_iff : ∀ said v a,
    (∃ w, row.Follows said isOptional v w ∧ unpack w = a) ↔ Follows said (unpack v) a

namespace FlatRecord

variable {α : Type} [Wire α] (r : FlatRecord α) {base a b : α}
variable {guarded : List String} {members changes : List (String × Json)}

/-- Members that say something of the fields of a value are decoded to what follows of it. -/
theorem ofJson?_eq_some_iff {v : r.row.Val} (h : r.row.Says said v members) :
    ofJson? α (.object members) = some a ↔ r.Follows said (r.unpack v) a := by
  rw [r.ofJson?_eq, Option.map_eq_some_iff, ← r.follows_iff]
  simp only [r.row.ofMembers_eq_some_iff r.isOptional r.isFaithful h]

theorem merge_eq (base : α) (guarded : List String) (changes : List (String × Json)) :
    merge base (.object changes) guarded =
      (ofJson? α
        (.object (overlay guarded.contains (r.row.toMembers (r.pack base)) changes))).elim
        (.error (.invalidSettings (.undecodable (complaint α
          (.object (overlay guarded.contains (r.row.toMembers (r.pack base)) changes))))))
        .ok := by
  unfold merge
  rw [r.toJson_eq]
  dsimp only
  split
  · rename_i hread
    rw [hread]
    rfl
  · rename_i hread
    rw [hread]
    rfl

theorem merge_eq_ok_iff :
    merge base (.object changes) guarded = .ok a ↔ r.Follows (sayings guarded changes) base a := by
  have hsaid := Row.says_overlay r.isOptional r.isFaithful (r.pack base) guarded changes
  have hread := r.ofJson?_eq_some_iff (a := a) hsaid
  rw [r.unpack_pack] at hread
  rw [← hread, r.merge_eq]
  cases ofJson? α _ with
  | none =>
      constructor
      · intro h
        cases h
      · intro h
        cases h
  | some found =>
      rw [Option.elim_some, Except.ok.injEq, Option.some.injEq]

include r in
theorem failure_of_merge {failure : Failure}
    (h : merge base (.object changes) guarded = .error failure) :
    failure = .invalidSettings (.undecodable (complaint α
      (.object (overlay guarded.contains (r.row.toMembers (r.pack base)) changes)))) := by
  rw [r.merge_eq] at h
  cases hread : ofJson? α
      (.object (overlay guarded.contains (r.row.toMembers (r.pack base)) changes)) with
  | none =>
      rw [hread] at h
      cases h
      rfl
  | some found =>
      rw [hread] at h
      cases h

/-- What is wrong with a merged value depends on what the patch says of the fields alone. -/
theorem complaint_overlay_congr {changes' : List (String × Json)}
    (hsame : ∀ key ∈ r.row.keys, lookup key changes = lookup key changes') :
    complaint α (.object (overlay guarded.contains (r.row.toMembers (r.pack base)) changes)) =
      complaint α (.object (overlay guarded.contains (r.row.toMembers (r.pack base)) changes')) := by
  have hvalues : ∀ f ∈ r.row.fields,
      valuesOf f.1 (overlay guarded.contains (r.row.toMembers (r.pack base)) changes) =
        valuesOf f.1 (overlay guarded.contains (r.row.toMembers (r.pack base)) changes') := by
    intro f hf
    have hkey := Row.mem_keys_of_mem_fields hf
    have hnamed := Row.says_overlay r.isOptional r.isFaithful (r.pack base) guarded changes
    have hnamed' := Row.says_overlay r.isOptional r.isFaithful (r.pack base) guarded changes'
    rw [hnamed f.1 hkey, hnamed' f.1 hkey]
    unfold sayings
    rw [hsame f.1 hkey]
  apply complaint_congr r.shape_eq
  · intro f hf
    rw [hvalues f hf]
  · intro f hf
    rw [hvalues f hf]

theorem follows_congr (hsame : ∀ key ∈ r.row.keys, said key = later key)
    (h : r.Follows said base a) : r.Follows later base a := by
  rw [← r.unpack_pack base] at h ⊢
  rcases (r.follows_iff said (r.pack base) a).mpr h with ⟨w, hw, hunpack⟩
  exact (r.follows_iff later (r.pack base) a).mp ⟨w, hw.congr hsame, hunpack⟩

theorem merge_congr {changes' : List (String × Json)}
    (hsame : ∀ key ∈ r.row.keys, lookup key changes = lookup key changes')
    (h : merge base (.object changes) guarded = .ok a) :
    merge base (.object changes') guarded = .ok a := by
  rw [r.merge_eq_ok_iff] at h ⊢
  refine r.follows_congr ?_ h
  intro key hkey
  unfold sayings
  rw [hsame key hkey]

theorem follows_trans (hab : r.Follows said base a) (hbc : r.Follows later a b) :
    r.Follows (fun key => (later key).or (said key)) base b := by
  rw [← r.unpack_pack base] at hab ⊢
  rcases (r.follows_iff said (r.pack base) a).mpr hab with ⟨v, hv, rfl⟩
  rcases (r.follows_iff later v b).mpr hbc with ⟨w, hw, hunpack⟩
  exact (r.follows_iff _ (r.pack base) b).mp ⟨w, hv.trans hw, hunpack⟩

theorem follows_none_iff : r.Follows (fun _ => none) base a ↔ a = base := by
  rw [← r.unpack_pack base, ← r.follows_iff, r.unpack_pack base]
  constructor
  · rintro ⟨w, hw, rfl⟩
    rw [Row.follows_none_iff.mp hw, r.unpack_pack base]
  · rintro rfl
    exact ⟨r.pack a, Row.follows_none_iff.mpr rfl, r.unpack_pack a⟩

end FlatRecord

end Json
end SiteGuard
