import SiteGuard.Json.Wire
import SiteGuard.Proofs.Calendar.Rfc3339
import SiteGuard.Proofs.Json.Reader

/-!
# Decoding undoes encoding

A shape that tells its fields and cases apart reads what it writes, from a value
and from text alike.
-/

namespace SiteGuard
namespace Json

open Calendar

/-! ## Shapes that tell apart -/

def Shape.isNullable : Shape → Bool
  | .nullable _ => true
  | .free => true
  | _ => false

def Row.keys : Row → List String
  | .done => []
  | .field key _ _ rest => key :: rest.keys

mutual

/-- Names, keys and cases differ, and null stands for one value at most. -/
def Shape.isFaithful : Shape → Bool
  | .bool => true
  | .text => true
  | .integer _ => true
  | .instant => true
  | .free => false
  | .choice names => decide names.Nodup
  | .nullable s => s.isFaithful && !s.isNullable
  | .list s => s.isFaithful
  | .dict s => s.isFaithful
  | .record _ fields => fields.isFaithful
  | .variant tag cases => cases.isFaithful tag

def Row.isFaithful : Row → Bool
  | .done => true
  | .field key _ s rest => s.isFaithful && !rest.keys.contains key && rest.isFaithful

def Cases.isFaithful (tag : String) : Cases → Bool
  | .none => true
  | .case name fields rest =>
    fields.isFaithful && !fields.keys.contains tag && !rest.hasName name && rest.isFaithful tag

end

mutual

def Shape.height : Shape → Nat
  | .nullable s => s.height
  | .list s => s.height + 1
  | .dict s => s.height + 1
  | .record _ fields => fields.height + 1
  | .variant _ cases => cases.height + 1
  | _ => 0

def Row.height : Row → Nat
  | .done => 0
  | .field _ _ s rest => max s.height rest.height

def Cases.height : Cases → Nat
  | .none => 0
  | .case _ fields rest => max fields.height rest.height

end

/-! ## Parts -/

namespace IntKind

theorem ofInt?_toInt (k : IntKind) (v : k.Val) : k.ofInt? (k.toInt v) = some v := by
  cases k with
  | byte =>
      have hread : ∀ w : UInt8, (if 0 ≤ (w.toNat : Int) ∧ (w.toNat : Int) < UInt8.size then
          some (UInt8.ofNat (w.toNat : Int).toNat) else none) = some w := by
        intro w
        have hless : w.toNat < UInt8.size := w.toNat_lt
        rw [if_pos ⟨by omega, by omega⟩, Int.toNat_natCast, UInt8.ofNat_toNat]
      exact hread v
  | word =>
      have hread : ∀ w : UInt32, (if 0 ≤ (w.toNat : Int) ∧ (w.toNat : Int) < UInt32.size then
          some (UInt32.ofNat (w.toNat : Int).toNat) else none) = some w := by
        intro w
        have hless : w.toNat < UInt32.size := w.toNat_lt
        rw [if_pos ⟨by omega, by omega⟩, Int.toNat_natCast, UInt32.ofNat_toNat]
      exact hread v
  | long =>
      have hread : ∀ w : Int64,
          (if Int64.minValue.toInt ≤ w.toInt ∧ w.toInt ≤ Int64.maxValue.toInt then
            some (Int64.ofInt w.toInt) else none) = some w := by
        intro w
        rw [if_pos ⟨w.minValue_le_toInt, w.toInt_le⟩, Int64.ofInt_toInt]
      exact hread v

theorem isWhole_toInt (k : IntKind) (v : k.Val) : IsWhole (k.toInt v) := by
  unfold IsWhole UInt64.size
  cases k with
  | byte =>
      have hless := UInt8.toNat_lt v
      simp only [toInt]
      omega
  | word =>
      have hless := UInt32.toNat_lt v
      simp only [toInt]
      omega
  | long =>
      have hleast := Int64.le_toInt v
      have hmost := Int64.toInt_lt v
      simp only [toInt]
      omega

end IntKind

theorem indexOf?_get {names : List String} (h : names.Nodup) (i : Fin names.length) :
    indexOf? (names.get i) names = some i := by
  unfold indexOf?
  cases hfound : (List.finRange names.length).find? fun j => names.get j == names.get i with
  | none =>
      have hnot := List.find?_eq_none.mp hfound i (List.mem_finRange i)
      exact absurd (beq_self_eq_true _) hnot
  | some j =>
      have hname : names.get j = names.get i := by
        simpa using List.find?_some hfound
      rw [List.nodup_iff_injective_get.mp h hname]

/-! ## What is written -/

theorem toJson_ne_null {s : Shape} (h : s.isNullable = false) (v : s.Val) :
    s.toJson v ≠ .null := by
  cases s with
  | nullable s =>
      cases h
  | free =>
      cases h
  | _ =>
      intro hnull
      cases hnull

theorem Row.mem_keys_of_mem_toMembers :
    {r : Row} → {v : r.Val} → {m : String × Json} → m ∈ r.toMembers v → m.1 ∈ r.keys
  | .done, _, _, h => nomatch h
  | .field key true s rest, (v, vs), m, h => by
      rcases List.mem_cons.mp h with rfl | h
      · exact List.mem_cons_self
      · exact List.mem_cons_of_mem key (mem_keys_of_mem_toMembers h)
  | .field key false s rest, (some v, vs), m, h => by
      rcases List.mem_cons.mp h with rfl | h
      · exact List.mem_cons_self
      · exact List.mem_cons_of_mem key (mem_keys_of_mem_toMembers h)
  | .field key false s rest, (none, vs), m, h =>
      List.mem_cons_of_mem key (mem_keys_of_mem_toMembers h)

mutual

theorem Shape.fits_toJson : (s : Shape) → s.isFaithful = true → (v : s.Val) → {depth : Nat} →
    s.height < depth → Fits depth (s.toJson v)
  | .bool, _, _, depth + 1, _ => .bool
  | .text, _, _, depth + 1, _ => .text
  | .integer k, _, v, depth + 1, _ => .number (k.isWhole_toInt v)
  | .instant, _, _, depth + 1, _ => .text
  | .choice _, _, _, depth + 1, _ => .text
  | .nullable _, _, none, depth + 1, _ => .null
  | .nullable s, h, some v, depth, hdepth => by
      simp only [Shape.isFaithful, Bool.and_eq_true] at h
      exact s.fits_toJson h.1 v hdepth
  | .list s, h, vs, depth + 2, hdepth => by
      refine .list ?_
      intro j hj
      rcases List.mem_map.mp hj with ⟨v, _, rfl⟩
      exact s.fits_toJson h v (Nat.lt_of_succ_lt_succ hdepth)
  | .dict s, h, vs, depth + 2, hdepth => by
      refine .object ?_
      intro m hm
      rcases List.mem_map.mp hm with ⟨e, _, rfl⟩
      exact s.fits_toJson h e.2 (Nat.lt_of_succ_lt_succ hdepth)
  | .record _ fields, h, v, depth + 2, hdepth =>
      .object (fields.fits_toMembers h v (Nat.lt_of_succ_lt_succ hdepth))
  | .variant tag cases, h, v, depth + 2, hdepth =>
      .object (cases.fits_toMembers h v (Nat.lt_of_succ_lt_succ hdepth))

theorem Row.fits_toMembers : (r : Row) → r.isFaithful = true → (v : r.Val) → {depth : Nat} →
    r.height < depth + 1 → ∀ m ∈ r.toMembers v, Fits (depth + 1) m.2
  | .done, _, _, _, _ => nofun
  | .field key true s rest, h, (v, vs), depth, hdepth => by
      simp only [Row.isFaithful, Bool.and_eq_true] at h
      rw [Row.height, Nat.max_lt] at hdepth
      intro m hm
      rcases List.mem_cons.mp hm with rfl | hm
      · exact s.fits_toJson h.1.1 v hdepth.1
      · exact rest.fits_toMembers h.2 vs hdepth.2 m hm
  | .field key false s rest, h, (some v, vs), depth, hdepth => by
      simp only [Row.isFaithful, Bool.and_eq_true] at h
      rw [Row.height, Nat.max_lt] at hdepth
      intro m hm
      rcases List.mem_cons.mp hm with rfl | hm
      · exact s.fits_toJson h.1.1 v hdepth.1
      · exact rest.fits_toMembers h.2 vs hdepth.2 m hm
  | .field key false s rest, h, (none, vs), depth, hdepth => by
      simp only [Row.isFaithful, Bool.and_eq_true] at h
      rw [Row.height, Nat.max_lt] at hdepth
      exact rest.fits_toMembers h.2 vs hdepth.2

theorem Cases.fits_toMembers {tag : String} : (c : Cases) → c.isFaithful tag = true →
    (v : c.Val) → {depth : Nat} → c.height < depth + 1 →
      ∀ m ∈ c.toMembers tag v, Fits (depth + 1) m.2
  | .case name fields rest, h, .inl v, depth, hdepth => by
      simp only [Cases.isFaithful, Bool.and_eq_true] at h
      rw [Cases.height, Nat.max_lt] at hdepth
      intro m hm
      rcases List.mem_cons.mp hm with rfl | hm
      · exact .text
      · exact fields.fits_toMembers h.1.1.1 v hdepth.1 m hm
  | .case name fields rest, h, .inr v, depth, hdepth => by
      simp only [Cases.isFaithful, Bool.and_eq_true] at h
      rw [Cases.height, Nat.max_lt] at hdepth
      exact rest.fits_toMembers h.2 v hdepth.2

end

/-! ## From values -/

theorem valuesOf_cons (key : String) (m : String × Json) (members : List (String × Json)) :
    valuesOf key (m :: members) =
      if m.1 = key then m.2 :: valuesOf key members else valuesOf key members := by
  unfold valuesOf
  rw [List.filterMap_cons]
  split
  · rename_i hnone
    split at hnone
    · cases hnone
    · rename_i hkey
      rw [if_neg hkey]
  · rename_i value hsome
    split at hsome
    · rename_i hkey
      cases hsome
      rw [if_pos hkey]
    · cases hsome

theorem valuesOf_eq_nil {key : String} {members : List (String × Json)}
    (h : ∀ m ∈ members, m.1 ≠ key) : valuesOf key members = [] := by
  induction members with
  | nil =>
      rfl
  | cons m members ih =>
      rw [valuesOf_cons, if_neg (h m List.mem_cons_self)]
      exact ih fun n hn => h n (List.mem_cons_of_mem m hn)

theorem Row.ne_of_mem_toMembers {key : String} {r : Row} (h : key ∉ r.keys) {v : r.Val} :
    ∀ m ∈ r.toMembers v, m.1 ≠ key := by
  intro m hm hkey
  rw [← hkey] at h
  exact h (r.mem_keys_of_mem_toMembers hm)

theorem Row.valuesOf_toMembers_eq_nil {key : String} {r : Row} (h : key ∉ r.keys) (v : r.Val) :
    valuesOf key (r.toMembers v) = [] :=
  valuesOf_eq_nil (Row.ne_of_mem_toMembers h)

theorem Row.valuesOf_of_cons {key : String} {j : Json} {rest : Row} {vs : rest.Val}
    {members : List (String × Json)} (hkey : key ∉ rest.keys)
    (hvalues : ∀ k ∈ key :: rest.keys,
      valuesOf k members = valuesOf k ((key, j) :: rest.toMembers vs)) :
    valuesOf key members = [j] ∧
      ∀ k ∈ rest.keys, valuesOf k members = valuesOf k (rest.toMembers vs) := by
  constructor
  · rw [hvalues key List.mem_cons_self, valuesOf_cons, if_pos rfl,
      Row.valuesOf_toMembers_eq_nil hkey]
  · intro other hother
    rw [hvalues other (List.mem_cons_of_mem key hother), valuesOf_cons, if_neg]
    intro hsame
    rw [← hsame] at hother
    exact hkey hother

theorem mapM_ofJson {α : Type} {read : Json → Option α} {value : α → Json}
    (h : ∀ a, read (value a) = some a) (as : List α) : (as.map value).mapM read = some as := by
  induction as with
  | nil =>
      rfl
  | cons a as ih =>
      rw [List.map_cons, List.mapM_cons, h, ih]
      rfl

theorem mapM_entries {α : Type} {read : Json → Option α} {value : α → Json}
    (h : ∀ a, read (value a) = some a) (es : List (String × α)) :
    (es.map fun m => (m.1, value m.2)).mapM
      (fun m => (read m.2).map fun v => (m.1, v)) = some es := by
  induction es with
  | nil =>
      rfl
  | cons e es ih =>
      rw [List.map_cons, List.mapM_cons, h, ih]
      rfl

theorem ofJson_nullable (s : Shape) {j : Json} (h : j ≠ .null) :
    (Shape.nullable s).ofJson j = (s.ofJson j).map some := by
  cases j with
  | null =>
      exact absurd rfl h
  | _ =>
      rfl

theorem map_relaxed?_writeUtc (i : Instant) :
    (Rfc3339.relaxed? (Rfc3339.writeUtc i)).map (·.instant) = some i := by
  rw [Rfc3339.relaxed?_writeUtc]
  rfl

theorem ofJson_variant (tag : String) (cases : Cases) (members : List (String × Json)) :
    (Shape.variant tag cases).ofJson (.object members) =
      match valuesOf tag members with
      | [.text name] => cases.ofMembers name (members.filter fun m => m.1 != tag)
      | _ => none :=
  rfl

mutual

theorem Shape.ofJson_toJson : (s : Shape) → s.isFaithful = true → (v : s.Val) →
    s.ofJson (s.toJson v) = some v
  | .bool, _, _ => rfl
  | .text, _, _ => rfl
  | .integer k, _, v => k.ofInt?_toInt v
  | .instant, _, i => map_relaxed?_writeUtc i
  | .choice names, h, i => indexOf?_get (of_decide_eq_true h) i
  | .nullable _, _, none => rfl
  | .nullable s, h, some v => by
      simp only [Shape.isFaithful, Bool.and_eq_true, Bool.not_eq_true'] at h
      show (Shape.nullable s).ofJson (s.toJson v) = some (some v)
      rw [ofJson_nullable s (toJson_ne_null h.2 v), s.ofJson_toJson h.1 v]
      rfl
  | .list s, h, vs => mapM_ofJson (s.ofJson_toJson h) vs
  | .dict s, h, vs => mapM_entries (s.ofJson_toJson h) vs
  | .record _ fields, h, v => fields.ofMembers_toMembers h v fun _ _ => rfl
  | .variant tag cases, h, v => by
      rcases cases.ofMembers_toMembers h v with ⟨name, members, hmembers, htag, _, hread⟩
      have hrest : (((tag, Json.text name) :: members).filter fun m => m.1 != tag) = members := by
        rw [List.filter_cons]
        simp only [bne_self_eq_false, Bool.false_eq_true, if_false]
        exact List.filter_eq_self.mpr fun m hm => bne_iff_ne.mpr (htag m hm)
      have hname : valuesOf tag ((tag, Json.text name) :: members) = [.text name] := by
        rw [valuesOf_cons, if_pos rfl, valuesOf_eq_nil htag]
      show (Shape.variant tag cases).ofJson (.object (cases.toMembers tag v)) = some v
      rw [hmembers, ofJson_variant, hname, hrest]
      exact hread

theorem Row.ofMembers_toMembers : (r : Row) → r.isFaithful = true → (v : r.Val) →
    {members : List (String × Json)} →
    (∀ key ∈ r.keys, valuesOf key members = valuesOf key (r.toMembers v)) →
      r.ofMembers members = some v
  | .done, _, (), _, _ => rfl
  | .field key true s rest, h, (v, vs), members, hvalues => by
      simp only [Row.isFaithful, Bool.and_eq_true, Bool.not_eq_true', List.contains_eq_mem,
        decide_eq_false_iff_not] at h
      rcases Row.valuesOf_of_cons h.1.2 hvalues with ⟨hkey, hothers⟩
      simp only [Row.ofMembers, hkey, s.ofJson_toJson h.1.1 v,
        rest.ofMembers_toMembers h.2 vs hothers]
      rfl
  | .field key false s rest, h, (some v, vs), members, hvalues => by
      simp only [Row.isFaithful, Bool.and_eq_true, Bool.not_eq_true', List.contains_eq_mem,
        decide_eq_false_iff_not] at h
      rcases Row.valuesOf_of_cons h.1.2 hvalues with ⟨hkey, hothers⟩
      simp only [Row.ofMembers, hkey, s.ofJson_toJson h.1.1 v,
        rest.ofMembers_toMembers h.2 vs hothers]
      rfl
  | .field key false s rest, h, (none, vs), members, hvalues => by
      simp only [Row.isFaithful, Bool.and_eq_true, Bool.not_eq_true', List.contains_eq_mem,
        decide_eq_false_iff_not] at h
      have hkey : valuesOf key members = [] := by
        rw [hvalues key List.mem_cons_self]
        exact Row.valuesOf_toMembers_eq_nil h.1.2 vs
      have hrest : rest.ofMembers members = some vs := by
        apply rest.ofMembers_toMembers h.2
        intro other hother
        exact hvalues other (List.mem_cons_of_mem key hother)
      simp only [Row.ofMembers, hkey, hrest]
      rfl

theorem Cases.ofMembers_toMembers {tag : String} : (c : Cases) → c.isFaithful tag = true →
    (v : c.Val) → ∃ name members, c.toMembers tag v = (tag, .text name) :: members ∧
      (∀ m ∈ members, m.1 ≠ tag) ∧ c.hasName name = true ∧ c.ofMembers name members = some v
  | .case name fields rest, h, .inl v => by
      simp only [Cases.isFaithful, Bool.and_eq_true, Bool.not_eq_true', List.contains_eq_mem,
        decide_eq_false_iff_not] at h
      refine ⟨name, fields.toMembers v, rfl, ?_, ?_, ?_⟩
      · exact Row.ne_of_mem_toMembers h.1.1.2
      · simp [Cases.hasName]
      · simp only [Cases.ofMembers, if_true]
        rw [fields.ofMembers_toMembers h.1.1.1 v fun _ _ => rfl]
        rfl
  | .case name fields rest, h, .inr v => by
      simp only [Cases.isFaithful, Bool.and_eq_true, Bool.not_eq_true'] at h
      rcases rest.ofMembers_toMembers h.2 v with ⟨chosen, members, hmembers, htag, hname, hread⟩
      have hother : chosen ≠ name := by
        intro hsame
        rw [hsame, h.1.2] at hname
        cases hname
      refine ⟨chosen, members, hmembers, htag, ?_, ?_⟩
      · simp [Cases.hasName, hname]
      · simp only [Cases.ofMembers, if_neg hother, hread]
        rfl

end

/-! ## From text -/

def Row.filled : (r : Row) → r.Val → r.Slots
  | .done, () => ()
  | .field _ true _ rest, (v, vs) => (some v, rest.filled vs)
  | .field _ false _ rest, (slot, vs) => (slot, rest.filled vs)

theorem Row.ofSlots_filled : (r : Row) → (v : r.Val) → r.ofSlots (r.filled v) = some v
  | .done, () => rfl
  | .field _ true _ rest, (v, vs) => by
      simp only [Row.filled, Row.ofSlots, rest.ofSlots_filled vs]
      rfl
  | .field _ false _ rest, (slot, vs) => by
      simp only [Row.filled, Row.ofSlots, rest.ofSlots_filled vs]
      rfl

section Members

variable {fuel depth : Nat} {key : String} {required : Bool} {s : Shape} {rest : Row}

theorem Row.readMember_own {v : s.Val} {slots : rest.Slots} {cs more : List Char}
    (h : s.read fuel depth cs = .ok (v, more)) :
    (Row.field key required s rest).readMember fuel depth key (none, slots) (':' :: cs) =
      .ok ((some v, slots), more) :=
  (if_pos rfl).trans (bind_of_eq_ok rfl (bind_of_eq_ok h rfl))

theorem Row.readMember_other {k : String} (hother : k ≠ key) {slots next : rest.Slots}
    {cs more : List Char} (h : rest.readMember fuel depth k slots cs = .ok (next, more))
    (slot : Option s.Val) :
    (Row.field key required s rest).readMember fuel depth k (slot, slots) cs =
      .ok ((slot, next), more) :=
  (if_neg hother).trans (bind_of_eq_ok h rfl)

theorem Row.steps_field {slots last : rest.Slots} {members : List (String × Json)}
    (h : Steps fuel (rest.readMember fuel depth) slots members last)
    (hkeys : ∀ m ∈ members, m.1 ≠ key) (slot : Option s.Val) :
    Steps fuel ((Row.field key required s rest).readMember fuel depth) (slot, slots) members
      (slot, last) := by
  induction h with
  | nil =>
      exact .nil
  | @cons state next last k j members hstep hrest ih =>
      refine .cons ?_ (ih fun m hm => hkeys m (List.mem_cons_of_mem _ hm))
      intro text hends hfuel
      exact Row.readMember_other (hkeys (k, j) List.mem_cons_self) (hstep text hends hfuel) slot

end Members

theorem readName_write {fuel : Nat} {name : String} {rest : List Char}
    (hfuel : (writeText name rest).length ≤ fuel) :
    readName fuel (writeText name rest) = .ok (name, rest) :=
  readString_write hfuel

def stepOfVariant (fuel depth : Nat) (tag : String) (cases : Cases) :
    String → Option String × List (String × Json) →
      Reader (Option String × List (String × Json)) :=
  fun key seen cs => do
    if key = tag then
      match seen.1 with
      | some _ => .error .mismatched
      | none =>
        let (name, rest) ← readName fuel (← colon cs)
        let _ ← orMismatch (if cases.hasName name then some () else none)
        .ok ((some name, seen.2), rest)
    else
      let (v, rest) ← readValue fuel depth (← colon cs)
      .ok ((seen.1, (key, v) :: seen.2), rest)

theorem steps_variant {fuel depth : Nat} {tag : String} (cases : Cases)
    {members : List (String × Json)} (hfits : ∀ m ∈ members, Fits depth m.2)
    (htag : ∀ m ∈ members, m.1 ≠ tag) (chosen : Option String) (seen : List (String × Json)) :
    Steps fuel (stepOfVariant fuel depth tag cases) (chosen, seen) members
      (chosen, members.reverse ++ seen) := by
  induction members generalizing seen with
  | nil =>
      exact .nil
  | cons m members ih =>
      have hrest := ih (fun n hn => hfits n (List.mem_cons_of_mem m hn))
        (fun n hn => htag n (List.mem_cons_of_mem m hn)) (m :: seen)
      rw [List.reverse_cons, List.append_assoc, List.singleton_append]
      refine .cons ?_ hrest
      intro rest hends hfuel
      have hvalue := readValue_write (hfits m List.mem_cons_self) fuel rest hends hfuel
      exact (if_neg (htag m List.mem_cons_self)).trans
        (bind_of_eq_ok rfl (bind_of_eq_ok hvalue rfl))

theorem enter_succ (depth : Nat) : enter (depth + 2) = .ok (depth + 1) :=
  rfl

section Reads

variable {fuel depth : Nat}

theorem read_integer {k : IntKind} {v : k.Val} {rest : List Char} (hends : Ends rest) :
    (Shape.integer k).read fuel depth (write (.number (.whole (k.toInt v))) rest) =
      .ok (v, rest) := by
  have hread := readNumber_write (k.isWhole_toInt v) hends
  rcases exists_beginsNumber (k.toInt v) rest with ⟨c, cs, htext, hc⟩
  rw [write_number]
  rw [htext] at hread ⊢
  unfold Shape.read
  rw [skipSpace_cons hc.isSpace]
  exact (if_pos hc).trans (bind_of_eq_ok hread
    (bind_of_eq_ok (congrArg orMismatch (k.ofInt?_toInt v)) rfl))

theorem read_nullable {s : Shape} {j : Json} (hbegins : Begins j) (hnull : j ≠ .null)
    {v : s.Val} {rest more : List Char}
    (h : s.read fuel depth (write j rest) = .ok (v, more)) :
    (Shape.nullable s).read fuel depth (write j rest) = .ok (some v, more) := by
  rcases hbegins rest with ⟨c, cs, htext, hspace, _, hletter⟩
  rw [htext] at h ⊢
  unfold Shape.read
  rw [skipSpace_cons hspace]
  split
  · rename_i heq
    cases heq
    exact absurd (hletter rfl) hnull
  · exact bind_of_eq_ok h rfl

theorem read_dict {s : Shape} {es : List (String × s.Val)}
    (hread : ∀ e ∈ es, ReadsBack (s.read fuel (depth + 1)) s.toJson fuel e.2) {rest : List Char}
    (hfuel : (write (.object (es.map fun e => (e.1, s.toJson e.2))) rest).length < fuel) :
    (Shape.dict s).read fuel (depth + 2)
      (write (.object (es.map fun e => (e.1, s.toJson e.2))) rest) = .ok (es, rest) := by
  rcases readMembers_object (steps_collect hread []) hfuel with ⟨body, htext, hbody⟩
  have horder : (es.reverse ++ []).reverse = es := by
    rw [List.append_nil, List.reverse_reverse]
  rw [htext]
  refine bind_of_eq_ok (enter_succ depth) (bind_of_eq_ok hbody ?_)
  exact congrArg (fun es => Except.ok (es, rest)) horder

end Reads

mutual

theorem Shape.read_write (fuel : Nat) : (s : Shape) → s.isFaithful = true → {depth : Nat} →
    s.height < depth → (v : s.Val) → ReadsBack (s.read fuel depth) s.toJson fuel v
  | .bool, _, _, _, true => fun _ _ _ => rfl
  | .bool, _, _, _, false => fun _ _ _ => rfl
  | .text, _, _, _, _ => fun _ _ hfuel => readName_write (Nat.le_of_lt hfuel)
  | .integer _, _, _, _, _ => fun _ hends _ => read_integer hends
  | .instant, _, _, _, i => by
      intro rest _ hfuel
      exact bind_of_eq_ok (readName_write (Nat.le_of_lt hfuel))
        (bind_of_eq_ok (congrArg orMismatch (map_relaxed?_writeUtc i)) rfl)
  | .choice names, h, _, _, i => by
      intro rest _ hfuel
      exact bind_of_eq_ok (readString_write (Nat.le_of_lt hfuel))
        (bind_of_eq_ok (congrArg orMismatch (indexOf?_get (of_decide_eq_true h) i)) rfl)
  | .nullable _, _, _, _, none => fun _ _ _ => rfl
  | .nullable s, h, depth, hdepth, some v => by
      intro rest hends hfuel
      simp only [Shape.isFaithful, Bool.and_eq_true, Bool.not_eq_true'] at h
      exact read_nullable (s.fits_toJson h.1 v hdepth).begins (toJson_ne_null h.2 v)
        (s.read_write fuel h.1 hdepth v rest hends hfuel)
  | .list s, h, depth + 2, hdepth, vs => by
      have hinner : s.height < depth + 1 := Nat.lt_of_succ_lt_succ hdepth
      intro rest _ hfuel
      rcases readElements_list (fun v _ => s.read_write fuel h hinner v)
        (fun v _ => (s.fits_toJson h v hinner).begins) hfuel with ⟨body, htext, hread⟩
      show (Shape.list s).read fuel (depth + 2) (write (.list (vs.map s.toJson)) rest) = _
      rw [htext]
      exact bind_of_eq_ok (enter_succ depth) hread
  | .dict s, h, depth + 2, hdepth, es => fun _ _ hfuel =>
      read_dict (fun e _ => s.read_write fuel h (Nat.lt_of_succ_lt_succ hdepth) e.2) hfuel
  | .record title fields, h, depth + 2, hdepth, v => by
      intro rest _ hfuel
      have hsteps := fields.steps_toMembers fuel h (Nat.lt_of_succ_lt_succ hdepth) v
      rcases readMembers_object hsteps hfuel with ⟨body, htext, hread⟩
      show (Shape.record title fields).read fuel (depth + 2)
        (write (.object (fields.toMembers v)) rest) = _
      rw [htext]
      exact bind_of_eq_ok (enter_succ depth) (bind_of_eq_ok hread
        (bind_of_eq_ok (congrArg orMismatch (fields.ofSlots_filled v)) rfl))
  | .variant tag cases, h, depth + 2, hdepth, v => by
      intro rest _ hfuel
      rcases cases.ofMembers_toMembers h v with ⟨name, members, hmembers, htag, hname, hread⟩
      have hfits := cases.fits_toMembers h v (Nat.lt_of_succ_lt_succ hdepth)
      rw [hmembers] at hfits
      have htagged : Steps fuel (stepOfVariant fuel (depth + 1) tag cases) (none, [])
          ((tag, .text name) :: members) (some name, members.reverse ++ []) := by
        refine .cons ?_ (steps_variant cases (fun m hm => hfits m (List.mem_cons_of_mem _ hm)) htag
          (some name) [])
        intro text _ hshort
        refine (if_pos rfl).trans (bind_of_eq_ok rfl ?_)
        exact bind_of_eq_ok (readName_write (Nat.le_of_lt hshort))
          (bind_of_eq_ok (congrArg orMismatch (if_pos hname)) rfl)
      have hfuel' : (write (.object ((tag, .text name) :: members)) rest).length < fuel := by
        rw [← hmembers]
        exact hfuel
      rcases readMembers_object htagged hfuel' with ⟨body, htext, hbody⟩
      rw [← hmembers] at htext
      show (Shape.variant tag cases).read fuel (depth + 2)
        (write (.object (cases.toMembers tag v)) rest) = _
      rw [htext]
      refine bind_of_eq_ok (enter_succ depth) (bind_of_eq_ok hbody (bind_of_eq_ok rfl ?_))
      rw [List.append_nil, List.reverse_reverse]
      exact bind_of_eq_ok (congrArg orMismatch hread) rfl

theorem Row.steps_toMembers (fuel : Nat) : (r : Row) → r.isFaithful = true → {depth : Nat} →
    r.height < depth + 1 → (v : r.Val) →
      Steps fuel (r.readMember fuel (depth + 1)) r.noSlots (r.toMembers v) (r.filled v)
  | .done, _, _, _, () => .nil
  | .field key true s rest, h, depth, hdepth, (v, vs) => by
      simp only [Row.isFaithful, Bool.and_eq_true, Bool.not_eq_true', List.contains_eq_mem,
        decide_eq_false_iff_not] at h
      rw [Row.height, Nat.max_lt] at hdepth
      refine .cons ?_ (Row.steps_field (rest.steps_toMembers fuel h.2 hdepth.2 vs) ?_ (some v))
      · intro text hends hfuel
        exact Row.readMember_own (s.read_write fuel h.1.1 hdepth.1 v text hends hfuel)
      · exact Row.ne_of_mem_toMembers h.1.2
  | .field key false s rest, h, depth, hdepth, (some v, vs) => by
      simp only [Row.isFaithful, Bool.and_eq_true, Bool.not_eq_true', List.contains_eq_mem,
        decide_eq_false_iff_not] at h
      rw [Row.height, Nat.max_lt] at hdepth
      refine .cons ?_ (Row.steps_field (rest.steps_toMembers fuel h.2 hdepth.2 vs) ?_ (some v))
      · intro text hends hfuel
        exact Row.readMember_own (s.read_write fuel h.1.1 hdepth.1 v text hends hfuel)
      · exact Row.ne_of_mem_toMembers h.1.2
  | .field key false s rest, h, depth, hdepth, (none, vs) => by
      simp only [Row.isFaithful, Bool.and_eq_true, Bool.not_eq_true', List.contains_eq_mem,
        decide_eq_false_iff_not] at h
      rw [Row.height, Nat.max_lt] at hdepth
      exact Row.steps_field (rest.steps_toMembers fuel h.2 hdepth.2 vs)
        (Row.ne_of_mem_toMembers h.1.2) none

end

/-! ## Types with a shape -/

/-- A type whose shape tells its values apart. -/
class LawfulWire (α : Type) [Wire α] : Prop where
  faithful : (Wire.shape α).isFaithful = true
  shallow : (Wire.shape α).height < depthLimit
  unpack_pack : ∀ a : α, Wire.unpack (Wire.pack a) = a

section Lawful

variable {α : Type} [Wire α] [LawfulWire α]

theorem decode_encode (a : α) : decode α (encode a) = .ok a := by
  have hread := Shape.read_write ((encode a).length + 1) (Wire.shape α) LawfulWire.faithful
    LawfulWire.shallow (Wire.pack a) [] .nil
  have htext : (encode a).toList = write (toJson a) [] := String.toList_ofList
  have hlength : (write (toJson a) []).length < (encode a).length + 1 := by
    rw [← htext, String.length_toList]
    exact Nat.lt_succ_self _
  have hfirst : decodeFirst α (encode a) = .ok (a, []) := by
    unfold decodeFirst
    rw [htext]
    refine bind_of_eq_ok (hread hlength) ?_
    exact congrArg (fun a => Except.ok (a, [])) (LawfulWire.unpack_pack a)
  unfold decode
  exact bind_of_eq_ok hfirst rfl

end Lawful

end Json
end SiteGuard
