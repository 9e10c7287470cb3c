import SiteGuard.Json.Complaint
import SiteGuard.Proofs.Json.Wire

/-!
# Complaints and decoding

There is a complaint about a value just where the value does not decode.  Of an object, the
complaint depends on the values of the known keys alone.
-/

namespace SiteGuard
namespace Json

/-! ## The least key -/

theorem earliest?_eq_none_iff {complaints : List (String × Complaint)} :
    earliest? complaints = none ↔ complaints = [] := by
  unfold earliest?
  rw [Option.map_eq_none_iff, List.head?_eq_none_iff, ← List.length_eq_zero_iff,
    List.length_mergeSort, List.length_eq_zero_iff]

/-! ## Steps over lists -/

theorem isSome_mapM_iff {α β : Type} {f : α → Option β} {l : List α} :
    (l.mapM f).isSome = true ↔ ∀ a ∈ l, (f a).isSome = true := by
  induction l with
  | nil =>
      simp
  | cons a rest ih =>
      rw [List.mapM_cons, List.forall_mem_cons, ← ih]
      cases f a with
      | none =>
          simp
      | some b =>
          cases rest.mapM f with
          | none =>
              simp
          | some bs =>
              simp

/-! ## Where there is no complaint -/

section

variable {α : Type}

theorem fit (v : α) : (none : Option Complaint) = none ↔ (some v).isSome = true :=
  iff_of_true rfl rfl

theorem unfit (c : Complaint) : some c = none ↔ (none : Option α).isSome = true :=
  iff_of_false (Option.some_ne_none c) Bool.false_ne_true

theorem isSome_bind_some {β : Type} (x : Option α) (f : α → β) :
    (x.bind fun a => some (f a)).isSome = x.isSome := by
  cases x <;> rfl

theorem isSome_bind_iff {β γ : Type} {x : Option α} {y : Option β} {f : α → β → γ} :
    (x.bind fun a => y.bind fun b => some (f a b)).isSome = true ↔
      x.isSome = true ∧ y.isSome = true := by
  cases x <;> cases y <;> simp

theorem if_isSome_eq_none_iff {v : Option α} {c : Complaint} :
    (if v.isSome then none else some c) = none ↔ v.isSome = true := by
  cases v with
  | none =>
      exact unfit c
  | some a =>
      exact fit a

end

/-- A name may stand for itself or be the only key of an object that holds null. -/
theorem choice_complaint?_eq_none_iff (names : List String) (j : Json) :
    (Shape.choice names).complaint? j = none ↔
      ((Shape.choice names).ofJson j).isSome = true := by
  cases j with
  | text name =>
      exact if_isSome_eq_none_iff
  | object members =>
      cases members with
      | nil =>
          exact unfit _
      | cons m rest =>
          rcases m with ⟨name, j⟩
          cases rest with
          | nil =>
              show (unknownName? name names).or (notUnit? j) = none ↔ _
              rw [Option.or_eq_none_iff]
              cases j with
              | null =>
                  exact (and_iff_left rfl).trans if_isSome_eq_none_iff
              | _ =>
                  refine iff_of_false ?_ Bool.false_ne_true
                  intro h
                  cases h.2
          | cons m' rest =>
              cases j <;> exact unfit _
  | _ =>
      exact unfit _

def Shape.fits (s : Shape) (required : Bool) : List Json → Prop
  | [] => required = false
  | [j] => (s.ofJson j).isSome = true
  | _ => False

theorem Row.isSome_ofMembers_field (key : String) (required : Bool) (s : Shape) (rest : Row)
    (members : List (String × Json)) :
    ((Row.field key required s rest).ofMembers members).isSome = true ↔
      s.fits required (valuesOf key members) ∧ (rest.ofMembers members).isSome = true := by
  cases required with
  | true =>
      rw [Row.ofMembers]
      match valuesOf key members with
      | [] =>
          exact iff_of_false Bool.false_ne_true fun h => Bool.noConfusion h.1
      | [j] =>
          exact isSome_bind_iff
      | _ :: _ :: _ =>
          exact iff_of_false Bool.false_ne_true fun h => h.1
  | false =>
      rw [Row.ofMembers]
      match valuesOf key members with
      | [] =>
          show ((rest.ofMembers members).bind fun vs => some ((none : Option s.Val), vs)).isSome =
            true ↔ _
          rw [isSome_bind_some]
          exact (and_iff_right rfl).symm
      | [j] =>
          exact isSome_bind_iff
      | _ :: _ :: _ =>
          exact iff_of_false Bool.false_ne_true fun h => h.1

mutual

theorem Shape.complaint?_eq_none_iff : (s : Shape) → (j : Json) →
    (s.complaint? j = none ↔ (s.ofJson j).isSome = true)
  | .bool, j => by
      cases j with
      | bool b =>
          exact fit b
      | _ =>
          exact unfit _
  | .text, j => by
      cases j with
      | text t =>
          exact fit t
      | _ =>
          exact unfit _
  | .integer k, j => by
      cases j with
      | number n =>
          cases n with
          | whole n =>
              exact if_isSome_eq_none_iff
          | real literal =>
              exact unfit _
      | _ =>
          exact unfit _
  | .instant, j => by
      cases j with
      | text t =>
          show (if (Calendar.Rfc3339.relaxed? t).isSome then none else _) = none ↔
            ((Calendar.Rfc3339.relaxed? t).map (·.instant)).isSome = true
          rw [Option.isSome_map]
          exact if_isSome_eq_none_iff
      | _ =>
          exact unfit _
  | .free, j =>
      fit j.distinct
  | .choice names, j =>
      choice_complaint?_eq_none_iff names j
  | .nullable s, j => by
      have hvalue : s.complaint? j = none ↔ ((s.ofJson j).map some).isSome = true := by
        rw [Option.isSome_map]
        exact s.complaint?_eq_none_iff j
      cases j with
      | null =>
          exact fit none
      | _ =>
          exact hvalue
  | .list s, j => by
      cases j with
      | list items =>
          have hitems := fun item => s.complaint?_eq_none_iff item
          show items.findSome? s.complaint? = none ↔ (items.mapM s.ofJson).isSome = true
          rw [isSome_mapM_iff, List.findSome?_eq_none_iff]
          simp only [hitems]
      | _ =>
          exact unfit _
  | .dict s, j => by
      cases j with
      | object members =>
          have hvalues := fun value => s.complaint?_eq_none_iff value
          show earliest? _ = none ↔ Option.isSome (members.mapM fun m =>
            (s.ofJson m.2).map fun v => (m.1, v)) = true
          rw [isSome_mapM_iff, earliest?_eq_none_iff, List.filterMap_eq_nil_iff]
          simp only [Option.map_eq_none_iff, Option.isSome_map, hvalues]
      | _ =>
          exact unfit _
  | .record title fields, j => by
      cases j with
      | list items =>
          have hitems := fields.itemsComplaint?_eq_none_iff (fields.expected title) 0 items
          show Option.or _ _ = none ↔ (fields.ofItems items).isSome = true
          rw [← hitems, Option.or_eq_none_iff, ite_eq_right_iff, Nat.not_lt.symm]
          simp
      | object members =>
          have hmembers := fields.complaints_eq_nil_iff members
          show Option.or _ _ = none ↔ (fields.ofMembers members).isSome = true
          rw [← hmembers, Option.or_eq_none_iff, earliest?_eq_none_iff]
      | _ =>
          exact unfit _
  | .variant _ _, _ =>
      if_isSome_eq_none_iff

theorem Row.itemsComplaint?_eq_none_iff (expected : String) : (r : Row) → (place : Nat) →
    (items : List Json) →
    (r.itemsComplaint? expected place items = none ∧ items.length ≤ r.size ↔
      (r.ofItems items).isSome = true)
  | .done, _, [] =>
      iff_of_true ⟨rfl, Nat.le_refl 0⟩ rfl
  | .done, _, _ :: items => by
      refine iff_of_false ?_ Bool.false_ne_true
      intro h
      exact Nat.not_succ_le_zero items.length h.2
  | .field _ required s rest, place, item :: items => by
      have hfirst := s.complaint?_eq_none_iff item
      have hrest := rest.itemsComplaint?_eq_none_iff expected (place + 1) items
      show (s.complaint? item).or _ = none ∧ items.length + 1 ≤ rest.size + 1 ↔ _
      rw [Option.or_eq_none_iff, Nat.add_le_add_iff_right, and_assoc, hfirst, hrest]
      cases required with
      | true =>
          exact (isSome_bind_iff (f := fun v vs => (v, vs))).symm
      | false =>
          exact (isSome_bind_iff (f := fun v vs => (some v, vs))).symm
  | .field _ true _ _, place, [] => by
      refine iff_of_false ?_ Bool.false_ne_true
      intro h
      cases h.1
  | .field key false s rest, place, [] => by
      have hrest := rest.itemsComplaint?_eq_none_iff expected (place + 1) []
      have hread : ((Row.field key false s rest).ofItems []).isSome = (rest.ofItems []).isSome :=
        isSome_bind_some _ _
      rw [hread, ← hrest]
      exact and_congr_right fun _ => iff_of_true (Nat.zero_le _) (Nat.zero_le _)

theorem Row.complaints_eq_nil_iff : (r : Row) → (members : List (String × Json)) →
    (r.complaints members = [] ∧ r.miscounted? members = none ↔
      (r.ofMembers members).isSome = true)
  | .done, _ =>
      iff_of_true ⟨rfl, rfl⟩ rfl
  | .field key required s rest, members => by
      have hvalue := fun value => s.complaint?_eq_none_iff value
      have hrest := rest.complaints_eq_nil_iff members
      rw [Row.complaints, Row.miscounted?, Row.isSome_ofMembers_field, ← hrest,
        List.append_eq_nil_iff, List.map_eq_nil_iff, List.filterMap_eq_nil_iff]
      cases valuesOf key members with
      | nil =>
          cases required <;> simp [Shape.fits]
      | cons j others =>
          cases others with
          | nil =>
              rw [List.forall_mem_singleton, hvalue]
              exact and_assoc
          | cons j' others =>
              simp [Shape.fits]

end

/-- There is a complaint about whatever does not decode. -/
theorem complaint?_eq_some {α : Type} [Wire α] {j : Json} (h : ofJson? α j = none) :
    (Wire.shape α).complaint? j = some (complaint α j) := by
  have hread : (Wire.shape α).ofJson j = none := Option.map_eq_none_iff.mp h
  unfold complaint
  cases hcomplaint : (Wire.shape α).complaint? j with
  | none =>
      rw [Shape.complaint?_eq_none_iff, hread] at hcomplaint
      cases hcomplaint
  | some c =>
      rfl

/-! ## What complaints depend on -/

def Row.fields : Row → List (String × Shape)
  | .done => []
  | .field key _ s rest => (key, s) :: rest.fields

section

variable {members members' : List (String × Json)}

theorem Row.complaints_congr : (r : Row) →
    (∀ f ∈ r.fields, (valuesOf f.1 members').filterMap f.2.complaint? =
      (valuesOf f.1 members).filterMap f.2.complaint?) →
    r.complaints members' = r.complaints members
  | .done, _ => rfl
  | .field key _ s rest, h => by
      have hfirst := h (key, s) List.mem_cons_self
      have hrest := rest.complaints_congr fun f hf => h f (List.mem_cons_of_mem _ hf)
      rw [Row.complaints, Row.complaints, hfirst, hrest]

theorem Row.miscounted?_congr : (r : Row) →
    (∀ f ∈ r.fields, (valuesOf f.1 members').length = (valuesOf f.1 members).length) →
    r.miscounted? members' = r.miscounted? members
  | .done, _ => rfl
  | .field key _ s rest, h => by
      have hfirst := h (key, s) List.mem_cons_self
      have hrest := rest.miscounted?_congr fun f hf => h f (List.mem_cons_of_mem _ hf)
      rw [Row.miscounted?, Row.miscounted?, hrest]
      match hvalues : valuesOf key members, hvalues' : valuesOf key members' with
      | [], [] =>
          rfl
      | [_], [_] =>
          rfl
      | _ :: _ :: _, _ :: _ :: _ =>
          rfl
      | [], _ :: _ =>
          simp [hvalues, hvalues'] at hfirst
      | [_], [] =>
          simp [hvalues, hvalues'] at hfirst
      | [_], _ :: _ :: _ =>
          simp [hvalues, hvalues'] at hfirst
      | _ :: _ :: _, [] =>
          simp [hvalues, hvalues'] at hfirst
      | _ :: _ :: _, [_] =>
          simp [hvalues, hvalues'] at hfirst

/-- Objects have the same complaint if each field has the same ones and is there as often. -/
theorem complaint_congr {α : Type} [Wire α] {title : String} {fields : Row}
    (hshape : Wire.shape α = .record title fields)
    (hcomplaints : ∀ f ∈ fields.fields, (valuesOf f.1 members').filterMap f.2.complaint? =
      (valuesOf f.1 members).filterMap f.2.complaint?)
    (hcounts : ∀ f ∈ fields.fields,
      (valuesOf f.1 members').length = (valuesOf f.1 members).length) :
    complaint α (.object members') = complaint α (.object members) := by
  have hsame : (Shape.record title fields).complaint? (.object members') =
      (Shape.record title fields).complaint? (.object members) := by
    show (earliest? _).or _ = (earliest? _).or _
    rw [fields.complaints_congr hcomplaints, fields.miscounted?_congr hcounts]
  unfold complaint
  rw [hshape, hsame]
  rfl

end

end Json
end SiteGuard
