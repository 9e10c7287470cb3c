import SiteGuard.Proofs.Text.Digits
import SiteGuard.Proofs.Url.Web

/-!
# IPv6 addresses that are read again

The text of an address leaves out one run of zero groups at most, and the gap in
it stands for just that run when the text is read.
-/

namespace SiteGuard
namespace Ipv6

open Text

/-! ## Groups -/

/-- What may stand between the colons of an address: something, and no mark. -/
def IsGroupText (cs : List Char) : Prop :=
  cs ≠ [] ∧ ':' ∉ cs ∧ '.' ∉ cs

theorem isGroupText_groupText (g : UInt16) : IsGroupText (groupText g) := by
  have hmarks : ∀ c ∈ groupText g, c ≠ ':' ∧ c ≠ '.' :=
    Url.of_mem_toDigits (P := fun c => c ≠ ':' ∧ c ≠ '.') (by decide) (by decide) (by decide) _
  refine ⟨Nat.toDigits_ne_nil, ?_, ?_⟩
  · exact fun hmem => (hmarks ':' hmem).1 rfl
  · exact fun hmem => (hmarks '.' hmem).2 rfl

theorem isGroupText_of_mem {gs : List UInt16} : ∀ part ∈ gs.map groupText, IsGroupText part := by
  intro part hpart
  rcases List.mem_map.mp hpart with ⟨g, _, rfl⟩
  exact isGroupText_groupText g

theorem group?_groupText (g : UInt16) : group? (groupText g) = some g := by
  have hlength : (groupText g).length ≤ 4 :=
    (Nat.length_toDigits_le_iff (by decide) (by decide)).mpr g.toNat_lt
  unfold group?
  rw [if_pos hlength]
  unfold groupText
  rw [natOfDigits?_toDigits (by decide) (by decide), Option.map_some, UInt16.ofNat_toNat]

theorem mapM_group? (gs : List UInt16) : (gs.map groupText).mapM group? = some gs := by
  induction gs with
  | nil =>
      rfl
  | cons g rest ih =>
      rw [List.map_cons, List.mapM_cons, group?_groupText, ih]
      rfl

theorem groupsOf?_groupTexts (gs : List UInt16) : groupsOf? (gs.map groupText) = some gs := by
  induction gs with
  | nil =>
      rfl
  | cons g rest ih =>
      cases rest with
      | nil =>
          have hdot : (groupText g).contains '.' = false := by
            simpa using (isGroupText_groupText g).2.2
          simp only [List.map_cons, List.map_nil, groupsOf?, hdot, group?_groupText]
          rfl
      | cons next more =>
          rw [List.map_cons, List.map_cons, groupsOf?, ← List.map_cons, group?_groupText, ih]
          · rfl
          · exact List.cons_ne_nil _ _

theorem colonPieces_join (gs : List UInt16) :
    colonPieces (join ':' (gs.map groupText)) = gs.map groupText := by
  cases gs with
  | nil =>
      rfl
  | cons g rest =>
      have hpieces : pieces ':' (join ':' ((g :: rest).map groupText)) =
          (g :: rest).map groupText :=
        pieces_join (List.cons_ne_nil _ _) fun part hpart => (isGroupText_of_mem part hpart).2.1
      have hne : join ':' ((g :: rest).map groupText) ≠ [] := by
        intro hempty
        rw [hempty] at hpieces
        have hfirst : groupText g = [] := (List.cons.inj hpieces).1.symm
        exact (isGroupText_groupText g).1 hfirst
      unfold colonPieces
      rw [if_neg (by simpa using hne), hpieces]

/-! ## The gap -/

def inFront (front : List Char) (found : Option (List Char × List Char)) :
    Option (List Char × List Char) :=
  found.map fun (before, after) => (front ++ before, after)

theorem inFront_inFront (front front' : List Char) (found : Option (List Char × List Char)) :
    inFront front (inFront front' found) = inFront (front ++ front') found := by
  cases found with
  | none =>
      rfl
  | some parts =>
      simp [inFront]

theorem cutGap_cons {c : Char} {cs : List Char} (h : ∀ rest, c :: cs ≠ ':' :: ':' :: rest) :
    cutGap (c :: cs) = inFront [c] (cutGap cs) := by
  rw [cutGap]
  · rfl
  · intro rest hc hcs
    exact h rest (by rw [hc, hcs])

theorem cutGap_append {part : List Char} (hpart : ':' ∉ part) (cs : List Char) :
    cutGap (part ++ cs) = inFront part (cutGap cs) := by
  induction part with
  | nil =>
      simp [inFront]
  | cons c rest ih =>
      have hc : c ≠ ':' := fun hc => hpart (hc ▸ List.mem_cons_self)
      have hrest := ih fun hmem => hpart (List.mem_cons_of_mem _ hmem)
      rw [List.cons_append, cutGap_cons, hrest, inFront_inFront]
      · rfl
      · intro rest' heq
        exact hc (List.cons.inj heq).1

/-- No gap is among groups with colons between them, or begins with the last of them. -/
theorem cutGap_join_append {parts : List (List Char)} (hparts : ∀ part ∈ parts, IsGroupText part)
    (cs : List Char) : cutGap (join ':' parts ++ cs) = inFront (join ':' parts) (cutGap cs) := by
  induction parts with
  | nil =>
      simp [inFront, join]
  | cons part rest ih =>
      have hpart : ':' ∉ part := (hparts part List.mem_cons_self).2.1
      cases rest with
      | nil =>
          exact cutGap_append hpart cs
      | cons next more =>
          have hnext := hparts next (List.mem_cons_of_mem _ List.mem_cons_self)
          have hrest := ih fun p hp => hparts p (List.mem_cons_of_mem _ hp)
          have hcolon : cutGap (':' :: (join ':' (next :: more) ++ cs)) =
              inFront [':'] (cutGap (join ':' (next :: more) ++ cs)) := by
            apply cutGap_cons
            intro rest' heq
            rcases List.exists_cons_of_ne_nil hnext.1 with ⟨c, tail, hc⟩
            have hfirst : (join ':' (next :: more) ++ cs).head? = some c := by
              cases more <;> simp [join, hc]
            rw [(List.cons.inj heq).2] at hfirst
            obtain rfl : ':' = c := Option.some.inj hfirst
            exact hnext.2.1 (hc ▸ List.mem_cons_self)
          show cutGap (part ++ ':' :: join ':' (next :: more) ++ cs) = _
          rw [List.append_assoc, cutGap_append hpart, List.cons_append, hcolon, hrest,
            inFront_inFront, inFront_inFront]
          simp [join]

/-! ## Zeros -/

theorem takeWhile_zeros (gs : List UInt16) :
    gs.takeWhile (· == 0) = List.replicate (gs.takeWhile (· == 0)).length 0 := by
  apply List.eq_replicate_of_mem
  intro g hg
  simpa using List.mem_takeWhile_imp hg

theorem longestZeros_spec {gs : List UInt16} {start length : Nat}
    (h : longestZeros gs = (start, length)) :
    ∃ front back, gs = front ++ List.replicate length 0 ++ back ∧ front.length = start := by
  induction gs generalizing start length with
  | nil =>
      cases h
      exact ⟨[], [], rfl, rfl⟩
  | cons g rest ih =>
      rw [longestZeros] at h
      dsimp only at h
      split at h
      · cases h
        refine ⟨[], (g :: rest).dropWhile (· == 0), ?_, rfl⟩
        rw [List.nil_append, ← takeWhile_zeros]
        exact List.takeWhile_append_dropWhile.symm
      · cases h
        rcases ih rfl with ⟨front, back, hrest, hfront⟩
        refine ⟨g :: front, back, ?_, by simp [hfront]⟩
        rw [List.cons_append, List.cons_append, ← hrest]

/-! ## Addresses -/

theorem of?_groups (a : Ipv6) : of? a.groups = some a :=
  dif_pos a.size

theorem parse?_text (a : Ipv6) : parse? a.text = some a := by
  rcases hzeros : longestZeros a.groups with ⟨start, length⟩
  have htext : a.text = if length < 2 then join ':' (a.groups.map groupText) else
      join ':' ((a.groups.map groupText).take start) ++ ':' :: ':' ::
        join ':' ((a.groups.map groupText).drop (start + length)) := by
    unfold text
    rw [hzeros]
  by_cases hshort : length < 2
  · have hgap : cutGap (join ':' (a.groups.map groupText)) = none := by
      have hparts : ∀ part ∈ a.groups.map groupText, IsGroupText part := isGroupText_of_mem
      have happend := cutGap_join_append hparts []
      rw [List.append_nil] at happend
      exact happend
    unfold parse?
    rw [htext, if_pos hshort, hgap]
    dsimp only
    rw [colonPieces_join, groupsOf?_groupTexts]
    exact of?_groups a
  · rcases longestZeros_spec hzeros with ⟨front, back, hgroups, hfront⟩
    have hsize : front.length + length + back.length = 8 := by
      have hlength := a.size
      rw [hgroups, List.length_append, List.length_append, List.length_replicate] at hlength
      exact hlength
    have hshown : a.groups.take start = front := by
      rw [hgroups, List.append_assoc, ← hfront, List.take_left]
    have hrest : a.groups.drop (start + length) = back := by
      have hskipped : (front ++ List.replicate length 0).length = start + length := by
        rw [List.length_append, List.length_replicate, hfront]
      rw [hgroups, ← hskipped, List.drop_left]
    have hparts : a.text =
        join ':' (front.map groupText) ++ ':' :: ':' :: join ':' (back.map groupText) := by
      rw [htext, if_neg hshort, ← List.map_take, ← List.map_drop, hshown, hrest]
    have hgap : cutGap a.text =
        some (join ':' (front.map groupText), join ':' (back.map groupText)) := by
      rw [hparts, cutGap_join_append isGroupText_of_mem]
      simp [cutGap, inFront]
    have hleft : 8 - (front.length + back.length) = length := by
      omega
    unfold parse?
    rw [hgap]
    dsimp only
    rw [colonPieces_join, colonPieces_join, mapM_group?, groupsOf?_groupTexts]
    show (if front.length + back.length < 8 then
      of? (front ++ List.replicate (8 - (front.length + back.length)) 0 ++ back) else none) = some a
    rw [if_pos (by omega), hleft, ← hgroups]
    exact of?_groups a

end Ipv6
end SiteGuard
