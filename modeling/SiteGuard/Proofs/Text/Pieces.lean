import SiteGuard.Proofs.Text

/-!
# Pieces and blanks

Splitting a text and joining the pieces again gives the text, and so does the
other way round where no piece holds the separator.  Trimming a text that has
been trimmed changes nothing.
-/

namespace SiteGuard
namespace Text

/-! ## Pieces -/

theorem exists_pieces (sep : Char) (cs : List Char) :
    ∃ piece more, pieces sep cs = piece :: more :=
  List.exists_cons_of_ne_nil (pieces_ne_nil sep cs)

theorem pieces_cons_of_ne {sep c : Char} {cs piece : List Char} {more : List (List Char)}
    (hc : c ≠ sep) (h : pieces sep cs = piece :: more) :
    pieces sep (c :: cs) = (c :: piece) :: more := by
  rw [pieces, if_neg hc, h]

theorem join_pieces (sep : Char) (cs : List Char) : join sep (pieces sep cs) = cs := by
  induction cs with
  | nil =>
      rfl
  | cons c rest ih =>
      rcases exists_pieces sep rest with ⟨piece, more, hrest⟩
      rw [hrest] at ih
      by_cases hc : c = sep
      · rw [pieces, if_pos hc, hrest, hc]
        exact congrArg (List.cons sep) ih
      · rw [pieces_cons_of_ne hc hrest]
        cases more with
        | nil =>
            exact congrArg (List.cons c) ih
        | cons next others =>
            exact congrArg (List.cons c) ih

/-- The pieces before a separator and those behind it are the pieces of the whole. -/
theorem pieces_append_cons (sep : Char) (front back : List Char) :
    pieces sep (front ++ sep :: back) = pieces sep front ++ pieces sep back := by
  induction front with
  | nil =>
      simp [pieces]
  | cons c rest ih =>
      rcases exists_pieces sep rest with ⟨piece, more, hrest⟩
      by_cases hc : c = sep
      · simp [pieces, hc, ih]
      · rw [hrest] at ih
        rw [pieces_cons_of_ne hc hrest]
        exact pieces_cons_of_ne hc ih

theorem pieces_append_sep (sep : Char) (cs : List Char) :
    pieces sep (cs ++ [sep]) = pieces sep cs ++ [[]] :=
  pieces_append_cons sep cs []

theorem mem_of_mem_pieces {sep c : Char} {cs piece : List Char} (hpiece : piece ∈ pieces sep cs)
    (hc : c ∈ piece) : c ∈ cs := by
  induction cs generalizing piece with
  | nil =>
      rw [List.mem_singleton.mp hpiece] at hc
      cases hc
  | cons d rest ih =>
      rcases exists_pieces sep rest with ⟨first, more, hrest⟩
      by_cases hd : d = sep
      · rw [pieces, if_pos hd] at hpiece
        rcases List.mem_cons.mp hpiece with rfl | hpiece
        · cases hc
        · exact List.mem_cons_of_mem _ (ih hpiece hc)
      · rw [pieces_cons_of_ne hd hrest] at hpiece
        rw [hrest] at ih
        rcases List.mem_cons.mp hpiece with rfl | hpiece
        · rcases List.mem_cons.mp hc with rfl | hc
          · exact List.mem_cons_self
          · exact List.mem_cons_of_mem _ (ih List.mem_cons_self hc)
        · exact List.mem_cons_of_mem _ (ih (List.mem_cons_of_mem _ hpiece) hc)

theorem not_mem_of_mem_pieces {sep : Char} {cs piece : List Char}
    (hpiece : piece ∈ pieces sep cs) : sep ∉ piece := by
  induction cs generalizing piece with
  | nil =>
      rw [List.mem_singleton.mp hpiece]
      exact List.not_mem_nil
  | cons d rest ih =>
      rcases exists_pieces sep rest with ⟨first, more, hrest⟩
      by_cases hd : d = sep
      · rw [pieces, if_pos hd] at hpiece
        rcases List.mem_cons.mp hpiece with rfl | hpiece
        · exact List.not_mem_nil
        · exact ih hpiece
      · rw [pieces_cons_of_ne hd hrest] at hpiece
        rw [hrest] at ih
        rcases List.mem_cons.mp hpiece with rfl | hpiece
        · exact List.not_mem_cons_of_ne_of_not_mem (Ne.symm hd) (ih List.mem_cons_self)
        · exact ih (List.mem_cons_of_mem _ hpiece)

theorem pieces_eq_singleton {sep : Char} {part : List Char} (hpart : sep ∉ part) :
    pieces sep part = [part] := by
  induction part with
  | nil =>
      rfl
  | cons c rest ih =>
      have hc : c ≠ sep := fun hc => hpart (hc ▸ List.mem_cons_self)
      exact pieces_cons_of_ne hc (ih fun hmem => hpart (List.mem_cons_of_mem _ hmem))

theorem pieces_append {sep : Char} {part : List Char} (hpart : sep ∉ part) (cs : List Char) :
    pieces sep (part ++ sep :: cs) = part :: pieces sep cs := by
  rw [pieces_append_cons, pieces_eq_singleton hpart]
  rfl

theorem pieces_join {sep : Char} {parts : List (List Char)} (hne : parts ≠ [])
    (hparts : ∀ part ∈ parts, sep ∉ part) : pieces sep (join sep parts) = parts := by
  induction parts with
  | nil =>
      exact absurd rfl hne
  | cons part rest ih =>
      have hpart : sep ∉ part := hparts part List.mem_cons_self
      cases rest with
      | nil =>
          exact pieces_eq_singleton hpart
      | cons next more =>
          have hrest := ih (List.cons_ne_nil _ _) fun p hp =>
            hparts p (List.mem_cons_of_mem _ hp)
          show pieces sep (part ++ sep :: join sep (next :: more)) = _
          rw [pieces_append hpart, hrest]

theorem join_append (sep : Char) {front back : List (List Char)} (hfront : front ≠ [])
    (hback : back ≠ []) : join sep (front ++ back) = join sep front ++ sep :: join sep back := by
  induction front with
  | nil =>
      exact absurd rfl hfront
  | cons part rest ih =>
      cases rest with
      | nil =>
          cases back with
          | nil =>
              exact absurd rfl hback
          | cons next more =>
              rfl
      | cons next more =>
          have hrest := ih (List.cons_ne_nil _ _)
          show part ++ sep :: join sep (next :: more ++ back) = _
          rw [hrest]
          exact (List.append_assoc part (sep :: join sep (next :: more)) _).symm

theorem of_mem_join {sep c : Char} {parts : List (List Char)} (h : c ∈ join sep parts) :
    c = sep ∨ ∃ part ∈ parts, c ∈ part := by
  induction parts with
  | nil =>
      cases h
  | cons part rest ih =>
      cases rest with
      | nil =>
          exact Or.inr ⟨part, List.mem_cons_self, h⟩
      | cons next more =>
          rcases List.mem_append.mp h with h | h
          · exact Or.inr ⟨part, List.mem_cons_self, h⟩
          · rcases List.mem_cons.mp h with rfl | h
            · exact Or.inl rfl
            · rcases ih h with hsep | ⟨found, hfound, hc⟩
              · exact Or.inl hsep
              · exact Or.inr ⟨found, List.mem_cons_of_mem _ hfound, hc⟩

/-! ## Beginnings -/

theorem stripStart_eq_some_iff {mark cs rest : List Char} :
    stripStart mark cs = some rest ↔ cs = mark ++ rest := by
  induction mark generalizing cs with
  | nil =>
      simp [stripStart, eq_comm]
  | cons p more ih =>
      cases cs with
      | nil =>
          simp [stripStart]
      | cons c cs =>
          by_cases hc : p = c
          · simp [stripStart, hc, ih]
          · simp [stripStart, hc, Ne.symm hc]

theorem stripStart_eq_none_iff {mark cs : List Char} :
    stripStart mark cs = none ↔ ¬mark <+: cs := by
  constructor
  · rintro hnone ⟨rest, rfl⟩
    rw [stripStart_eq_some_iff.mpr rfl] at hnone
    cases hnone
  · intro hprefix
    cases hstrip : stripStart mark cs with
    | none =>
        rfl
    | some rest =>
        exact absurd ⟨rest, (stripStart_eq_some_iff.mp hstrip).symm⟩ hprefix

/-! ## Blanks -/

structure Trimmed (cs : List Char) : Prop where
  head : ∀ c ∈ cs.head?, isBlank c = false
  last : ∀ c ∈ cs.getLast?, isBlank c = false

theorem trim_eq_self {cs : List Char} (h : Trimmed cs) : trim cs = cs := by
  have hstart : trimStart cs = cs := by
    unfold trimStart
    apply List.dropWhile_eq_self_iff.mpr
    intro hpos
    rw [h.head _ (List.head?_eq_getElem? ▸ List.getElem?_eq_getElem hpos)]
    exact Bool.false_ne_true
  have hend : cs.reverse.dropWhile isBlank = cs.reverse := by
    apply List.dropWhile_eq_self_iff.mpr
    intro hpos
    have hlast : cs.reverse[0] ∈ cs.getLast? := by
      rw [← List.head?_reverse, List.head?_eq_getElem?, List.getElem?_eq_getElem hpos]
      rfl
    rw [h.last _ hlast]
    exact Bool.false_ne_true
  unfold trim trimEnd
  rw [hstart, hend, List.reverse_reverse]

theorem trimmed_trim (cs : List Char) : Trimmed (trim cs) := by
  have hstart : ∀ ds : List Char, ∀ c ∈ (ds.dropWhile isBlank).head?, isBlank c = false := by
    intro ds c hc
    have hnot := List.head?_dropWhile_not isBlank ds
    rw [Option.mem_def.mp hc] at hnot
    simpa using hnot
  constructor
  · intro c hc
    have hprefix : trim cs <+: trimStart cs := by
      have hsuffix := List.dropWhile_suffix isBlank (l := (trimStart cs).reverse)
      rw [← List.reverse_prefix, List.reverse_reverse] at hsuffix
      exact hsuffix
    apply hstart cs
    cases htrim : trim cs with
    | nil =>
        rw [htrim] at hc
        cases hc
    | cons d rest =>
        rw [htrim] at hc hprefix
        rcases hprefix with ⟨back, hback⟩
        show c ∈ (trimStart cs).head?
        rw [← hback]
        exact hc
  · intro c hc
    unfold trim trimEnd at hc
    rw [List.getLast?_reverse] at hc
    exact hstart _ c hc

theorem isBlank_toLower (c : Char) : isBlank c.toLower = isBlank c := by
  by_cases hupper : c.isUpper = true
  · have hbounds : 65 ≤ c.toNat ∧ c.toNat ≤ 90 := by
      simpa [Char.isUpper, UInt32.le_iff_toNat_le, ← Char.toNat_val] using hupper
    have hall : ∀ n : Fin 128, isBlank (Char.ofNat n.val).toLower = isBlank (Char.ofNat n.val) := by
      decide
    have hc := hall ⟨c.toNat, by omega⟩
    rw [Char.ofNat_toNat] at hc
    exact hc
  · rw [Char.toLower_eq_of_not_isUpper hupper]

theorem Trimmed.lower {cs : List Char} (h : Trimmed cs) : Trimmed (lower cs) := by
  unfold Text.lower
  constructor
  · intro c hc
    rw [List.head?_map] at hc
    rcases Option.map_eq_some_iff.mp hc with ⟨d, hd, rfl⟩
    rw [isBlank_toLower]
    exact h.head d hd
  · intro c hc
    rw [List.getLast?_map] at hc
    rcases Option.map_eq_some_iff.mp hc with ⟨d, hd, rfl⟩
    rw [isBlank_toLower]
    exact h.last d hd

theorem isBlank_of_trim_eq_nil {cs : List Char} (h : trim cs = []) : ∀ c ∈ cs, isBlank c = true := by
  have hrest : ∀ c ∈ trimStart cs, isBlank c = true := by
    unfold trim trimEnd at h
    rw [List.reverse_eq_nil_iff, List.dropWhile_eq_nil_iff] at h
    exact fun c hc => h c (List.mem_reverse.mpr hc)
  intro c hc
  rw [← List.takeWhile_append_dropWhile (p := isBlank) (l := cs)] at hc
  rcases List.mem_append.mp hc with hfront | hback
  · exact List.mem_takeWhile_imp hfront
  · exact hrest c hback

theorem isBlankString_of_mem {s : String} {c : Char} (hmem : c ∈ s.toList)
    (hc : isBlank c = false) : isBlankString s = false := by
  unfold isBlankString
  rw [List.isEmpty_eq_false_iff]
  intro hempty
  rw [isBlank_of_trim_eq_nil hempty c hmem] at hc
  cases hc

theorem trimmed_of_all {cs : List Char} (h : ∀ c ∈ cs, isBlank c = false) : Trimmed cs :=
  ⟨fun c hc => h c (List.mem_of_mem_head? hc), fun c hc => h c (List.mem_of_getLast? hc)⟩

end Text
end SiteGuard
