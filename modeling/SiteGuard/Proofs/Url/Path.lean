import SiteGuard.Proofs.Url.Authority

/-!
# Paths that are read again

Where dot segments have been taken out of a path, none of them comes back when its
text is read.  Only a drive letter may change then, if it stands in front of the path
of a file and was not there when that path was read first.
-/

namespace SiteGuard
namespace Url

open Text

/-! ## Segments -/

section Segments

variable {kind : Kind} {s : List Char}

/-- A segment of which nothing is left to escape and that stands for itself. -/
structure IsSegment (kind : Kind) (s : List Char) : Prop where
  settled : Percent.Settled Percent.inPath s
  slashless : ∀ c ∈ s, isSlash kind c = false
  single : isSingleDot s = false
  double : isDoubleDot s = false

theorem IsSegment.nil (kind : Kind) : IsSegment kind [] :=
  ⟨.nil, fun _ hc => absurd hc List.not_mem_nil, by decide, by decide⟩

theorem IsSegment.not_mem_slash (h : IsSegment kind s) : '/' ∉ s := by
  intro hmem
  have hslash := h.slashless '/' hmem
  cases hslash

/-! ### Drive letters -/

theorem isDrive_iff {s : List Char} :
    isDrive s = true ↔ ∃ letter mark, s = [letter, mark] ∧ letter.isAlpha = true ∧
      (mark = ':' ∨ mark = '|') := by
  unfold isDrive
  split
  · simp
  · rename_i hlength
    simp only [Bool.false_eq_true, false_iff]
    rintro ⟨letter, mark, rfl, _⟩
    exact hlength letter mark rfl

theorem driveForm_of_not_drive (done : List (List Char)) (h : isDrive s = false) :
    driveForm kind done s = s := by
  unfold driveForm
  split
  · rw [h]
    rfl
  · rfl

theorem driveForm_of_ne {done : List (List Char)} (h : done ≠ [] ∨ kind ≠ .file) :
    driveForm kind done s = s := by
  unfold driveForm
  split
  · rcases h with hdone | hkind
    · exact absurd rfl hdone
    · exact absurd rfl hkind
  · rfl

theorem driveForm_file {letter mark : Char} (h : isDrive [letter, mark] = true) :
    driveForm .file [] [letter, mark] = [letter, ':'] :=
  if_pos h

theorem isDrive_driveForm (s : List Char) : isDrive (driveForm .file [] s) = isDrive s ∧
    driveForm .file [] (driveForm .file [] s) = driveForm .file [] s := by
  cases hdrive : isDrive s with
  | false =>
      rw [driveForm_of_not_drive [] hdrive, driveForm_of_not_drive [] hdrive]
      exact ⟨hdrive, rfl⟩
  | true =>
      rcases isDrive_iff.mp hdrive with ⟨letter, mark, rfl, hletter, _⟩
      have hcolon : isDrive [letter, ':'] = true := by
        simp [isDrive, hletter]
      rw [driveForm_file hdrive]
      exact ⟨hcolon, driveForm_file hcolon⟩

theorem isSegment_driveForm (done : List (List Char)) (h : IsSegment kind s) :
    IsSegment kind (driveForm kind done s) := by
  by_cases hfront : done ≠ [] ∨ kind ≠ .file
  · rw [driveForm_of_ne hfront]
    exact h
  · rw [not_or, not_not, not_not] at hfront
    obtain ⟨rfl, rfl⟩ := hfront
    cases hdrive : isDrive s with
    | false =>
        rw [driveForm_of_not_drive [] hdrive]
        exact h
    | true =>
        rcases isDrive_iff.mp hdrive with ⟨letter, mark, rfl, _⟩
        have hsettled := h.settled letter List.mem_cons_self
        have hslashless := h.slashless letter List.mem_cons_self
        rw [driveForm_file hdrive]
        constructor
        · intro c hc
          rcases List.mem_pair.mp hc with rfl | rfl
          · exact hsettled
          · decide
        · intro c hc
          rcases List.mem_pair.mp hc with rfl | rfl
          · exact hslashless
          · decide
        · simp [isSingleDot, lower]
        · simp [isDoubleDot, lower]

/-! ### Dots -/

theorem parent_subset (done : List (List Char)) : parent done ⊆ done := by
  unfold parent
  split
  · exact List.Subset.refl _
  · split
    · exact List.Subset.refl _
    · exact List.subset_cons_self _ _

theorem isSegment_of_mem_resolve {done todo : List (List Char)}
    (hdone : ∀ s ∈ done, IsSegment kind s)
    (htodo : ∀ s ∈ todo, Percent.Settled Percent.inPath s ∧ ∀ c ∈ s, isSlash kind c = false) :
    ∀ s ∈ resolve kind done todo, IsSegment kind s := by
  induction todo generalizing done with
  | nil =>
      intro s hs
      exact hdone s (List.mem_reverse.mp hs)
  | cons segment rest ih =>
      have hrest : ∀ s ∈ rest, Percent.Settled Percent.inPath s ∧ ∀ c ∈ s, isSlash kind c = false :=
        fun s hs => htodo s (List.mem_cons_of_mem _ hs)
      have hempty : ∀ ds : List (List Char), (∀ s ∈ ds, IsSegment kind s) →
          ∀ s ∈ if rest.isEmpty then [] :: ds else ds, IsSegment kind s := by
        intro ds hds
        split
        · exact List.forall_mem_cons.mpr ⟨.nil kind, hds⟩
        · exact hds
      unfold resolve
      split
      · refine ih (hempty (parent done) ?_) hrest
        exact fun s hs => hdone s (parent_subset done hs)
      · rename_i hdouble
        split
        · exact ih (hempty done hdone) hrest
        · rename_i hsingle
          rcases htodo segment List.mem_cons_self with ⟨hsettled, hslashless⟩
          have hsegment : IsSegment kind segment :=
            ⟨hsettled, hslashless, eq_false_of_ne_true hsingle, eq_false_of_ne_true hdouble⟩
          exact ih (List.forall_mem_cons.mpr ⟨isSegment_driveForm done hsegment, hdone⟩) hrest

theorem resolve_ne_nil {done todo : List (List Char)} (h : done ≠ [] ∨ todo ≠ []) :
    resolve kind done todo ≠ [] := by
  induction todo generalizing done with
  | nil =>
      rcases h with hdone | htodo
      · exact List.reverse_ne_nil_iff.mpr hdone
      · exact absurd rfl htodo
  | cons segment rest ih =>
      have hempty : ∀ ds : List (List Char),
          (if rest.isEmpty then [] :: ds else ds) ≠ [] ∨ rest ≠ [] := by
        intro ds
        cases rest with
        | nil =>
            exact Or.inl (List.cons_ne_nil _ _)
        | cons next more =>
            exact Or.inr (List.cons_ne_nil _ _)
      unfold resolve
      split
      · exact ih (hempty _)
      · split
        · exact ih (hempty _)
        · exact ih (Or.inl (List.cons_ne_nil _ _))

theorem resolve_of_isSegment {done todo : List (List Char)} (hfront : done ≠ [] ∨ kind ≠ .file)
    (htodo : ∀ s ∈ todo, IsSegment kind s) : resolve kind done todo = done.reverse ++ todo := by
  induction todo generalizing done with
  | nil =>
      exact (List.append_nil _).symm
  | cons segment rest ih =>
      have hsegment := htodo segment List.mem_cons_self
      have hrest : resolve kind (segment :: done) rest = (segment :: done).reverse ++ rest :=
        ih (Or.inl (List.cons_ne_nil _ _)) fun s hs => htodo s (List.mem_cons_of_mem _ hs)
      unfold resolve
      rw [hsegment.double, hsegment.single, driveForm_of_ne hfront]
      simpa using hrest

end Segments

/-! ## Paths -/

section Paths

variable {kind : Kind}

/-- The segments of a path when it is read again, the first one in its drive form. -/
def driveFront (kind : Kind) : List (List Char) → List (List Char)
  | [] => []
  | s :: rest => driveForm kind [] s :: rest

theorem driveFront_of_ne (hkind : kind ≠ .file) (segs : List (List Char)) :
    driveFront kind segs = segs := by
  cases segs with
  | nil =>
      rfl
  | cons s rest =>
      exact congrArg (List.cons · rest) (driveForm_of_ne (Or.inr hkind))

theorem isSegment_of_mem_driveFront {segs : List (List Char)} (h : ∀ s ∈ segs, IsSegment kind s) :
    ∀ s ∈ driveFront kind segs, IsSegment kind s := by
  cases segs with
  | nil =>
      exact h
  | cons s rest =>
      rcases List.forall_mem_cons.mp h with ⟨hs, hrest⟩
      exact List.forall_mem_cons.mpr ⟨isSegment_driveForm [] hs, hrest⟩

/-- No slash is left in what a path text is split into, and no escape puts one there. -/
theorem slashless_of_mem_pieces {cs piece : List Char}
    (hpiece : piece ∈ pieces '/' (cs.map fun c => if isSlash kind c then '/' else c)) :
    ∀ c ∈ Percent.encode Percent.inPath piece, isSlash kind c = false := by
  have hescape : isSlash kind '%' = false ∧ ∀ n < 16, isSlash kind (Percent.digit n) = false := by
    cases kind <;> decide
  intro c hc
  rcases Percent.of_mem_encode hc with ⟨hmem, _⟩ | rfl | ⟨n, hn, rfl⟩
  · rcases List.mem_map.mp (mem_of_mem_pieces hpiece hmem) with ⟨d, _, hd⟩
    split at hd
    · rw [← hd] at hmem
      exact absurd hmem (not_mem_of_mem_pieces hpiece)
    · rename_i hslash
      rw [← hd]
      exact eq_false_of_ne_true hslash
  · exact hescape.1
  · exact hescape.2 n hn

theorem isSegment_of_mem_segments (cs : List Char) : ∀ s ∈ segments kind cs, IsSegment kind s := by
  apply isSegment_of_mem_resolve
  · exact fun s hs => absurd hs List.not_mem_nil
  · intro s hs
    rcases List.mem_map.mp hs with ⟨piece, hpiece, rfl⟩
    exact ⟨Percent.settled_encode (by decide) (by decide) piece, slashless_of_mem_pieces hpiece⟩

theorem segments_ne_nil (cs : List Char) : segments kind cs ≠ [] := by
  apply resolve_ne_nil
  exact Or.inr (by simp [pieces_ne_nil])

theorem segments_join {segs : List (List Char)} (hne : segs ≠ [])
    (hsegs : ∀ s ∈ segs, IsSegment kind s) :
    segments kind (join '/' segs) = driveFront kind segs := by
  have hslashes : (join '/' segs).map (fun c => if isSlash kind c then '/' else c) =
      join '/' segs := by
    have hkept : ∀ c ∈ join '/' segs, (if isSlash kind c then '/' else c) = c := by
      intro c hc
      rcases of_mem_join hc with rfl | ⟨s, hs, hc⟩
      · exact ite_self _
      · rw [(hsegs s hs).slashless c hc]
        rfl
    rw [List.map_congr_left hkept, List.map_id']
  have hencoded : segs.map (Percent.encode Percent.inPath) = segs := by
    rw [List.map_congr_left fun s hs => (hsegs s hs).settled.encode_eq, List.map_id']
  unfold segments
  dsimp only
  rw [hslashes, pieces_join hne fun s hs => (hsegs s hs).not_mem_slash, hencoded]
  cases segs with
  | nil =>
      exact absurd rfl hne
  | cons s rest =>
      have hs := hsegs s List.mem_cons_self
      unfold resolve
      rw [hs.double, hs.single]
      exact resolve_of_isSegment (Or.inl (List.cons_ne_nil _ _))
        fun t ht => hsegs t (List.mem_cons_of_mem _ ht)

theorem rooted_text {segs : List (List Char)} (hne : segs ≠ []) :
    (Path.rooted segs).text = '/' :: join '/' segs := by
  induction segs with
  | nil =>
      exact absurd rfl hne
  | cons s rest ih =>
      cases rest with
      | nil =>
          simp [Path.text, join]
      | cons next more =>
          have hrest := ih (List.cons_ne_nil _ _)
          show '/' :: s ++ (Path.rooted (next :: more)).text = _
          rw [hrest]
          rfl

theorem head?_rooted_text {segs : List (List Char)} :
    ∀ c ∈ (Path.rooted segs).text.head?, c = '/' := by
  cases segs with
  | nil =>
      exact fun c hc => nomatch hc
  | cons s rest =>
      intro c hc
      exact (Option.some.inj hc).symm

theorem of_mem_rooted_text {segs : List (List Char)} {c : Char}
    (h : c ∈ (Path.rooted segs).text) : c = '/' ∨ ∃ s ∈ segs, c ∈ s := by
  rcases List.mem_flatMap.mp h with ⟨s, hs, hc⟩
  rcases List.mem_cons.mp hc with hslash | hc
  · exact Or.inl hslash
  · exact Or.inr ⟨s, hs, hc⟩

theorem pathAfterHost_text {segs : List (List Char)} (hroot : kind.isSpecial = true → segs ≠ [])
    (hsegs : ∀ s ∈ segs, IsSegment kind s) :
    pathAfterHost kind (Path.rooted segs).text = .rooted (driveFront kind segs) := by
  cases segs with
  | nil =>
      cases hspecial : kind.isSpecial with
      | false =>
          show Path.rooted (if kind.isSpecial then [[]] else []) = _
          rw [hspecial]
          rfl
      | true =>
          exact absurd rfl (hroot hspecial)
  | cons s rest =>
      have hne : s :: rest ≠ [] := List.cons_ne_nil _ _
      rw [rooted_text hne]
      exact congrArg Path.rooted (segments_join hne hsegs)

/-- The path behind an authority is made of segments, at least one where the scheme is special. -/
theorem pathAfterHost_eq (kind : Kind) (cs : List Char) : ∃ segs,
    pathAfterHost kind cs = .rooted segs ∧ (kind.isSpecial = true → segs ≠ []) ∧
      ∀ s ∈ segs, IsSegment kind s := by
  unfold pathAfterHost
  split
  · cases hspecial : kind.isSpecial with
    | false =>
        exact ⟨[], rfl, fun h => absurd h Bool.false_ne_true,
          fun _ hs => absurd hs List.not_mem_nil⟩
    | true =>
        refine ⟨[[]], rfl, fun _ => List.cons_ne_nil _ _, ?_⟩
        intro s hs
        rw [List.mem_singleton.mp hs]
        exact .nil kind
  · exact ⟨_, rfl, fun _ => segments_ne_nil _, isSegment_of_mem_segments _⟩

end Paths

/-! ## Files -/

section Files

theorem withoutEmptyFront_subset (segs : List (List Char)) : withoutEmptyFront segs ⊆ segs := by
  fun_induction withoutEmptyFront segs with
  | case1 next rest ih =>
      exact List.subset_cons_of_subset _ ih
  | case2 segs _ =>
      exact List.Subset.refl _

theorem withoutEmptyFront_ne_nil {segs : List (List Char)} (h : segs ≠ []) :
    withoutEmptyFront segs ≠ [] := by
  fun_induction withoutEmptyFront segs with
  | case1 next rest ih =>
      exact ih (List.cons_ne_nil _ _)
  | case2 segs _ =>
      exact h

theorem withoutEmptyFront_idem (segs : List (List Char)) :
    withoutEmptyFront (withoutEmptyFront segs) = withoutEmptyFront segs := by
  fun_induction withoutEmptyFront segs with
  | case1 next rest ih =>
      exact ih
  | case2 segs hfront =>
      exact withoutEmptyFront.eq_2 segs hfront

theorem withoutEmptyFront_cons {s : List Char} (h : s ≠ []) (rest : List (List Char)) :
    withoutEmptyFront (s :: rest) = s :: rest :=
  withoutEmptyFront.eq_2 _ fun _ _ heq => h (List.cons.inj heq).1

theorem withoutEmptyFront_driveFront {segs : List (List Char)}
    (h : withoutEmptyFront segs = segs) :
    withoutEmptyFront (driveFront .file segs) = driveFront .file segs := by
  cases segs with
  | nil =>
      rfl
  | cons s rest =>
      cases hdrive : isDrive s with
      | false =>
          show withoutEmptyFront (driveForm .file [] s :: rest) = driveForm .file [] s :: rest
          rw [driveForm_of_not_drive [] hdrive]
          exact h
      | true =>
          rcases isDrive_iff.mp hdrive with ⟨letter, mark, rfl, _⟩
          show withoutEmptyFront (driveForm .file [] [letter, mark] :: rest) =
            driveForm .file [] [letter, mark] :: rest
          rw [driveForm_file hdrive]
          exact withoutEmptyFront_cons (List.cons_ne_nil _ _) rest

end Files

end Url
end SiteGuard
