import SiteGuard.Proofs.Text.Pieces
import SiteGuard.Proofs.Unicode.Runs
import SiteGuard.Url.Host

/-!
# Domains in ASCII form

The ASCII form of a domain is made of plain characters, which the mapping leaves
alone.  So such a form is accepted again, and so is what is left of it without
the dot at its end.
-/

namespace SiteGuard
namespace Url
namespace Domain

open Text Unicode

/-! ## Plain characters -/

theorem isPlain_iff {c : Char} :
    isPlain c = true ↔ c.toNat < 128 ∧ isForbidden c = false ∧ c.toLower = c := by
  simp [isPlain, and_assoc]

theorem not_upper_of_plain {c : Char} (h : isPlain c = true) :
    c.toNat ≤ 64 ∨ 91 ≤ c.toNat := by
  rcases isPlain_iff.mp h with ⟨hascii, _, hlower⟩
  have hall : ∀ n : Fin 128, (Char.ofNat n.val).toLower = Char.ofNat n.val →
      n.val ≤ 64 ∨ 91 ≤ n.val := by decide
  exact hall ⟨c.toNat, hascii⟩ (by rw [Char.ofNat_toNat]; exact hlower)

/-- The table begins with the characters before the capitals, those, and the rest of ASCII. -/
theorem hostMapping_words : ∃ back, hostMappingLines.flatMap wordsOf =
    ["V1t".toList, "Uq.w".toList] ++ "V11".toList :: back := by
  have hlines : ∃ line rest back, hostMappingLines = line :: rest ∧
      wordsOf line = ["V1t".toList, "Uq.w".toList] ++ "V11".toList :: back :=
    ⟨_, _, _, rfl, rfl⟩
  rcases hlines with ⟨line, rest, back, hlines, hline⟩
  refine ⟨back ++ rest.flatMap wordsOf, ?_⟩
  rw [hlines, List.flatMap_cons, hline]
  rfl

theorem hostMapping_low {n : Nat} (h : n ≤ 64) :
    hostMapping.find n = some ⟨0, 'V', [65]⟩ := by
  rcases hostMapping_words with ⟨back, hwords⟩
  have hword : Runs.ofWord (Runs.stop 0 []) "V1t".toList = (⟨0, 'V', [65]⟩, 65) := by
    rfl
  have hfind := @Runs.find_ofLines _ [] _ _ n hwords (Nat.zero_le _) (by
    rw [hword]
    exact Nat.lt_succ_of_le h)
  rw [hword] at hfind
  exact hfind

theorem hostMapping_high {n : Nat} (h : 91 ≤ n) (h' : n < 128) :
    hostMapping.find n = some ⟨91, 'V', [37]⟩ := by
  rcases hostMapping_words with ⟨back, hwords⟩
  have hstop : Runs.stop 0 ["V1t".toList, "Uq.w".toList] = 91 := by
    rfl
  have hword : Runs.ofWord 91 "V11".toList = (⟨91, 'V', [37]⟩, 128) := by
    rfl
  have hfind := Runs.find_ofLines (x := n) hwords (by rw [hstop]; exact h) (by
    rw [hstop, hword]
    exact h')
  rw [hstop, hword] at hfind
  exact hfind

theorem mapChar_plain {c : Char} (h : isPlain c = true) : mapChar c = some [c] := by
  show (hostMapping.find c.toNat).bind (mapInRun c) = some [c]
  rcases not_upper_of_plain h with hlow | hhigh
  · rw [hostMapping_low hlow]
    rfl
  · rw [hostMapping_high hhigh (isPlain_iff.mp h).1]
    rfl

theorem mapText_plain {cs : List Char} (h : ∀ c ∈ cs, isPlain c = true) :
    mapText cs = some cs := by
  have hmapped : cs.mapM mapChar = some (cs.map fun c => [c]) := by
    induction cs with
    | nil =>
        rfl
    | cons c rest ih =>
        rw [List.mapM_cons, mapChar_plain (h c List.mem_cons_self),
          ih fun d hd => h d (List.mem_cons_of_mem _ hd)]
        rfl
  have hnormal : Unicode.normalize cs = cs := by
    unfold Unicode.normalize
    apply if_pos
    rw [List.all_eq_true]
    intro c hc
    have hascii := (isPlain_iff.mp (h c hc)).1
    exact decide_eq_true (by omega)
  have hflat : (cs.map fun c => [c]).flatten = cs := by
    rw [← List.flatMap_def, List.flatMap_singleton']
  unfold mapText
  rw [hmapped]
  show some (Unicode.normalize (cs.map fun c => [c]).flatten) = some cs
  rw [hflat, hnormal]

/-! ## Classes of ASCII characters -/

theorem isMark_ascii {c : Char} (h : c.toNat < 128) : isMark c = false := by
  have hlines : ∃ line rest, markLines = line :: rest ∧ 128 ≤ Runs.stop 0 (wordsOf line) ∧
      ∀ run ∈ Runs.ofWords 0 (wordsOf line), run.start < 128 → run.kind ≠ 'M' :=
    ⟨_, _, rfl, by decide, by decide⟩
  rcases hlines with ⟨line, rest, hlines, hstop, hkinds⟩
  rcases Runs.exists_run_of_lt rest (Nat.lt_of_lt_of_le h hstop) with
    ⟨run, hrun, hbegin, hfind⟩
  show (markRuns.find c.toNat).any _ = false
  unfold markRuns
  rw [hlines, hfind]
  exact decide_eq_false (hkinds run hrun (Nat.lt_of_le_of_lt hbegin h))

theorem bidiClass_ascii {c : Char} (h : c.toNat < 128) :
    (isRightToLeft (bidiClass c) || bidiClass c == .arabicNumber) = false := by
  have hlines : ∃ line rest, bidiClassLines = line :: rest ∧
      128 ≤ Runs.stop 0 (wordsOf line) ∧ ∀ run ∈ Runs.ofWords 0 (wordsOf line),
        (isRightToLeft (BidiClass.ofKind run.kind) ||
          BidiClass.ofKind run.kind == .arabicNumber) = false :=
    ⟨_, _, rfl, by decide, by decide⟩
  rcases hlines with ⟨line, rest, hlines, hstop, hkinds⟩
  rcases Runs.exists_run_of_lt rest (Nat.lt_of_lt_of_le h hstop) with
    ⟨run, hrun, _, hfind⟩
  have hclass : bidiClass c = BidiClass.ofKind run.kind := by
    show (bidiClassRuns.find c.toNat).elim _ _ = _
    unfold bidiClassRuns
    rw [hlines, hfind]
    rfl
  rw [hclass]
  exact hkinds run hrun

/-! ## Labels -/

theorem ascii_of_of? {cs : List Char} {l : Label} (hascii : isAscii cs = true)
    (h : Label.of? cs = some l) : l.ascii = cs := by
  unfold Label.of? at h
  split at h
  · rw [if_pos hascii] at h
    split at h
    · cases h
      rfl
    · cases h
  · rcases Option.bind_eq_some_iff.mp h with ⟨text, _, h⟩
    dsimp only at h
    split at h
    · cases h
      rfl
    · cases h

/-- Whether labels of a domain break the rule on directions, where it binds them. -/
def directionsClash (labels : List Label) : Bool :=
  (labels.any fun l => l.text.any fun c =>
      isRightToLeft (bidiClass c) || bidiClass c == .arabicNumber) &&
    !(labels.all fun l => directionFits l.text)

theorem directionsClash_append_empty (labels : List Label) :
    directionsClash (labels ++ [⟨[], []⟩]) = directionsClash labels := by
  have hempty : directionFits [] = true := by
    rfl
  simp [directionsClash, hempty]

theorem labels?_plain {cs : List Char} (h : ∀ c ∈ cs, isPlain c = true) :
    labels? cs = ((pieces '.' cs).mapM Label.of?).filter fun labels => !directionsClash labels := by
  unfold labels?
  rw [mapText_plain h]
  show ((pieces '.' cs).mapM Label.of?).bind (fun labels =>
    if directionsClash labels then none else some labels) = _
  cases (pieces '.' cs).mapM Label.of? with
  | none =>
      rfl
  | some labels =>
      cases hclash : directionsClash labels with
      | true =>
          simp [Option.filter, hclash]
      | false =>
          simp [Option.filter, hclash]

theorem ascii_of_mapM {parts : List (List Char)} {labels : List Label}
    (hparts : ∀ part ∈ parts, isAscii part = true) (h : parts.mapM Label.of? = some labels) :
    labels.map (·.ascii) = parts := by
  induction parts generalizing labels with
  | nil =>
      cases h
      rfl
  | cons part rest ih =>
      rw [List.mapM_cons] at h
      rcases Option.bind_eq_some_iff.mp h with ⟨l, hl, h⟩
      rcases Option.bind_eq_some_iff.mp h with ⟨ls, hls, h⟩
      cases h
      rw [List.map_cons, ascii_of_of? (hparts part List.mem_cons_self) hl]
      exact congrArg _ (ih (fun p hp => hparts p (List.mem_cons_of_mem _ hp)) hls)

theorem convert?_plain {cs : List Char} {labels : List Label}
    (hplain : ∀ c ∈ cs, isPlain c = true) (h : labels? cs = some labels) :
    convert? cs = some cs := by
  have hread : (pieces '.' cs).mapM Label.of? = some labels := by
    rw [labels?_plain hplain] at h
    exact (Option.filter_eq_some_iff.mp h).1
  have hspelled : labels.map (·.ascii) = pieces '.' cs := by
    apply ascii_of_mapM _ hread
    intro piece hpiece
    rw [isAscii, List.all_eq_true]
    intro c hc
    exact decide_eq_true (isPlain_iff.mp (hplain c (mem_of_mem_pieces hpiece hc))).1
  unfold convert?
  rw [h, Option.map_some, hspelled, join_pieces]

theorem toAscii?_plain {cs : List Char} {labels : List Label}
    (hplain : ∀ c ∈ cs, isPlain c = true) (h : labels? cs = some labels) :
    toAscii? cs = some cs := by
  have hconverted := convert?_plain hplain h
  have hall : cs.all isPlain = true := List.all_eq_true.mpr hplain
  unfold toAscii?
  simp only [hconverted, hall, Option.bind_eq_bind, Option.bind_some, BEq.rfl, Bool.and_self,
    if_true]

theorem plain_of_toAscii? {cs name : List Char} (h : toAscii? cs = some name) :
    (∀ c ∈ name, isPlain c = true) ∧ ∃ labels, labels? name = some labels := by
  unfold toAscii? at h
  rcases Option.bind_eq_some_iff.mp h with ⟨ascii, _, h⟩
  simp only [Option.ite_none_right_eq_some, Bool.and_eq_true, beq_iff_eq,
    Option.some.injEq] at h
  rcases h with ⟨⟨hplain, hagain⟩, rfl⟩
  refine ⟨List.all_eq_true.mp hplain, ?_⟩
  rcases Option.map_eq_some_iff.mp hagain with ⟨labels, hlabels, _⟩
  exact ⟨labels, hlabels⟩

theorem labels?_of_final_dot {cs : List Char} {labels : List Label}
    (hplain : ∀ c ∈ cs ++ ['.'], isPlain c = true) (h : labels? (cs ++ ['.']) = some labels) :
    ∃ before, labels? cs = some before := by
  rw [labels?_plain hplain, pieces_append_sep, List.mapM_append] at h
  rcases Option.filter_eq_some_iff.mp h with ⟨hread, hfit⟩
  rcases Option.bind_eq_some_iff.mp hread with ⟨before, hbefore, hread⟩
  have hlabels : before ++ [⟨[], []⟩] = labels := Option.some.inj hread
  rw [← hlabels] at hfit
  refine ⟨before, ?_⟩
  rw [labels?_plain fun c hc => hplain c (List.mem_append_left _ hc), hbefore]
  rw [directionsClash_append_empty] at hfit
  exact Option.filter_eq_some_iff.mpr ⟨rfl, hfit⟩

/-! ## Labels that are not coded -/

theorem joinersFit_ascii {before cs : List Char} (h : ∀ c ∈ cs, c.toNat < 128) :
    joinersFit before cs = true := by
  induction cs generalizing before with
  | nil =>
      rfl
  | cons c rest ih =>
      have hc : c.toNat < 128 := h c List.mem_cons_self
      have hjoiner : c ≠ '\u200D' := by
        rintro rfl
        exact absurd hc (by decide)
      have hnonjoiner : c ≠ '\u200C' := by
        rintro rfl
        exact absurd hc (by decide)
      have hrest : joinersFit (c :: before) rest = true :=
        ih fun d hd => h d (List.mem_cons_of_mem _ hd)
      simp only [joinersFit, if_neg hjoiner, if_neg hnonjoiner, hrest, Bool.and_self]

theorem isValid_plain {cs : List Char} (h : ∀ c ∈ cs, isPlain c = true) : isValid cs = true := by
  have hascii : ∀ c ∈ cs, c.toNat < 128 := fun c hc => (isPlain_iff.mp (h c hc)).1
  have hallowed : cs.any isForbidden = false := by
    rw [List.any_eq_false]
    intro c hc
    rw [(isPlain_iff.mp (h c hc)).2.1]
    exact Bool.false_ne_true
  unfold isValid
  rw [joinersFit_ascii hascii, hallowed]
  cases cs with
  | nil =>
      rfl
  | cons c rest =>
      simp [isMark_ascii (hascii c List.mem_cons_self)]

theorem of?_uncoded {cs : List Char} (h : ∀ c ∈ cs, isPlain c = true)
    (hcoded : stripStart aceStart cs = none) : Label.of? cs = some ⟨cs, cs⟩ := by
  have hascii : isAscii cs = true := by
    rw [isAscii, List.all_eq_true]
    intro c hc
    exact decide_eq_true (isPlain_iff.mp (h c hc)).1
  unfold Label.of?
  rw [hcoded]
  dsimp only
  rw [if_pos (isValid_plain h), if_pos hascii]

theorem directionsClash_ascii {labels : List Label}
    (h : ∀ l ∈ labels, ∀ c ∈ l.text, c.toNat < 128) : directionsClash labels = false := by
  unfold directionsClash
  rw [Bool.and_eq_false_iff]
  refine Or.inl (List.any_eq_false.mpr ?_)
  intro l hl hmixed
  rcases List.any_eq_true.mp hmixed with ⟨c, hc, hclass⟩
  rw [bidiClass_ascii (h l hl c hc)] at hclass
  cases hclass

/-- A plain domain is accepted, whatever its labels are, unless one of them may be coded. -/
theorem labels?_uncoded {cs : List Char} (hplain : ∀ c ∈ cs, isPlain c = true)
    (hcoded : ∀ piece ∈ pieces '.' cs, stripStart aceStart piece = none) :
    ∃ labels, labels? cs = some labels := by
  have hpieces : ∀ piece ∈ pieces '.' cs, ∀ c ∈ piece, isPlain c = true :=
    fun piece hpiece c hc => hplain c (mem_of_mem_pieces hpiece hc)
  have hread : (pieces '.' cs).mapM Label.of? =
      some ((pieces '.' cs).map fun piece => ⟨piece, piece⟩) := by
    generalize pieces '.' cs = parts at hcoded hpieces
    induction parts with
    | nil =>
        rfl
    | cons part rest ih =>
        rw [List.mapM_cons, of?_uncoded (hpieces part List.mem_cons_self)
          (hcoded part List.mem_cons_self),
          ih (fun p hp => hcoded p (List.mem_cons_of_mem _ hp))
            fun p hp => hpieces p (List.mem_cons_of_mem _ hp)]
        rfl
  refine ⟨(pieces '.' cs).map fun piece => ⟨piece, piece⟩, ?_⟩
  rw [labels?_plain hplain, hread]
  refine Option.filter_eq_some_iff.mpr ⟨rfl, ?_⟩
  rw [directionsClash_ascii]
  · rfl
  · intro l hl c hc
    rcases List.mem_map.mp hl with ⟨piece, hpiece, rfl⟩
    exact (isPlain_iff.mp (hpieces piece hpiece c hc)).1

end Domain
end Url
end SiteGuard
