import SiteGuard.Proofs.Text.Pieces
import SiteGuard.Proofs.Url.Percent
import SiteGuard.Url.Query

/-!
# Query pairs, back and forth

Pairs are read back from the query that they are written in, whatever their texts
hold.  The marks between them are escaped inside of them, and so is the plus sign
that stands for a space.
-/

namespace SiteGuard
namespace Url
namespace Query

open Text

/-! ## Characters -/

def IsPartChar (c : Char) : Prop :=
  (c.toNat < 128 ∧ Percent.inSpecialQuery c = false) ∧ c ≠ '&' ∧ c ≠ '='

instance (c : Char) : Decidable (IsPartChar c) :=
  inferInstanceAs (Decidable (_ ∧ _))

theorem isPartChar_writeByte (b : UInt8) : ∀ c ∈ writeByte b, IsPartChar c := by
  intro c hc
  unfold writeByte at hc
  split at hc
  · rename_i hplain
    have hall : ∀ n : Fin 256, isPlainByte (UInt8.ofNat n.val) = true →
        IsPartChar (Char.ofNat n.val) := by
      decide +kernel
    have hb := hall ⟨b.toNat, b.toNat_lt⟩
    rw [UInt8.ofNat_toNat] at hb
    rw [List.mem_singleton.mp hc]
    exact hb hplain
  · split at hc
    · rw [List.mem_singleton.mp hc]
      decide
    · have hdigit : ∀ n < 16, IsPartChar (Percent.digit n) := by
        decide
      rcases Percent.of_mem_escape hc with rfl | ⟨n, hn, rfl⟩
      · decide
      · exact hdigit n hn

theorem isPartChar_writePart (s : String) : ∀ c ∈ writePart s, IsPartChar c := by
  intro c hc
  rcases List.mem_flatMap.mp hc with ⟨b, _, hc⟩
  exact isPartChar_writeByte b c hc

theorem not_mem_writePair (pair : String × String) : '&' ∉ writePair pair := by
  intro hmem
  rcases List.mem_append.mp hmem with hmem | hmem
  · exact (isPartChar_writePart _ _ hmem).2.1 rfl
  · rcases List.mem_cons.mp hmem with hmark | hmem
    · cases hmark
    · exact (isPartChar_writePart _ _ hmem).2.1 rfl

theorem settled_write (pairs : List (String × String)) :
    Percent.Settled Percent.inSpecialQuery (write pairs) := by
  intro c hc
  rcases of_mem_join hc with rfl | ⟨part, hpart, hc⟩
  · decide
  · rcases List.mem_map.mp hpart with ⟨pair, _, rfl⟩
    rcases List.mem_append.mp hc with hc | hc
    · exact (isPartChar_writePart _ c hc).1
    · rcases List.mem_cons.mp hc with rfl | hc
      · decide
      · exact (isPartChar_writePart _ c hc).1

/-! ## Names and values -/

def spaced (cs : List Char) : List Char :=
  cs.map fun c => if c = '+' then ' ' else c

theorem spaced_escape (b : UInt8) : spaced (Percent.escape b) = Percent.escape b := by
  have hdigit : ∀ n < 16, Percent.digit n ≠ '+' := by
    decide
  have hplus : ∀ c ∈ Percent.escape b, (if c = '+' then ' ' else c) = c := by
    intro c hc
    apply if_neg
    rintro rfl
    rcases Percent.of_mem_escape hc with hmark | ⟨n, hn, heq⟩
    · cases hmark
    · exact hdigit n hn heq.symm
  unfold spaced
  rw [List.map_congr_left hplus, List.map_id']

theorem decode_writeByte (b : UInt8) (rest : List Char) :
    Percent.decode (spaced (writeByte b) ++ rest) = b :: Percent.decode rest := by
  unfold writeByte
  split
  · rename_i hplain
    have hall : ∀ n : Fin 256, isPlainByte (UInt8.ofNat n.val) = true →
        spaced [Char.ofNat n.val] = [Char.ofNat n.val] ∧ Char.ofNat n.val ≠ '%' ∧
          Utf8.encode [Char.ofNat n.val] = [UInt8.ofNat n.val] := by
      decide +kernel
    have hb := hall ⟨b.toNat, b.toNat_lt⟩
    rw [UInt8.ofNat_toNat] at hb
    rcases hb hplain with ⟨hspaced, hmark, hbytes⟩
    rw [hspaced, List.singleton_append, Percent.decode_cons_of_ne hmark, hbytes]
    rfl
  · split
    · rename_i hspace
      have hb : b = 32 := UInt8.toNat_inj.mp hspace
      rw [hb]
      exact Percent.decode_cons_of_ne (by decide) rest
    · rw [spaced_escape]
      exact Percent.decode_escape b rest

theorem decode_writeBytes (bs : List UInt8) :
    Percent.decode (spaced (bs.flatMap writeByte)) = bs := by
  induction bs with
  | nil =>
      rfl
  | cons b bs ih =>
      have hsplit : spaced ((b :: bs).flatMap writeByte) =
          spaced (writeByte b) ++ spaced (bs.flatMap writeByte) := by
        rw [List.flatMap_cons]
        exact List.map_append
      rw [hsplit, decode_writeByte, ih]

theorem readPart_writePart (s : String) : readPart (writePart s) = s := by
  have hbytes : Percent.decode (spaced (writePart s)) = Utf8.encode s.toList :=
    decode_writeBytes _
  show String.ofList (Utf8.decodeLossy (Percent.decode (spaced (writePart s)))) = s
  rw [hbytes, Utf8.decodeLossy_encode, String.ofList_toList]

/-! ## Pairs -/

theorem readPair_writePair (pair : String × String) : readPair (writePair pair) = pair := by
  have hname : '=' ∉ writePart pair.1 :=
    fun hmem => (isPartChar_writePart _ _ hmem).2.2 rfl
  unfold readPair writePair
  rw [cut_append hname]
  dsimp only
  rw [readPart_writePart, readPart_writePart]

theorem read_write (pairs : List (String × String)) : read (write pairs) = pairs := by
  cases pairs with
  | nil =>
      rfl
  | cons first more =>
      have hwritten : ∀ part ∈ (first :: more).map writePair, '&' ∉ part ∧ part ≠ [] := by
        intro part hpart
        rcases List.mem_map.mp hpart with ⟨pair, _, rfl⟩
        exact ⟨not_mem_writePair pair, by simp [writePair]⟩
      have hparts : pieces '&' (write (first :: more)) = (first :: more).map writePair :=
        pieces_join (List.cons_ne_nil _ _) fun part hpart => (hwritten part hpart).1
      have hkept : ((first :: more).map writePair).filter (fun part => !part.isEmpty) =
          (first :: more).map writePair := by
        rw [List.filter_eq_self]
        intro part hpart
        simpa using (hwritten part hpart).2
      have hread : readPair ∘ writePair = id := funext readPair_writePair
      unfold read
      rw [hparts, hkept, List.map_map, hread, List.map_id]

end Query
end Url
end SiteGuard
