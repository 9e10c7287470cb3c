import SiteGuard.Proofs.Text.Utf8
import SiteGuard.Url.Percent

/-!
# Percent encoding, back and forth

Where the percent sign is reserved, what was encoded is decoded to the bytes of the
text.  An encoded text has no reserved character in it but the marks of its escapes.
-/

namespace SiteGuard
namespace Url
namespace Percent

open Text

variable {reserved : Char → Bool}

/-! ## Escapes -/

theorem digitValue?_digit : ∀ n < 16, digitValue? (digit n) = some n := by
  decide

theorem decode_escape (b : UInt8) (rest : List Char) :
    decode (escape b ++ rest) = b :: decode rest := by
  have hbyte : b.toNat < 256 := b.toNat_lt
  have hhigh : digitValue? (digit (b.toNat / 16)) = some (b.toNat / 16) :=
    digitValue?_digit _ (by omega)
  have hlow : digitValue? (digit (b.toNat % 16)) = some (b.toNat % 16) :=
    digitValue?_digit _ (by omega)
  show decode ('%' :: digit (b.toNat / 16) :: digit (b.toNat % 16) :: rest) = _
  rw [decode, hhigh, hlow]
  dsimp only
  rw [Nat.div_add_mod' b.toNat 16, UInt8.ofNat_toNat]

theorem decode_escapes (bs : List UInt8) (rest : List Char) :
    decode (bs.flatMap escape ++ rest) = bs ++ decode rest := by
  induction bs with
  | nil =>
      rfl
  | cons b bs ih =>
      rw [List.flatMap_cons, List.append_assoc, decode_escape, ih, List.cons_append]

/-! ## Texts -/

theorem decode_cons_of_ne {c : Char} (hc : c ≠ '%') (rest : List Char) :
    decode (c :: rest) = Utf8.encode [c] ++ decode rest := by
  apply decode.eq_3
  rintro a b more rfl
  exact absurd rfl hc

theorem decode_encodeChar (hmark : reserved '%' = true) (c : Char) (rest : List Char) :
    decode (encodeChar reserved c ++ rest) = Utf8.encode [c] ++ decode rest := by
  unfold encodeChar
  split
  · rename_i hplain
    have hc : c ≠ '%' := by
      rintro rfl
      rw [hmark] at hplain
      cases hplain
    exact decode_cons_of_ne hc rest
  · exact decode_escapes _ rest

theorem decode_encode (hmark : reserved '%' = true) (cs : List Char) :
    decode (encode reserved cs) = Utf8.encode cs := by
  induction cs with
  | nil =>
      rfl
  | cons c rest ih =>
      unfold encode at ih ⊢
      rw [List.flatMap_cons, decode_encodeChar hmark, ih, ← Utf8.encode_cons]

theorem decode_of_not_mem {cs : List Char} (h : '%' ∉ cs) : decode cs = Utf8.encode cs := by
  induction cs with
  | nil =>
      rfl
  | cons c rest ih =>
      have hc : c ≠ '%' := fun hc => h (hc ▸ List.mem_cons_self)
      have hrest := ih fun hmem => h (List.mem_cons_of_mem _ hmem)
      rw [decode_cons_of_ne hc, hrest, ← Utf8.encode_cons]

theorem decode?_encode (hmark : reserved '%' = true) (cs : List Char) :
    Utf8.decode? (decode (encode reserved cs)) = some cs := by
  rw [decode_encode hmark]
  exact Utf8.decode?_encode cs

theorem encode_ne_nil (hmark : reserved '%' = true) {cs : List Char} (h : cs ≠ []) :
    encode reserved cs ≠ [] := by
  intro hempty
  have hread := decode?_encode hmark cs
  rw [hempty] at hread
  exact h (Option.some.inj hread).symm

/-! ## Characters -/

theorem of_mem_escape {b : UInt8} {c : Char} (h : c ∈ escape b) :
    c = '%' ∨ ∃ n < 16, c = digit n := by
  have hbyte : b.toNat < 256 := b.toNat_lt
  unfold escape at h
  rcases List.mem_cons.mp h with hmark | h
  · exact Or.inl hmark
  · rcases List.mem_cons.mp h with hhigh | h
    · exact Or.inr ⟨_, by omega, hhigh⟩
    · exact Or.inr ⟨_, by omega, List.mem_singleton.mp h⟩

theorem of_mem_encode {cs : List Char} {c : Char} (h : c ∈ encode reserved cs) :
    (c ∈ cs ∧ c.toNat < 128 ∧ reserved c = false) ∨ c = '%' ∨ ∃ n < 16, c = digit n := by
  rcases List.mem_flatMap.mp h with ⟨d, hd, hc⟩
  unfold encodeChar at hc
  split at hc
  · rename_i hkept
    obtain rfl := List.mem_singleton.mp hc
    exact Or.inl ⟨hd, by simpa using hkept⟩
  · rcases List.mem_flatMap.mp hc with ⟨b, _, hb⟩
    exact Or.inr (of_mem_escape hb)

theorem not_mem_encode {mark : Char} (hreserved : reserved mark = true) (hmark : mark ≠ '%')
    (hdigit : ∀ n < 16, digit n ≠ mark) (cs : List Char) : mark ∉ encode reserved cs := by
  intro h
  rcases of_mem_encode h with ⟨_, _, hkept⟩ | heq | ⟨n, hn, heq⟩
  · rw [hreserved] at hkept
    cases hkept
  · exact hmark heq
  · exact hdigit n hn heq.symm

/-! ## Settled texts -/

/-- A text of ASCII without reserved characters, which encoding leaves alone. -/
def Settled (reserved : Char → Bool) (cs : List Char) : Prop :=
  ∀ c ∈ cs, c.toNat < 128 ∧ reserved c = false

theorem Settled.nil : Settled reserved [] := by
  intro c hc
  cases hc

theorem Settled.encode_eq {cs : List Char} (h : Settled reserved cs) :
    encode reserved cs = cs := by
  induction cs with
  | nil =>
      rfl
  | cons c rest ih =>
      rcases h c List.mem_cons_self with ⟨hascii, hkept⟩
      have hc : encodeChar reserved c = [c] := by
        unfold encodeChar
        rw [hkept]
        exact if_pos (by simpa using hascii)
      have hrest := ih fun d hd => h d (List.mem_cons_of_mem _ hd)
      unfold encode at hrest ⊢
      rw [List.flatMap_cons, hc, hrest]
      rfl

theorem Settled.not_mem {cs : List Char} {mark : Char} (h : Settled reserved cs)
    (hmark : reserved mark = true) : mark ∉ cs := by
  intro hmem
  rw [(h mark hmem).2] at hmark
  cases hmark

/-- What holds of every character that is not reserved holds all over a settled text. -/
theorem Settled.chars {P : Char → Prop} {cs : List Char}
    (hall : ∀ n : Fin 128, reserved (Char.ofNat n.val) = false → P (Char.ofNat n.val))
    (h : Settled reserved cs) : ∀ c ∈ cs, P c := by
  intro c hc
  rcases h c hc with ⟨hascii, hkept⟩
  have hc := hall ⟨c.toNat, hascii⟩
  rw [Char.ofNat_toNat] at hc
  exact hc hkept

theorem settled_encode (hmark : reserved '%' = false)
    (hdigit : ∀ n < 16, reserved (digit n) = false) (cs : List Char) :
    Settled reserved (encode reserved cs) := by
  have hascii : ∀ n < 16, (digit n).toNat < 128 := by
    decide
  intro c hc
  rcases of_mem_encode hc with ⟨_, hkept⟩ | rfl | ⟨n, hn, rfl⟩
  · exact hkept
  · exact ⟨by decide, hmark⟩
  · exact ⟨hascii n hn, hdigit n hn⟩

end Percent
end Url
end SiteGuard
