import Mathlib.Data.Nat.Basic
import SiteGuard.Text.Utf8

/-!
# Text in bytes

What is read from the bytes of a text is the text.  The bytes of one character are
one to four, and what its first byte announces lets the others pass.
-/

namespace SiteGuard
namespace Text
namespace Utf8

/-! ## Lead bytes -/

theorem toNat_byte {n : Nat} (h : n < 256) : (UInt8.ofNat n).toNat = n :=
  UInt8.toNat_ofNat_of_lt' h

theorem lead?_of_one {n : Nat} (h : n < 0x80) : lead? n = some ⟨0, 0x80, 0xBF, n⟩ :=
  if_pos h

theorem lead?_of_two {n : Nat} (hleast : 2 ≤ n) (h : n < 0x20) :
    lead? (n + 0xC0) = some ⟨1, 0x80, 0xBF, n⟩ := by
  unfold lead?
  rw [if_neg (by omega), if_pos (by omega), Nat.add_sub_cancel]

theorem lead?_of_three {n : Nat} (h : n < 0x10) :
    lead? (n + 0xE0) =
      some ⟨2, if n = 0 then 0xA0 else 0x80, if n = 0xD then 0x9F else 0xBF, n⟩ := by
  by_cases hfirst : n = 0
  · subst hfirst
    rfl
  · by_cases hsurrogate : n = 0xD
    · subst hsurrogate
      rfl
    · unfold lead?
      rw [if_neg hfirst, if_neg hsurrogate, if_neg (by omega), if_neg (by omega),
        if_neg (by omega), if_neg (by omega), if_pos (by omega), Nat.add_sub_cancel]

theorem lead?_of_four {n : Nat} (h : n ≤ 4) :
    lead? (n + 0xF0) =
      some ⟨3, if n = 0 then 0x90 else 0x80, if n = 4 then 0x8F else 0xBF, n⟩ := by
  by_cases hfirst : n = 0
  · subst hfirst
    rfl
  · by_cases hlast : n = 4
    · subst hlast
      rfl
    · unfold lead?
      rw [if_neg hfirst, if_neg hlast, if_neg (by omega), if_neg (by omega), if_neg (by omega),
        if_neg (by omega), if_neg (by omega), if_neg (by omega), if_neg (by omega),
        if_pos (by omega), Nat.add_sub_cancel]

/-! ## One character -/

theorem continuation_tail {more low high value used n : Nat} (hn : n < 0x40)
    (hlow : low ≤ n + 0x80) (hhigh : n + 0x80 ≤ high) (rest : List UInt8) :
    continuation (more + 1) low high value used (UInt8.ofNat (n + 0x80) :: rest) =
      continuation more 0x80 0xBF (value * 0x40 + n) (used + 1) rest := by
  have hbyte : (UInt8.ofNat (n + 0x80)).toNat = n + 0x80 := toNat_byte (by omega)
  rw [continuation, hbyte, if_pos ⟨hlow, hhigh⟩, Nat.add_sub_cancel]

theorem next_of_lead {n : Nat} {l : Lead} (hn : n < 256) (h : lead? n = some l)
    (rest : List UInt8) :
    next (UInt8.ofNat n) rest = continuation l.more l.low l.high l.payload 1 rest := by
  unfold next
  rw [toNat_byte hn, h]

section Sizes

variable {n m k j : Nat} (rest : List UInt8)

theorem next_one (hn : n < 0x80) :
    next (UInt8.ofNat n) rest = (some (Char.ofNat n), 1) :=
  next_of_lead (by omega) (lead?_of_one hn) rest

theorem next_two (hleast : 2 ≤ n) (hn : n < 0x20) (hm : m < 0x40) :
    next (UInt8.ofNat (n + 0xC0)) (UInt8.ofNat (m + 0x80) :: rest) =
      (some (Char.ofNat (n * 0x40 + m)), 2) := by
  rw [next_of_lead (by omega) (lead?_of_two hleast hn)]
  dsimp only
  exact continuation_tail hm (by omega) (by omega) rest

theorem next_three (hn : n < 0x10) (hm : m < 0x40) (hk : k < 0x40) (hfirst : n = 0 → 0x20 ≤ m)
    (hsurrogate : n = 0xD → m < 0x20) :
    next (UInt8.ofNat (n + 0xE0)) (UInt8.ofNat (m + 0x80) :: UInt8.ofNat (k + 0x80) :: rest) =
      (some (Char.ofNat ((n * 0x40 + m) * 0x40 + k)), 3) := by
  have hlow : (if n = 0 then 0xA0 else 0x80) ≤ m + 0x80 := by
    split <;> omega
  have hhigh : m + 0x80 ≤ if n = 0xD then 0x9F else 0xBF := by
    split <;> omega
  rw [next_of_lead (by omega) (lead?_of_three hn)]
  dsimp only
  rw [continuation_tail hm hlow hhigh]
  exact continuation_tail hk (by omega) (by omega) rest

theorem next_four (hn : n ≤ 4) (hm : m < 0x40) (hk : k < 0x40) (hj : j < 0x40)
    (hfirst : n = 0 → 0x10 ≤ m) (hlast : n = 4 → m < 0x10) :
    next (UInt8.ofNat (n + 0xF0))
        (UInt8.ofNat (m + 0x80) :: UInt8.ofNat (k + 0x80) :: UInt8.ofNat (j + 0x80) :: rest) =
      (some (Char.ofNat (((n * 0x40 + m) * 0x40 + k) * 0x40 + j)), 4) := by
  have hlow : (if n = 0 then 0x90 else 0x80) ≤ m + 0x80 := by
    split <;> omega
  have hhigh : m + 0x80 ≤ if n = 4 then 0x8F else 0xBF := by
    split <;> omega
  rw [next_of_lead (by omega) (lead?_of_four hn)]
  dsimp only
  rw [continuation_tail hm hlow hhigh, continuation_tail hk (by omega) (by omega)]
  exact continuation_tail hj (by omega) (by omega) rest

end Sizes

theorem next_encodeChar (c : Char) (rest : List UInt8) :
    ∃ b bs, String.utf8EncodeChar c = b :: bs ∧ next b (bs ++ rest) = (some c, bs.length + 1) := by
  have hvalid : c.toNat < 0xD800 ∨ 0xDFFF < c.toNat ∧ c.toNat < 0x110000 := c.valid
  have hread : ∀ n (used : Nat), n = c.toNat → (some (Char.ofNat n), used) = (some c, used) := by
    rintro _ _ rfl
    rw [Char.ofNat_toNat]
  unfold String.utf8EncodeChar
  dsimp only
  rw [Char.toNat_val]
  generalize c.toNat = v at hvalid hread
  split
  · refine ⟨_, [], rfl, ?_⟩
    rw [List.nil_append, next_one rest (by omega)]
    exact hread _ _ rfl
  · split
    · refine ⟨_, [_], rfl, ?_⟩
      rw [List.singleton_append, next_two rest (by omega) (by omega) (by omega)]
      exact hread _ _ (by omega)
    · split
      · refine ⟨_, [_, _], rfl, ?_⟩
        rw [List.cons_append, List.singleton_append,
          next_three rest (by omega) (by omega) (by omega) (by omega) (by omega)]
        exact hread _ _ (by omega)
      · refine ⟨_, [_, _, _], rfl, ?_⟩
        rw [List.cons_append, List.cons_append, List.singleton_append,
          next_four rest (by omega) (by omega) (by omega) (by omega) (by omega) (by omega)]
        exact hread _ _ (by omega)

/-! ## Whole texts -/

theorem encode_cons (c : Char) (rest : List Char) :
    encode (c :: rest) = encode [c] ++ encode rest := by
  unfold encode
  rw [List.flatMap_cons, List.flatMap_singleton]

theorem decodeFrom_append (bs rest : List UInt8) :
    decodeFrom bs.length (bs ++ rest) = decodeFrom 0 rest := by
  induction bs with
  | nil =>
      rfl
  | cons b bs ih =>
      exact ih

theorem decodeFrom_encode (cs : List Char) : decodeFrom 0 (encode cs) = cs.map some := by
  induction cs with
  | nil =>
      rfl
  | cons c rest ih =>
      rcases next_encodeChar c (encode rest) with ⟨b, bs, hbytes, hnext⟩
      have hencode : encode (c :: rest) = b :: (bs ++ encode rest) := by
        rw [encode_cons]
        unfold encode
        rw [List.flatMap_singleton, hbytes, List.cons_append]
      rw [hencode, decodeFrom, hnext]
      dsimp only
      rw [Nat.add_sub_cancel, decodeFrom_append, ih, List.map_cons]

theorem decodeLossy_encode (cs : List Char) : decodeLossy (encode cs) = cs := by
  unfold decodeLossy
  rw [decodeFrom_encode, List.map_map]
  exact List.map_id cs

theorem decode?_encode (cs : List Char) : decode? (encode cs) = some cs := by
  have hall : ∀ cs : List Char, (cs.map some).mapM id = some cs := by
    intro cs
    induction cs with
    | nil =>
        rfl
    | cons c rest ih =>
        rw [List.map_cons, List.mapM_cons, ih]
        rfl
  unfold decode?
  rw [decodeFrom_encode]
  exact hall cs

end Utf8
end Text
end SiteGuard
