import SiteGuard.Digest.Base64

/-!
# Reading Base64

What is written of some bytes is read as these bytes.  The text is as long as the
number of bytes says, and all of it stands for itself wherever text is quoted.
-/

namespace SiteGuard
namespace Digest
namespace Base64

/-! ## Digits -/

theorem value?_digit : ∀ n < 64, value? (digit n) = some n := by
  decide

theorem digit_ne_pad : ∀ n < 64, digit n ≠ '=' := by
  decide

/-! ## Groups -/

theorem decodeLast_one (a : UInt8) :
    decodeLast (digit (a.toNat * 16 / 64)) (digit (a.toNat * 16 % 64)) '=' '=' = some [a] := by
  have hless : a.toNat < 256 := a.toNat_lt
  unfold decodeLast
  rw [value?_digit _ (by omega), value?_digit _ (by omega)]
  have hpadding : a.toNat * 16 % 64 % 16 = 0 := by
    omega
  have hbyte : a.toNat * 16 / 64 * 4 + a.toNat * 16 % 64 / 16 = a.toNat := by
    omega
  simp only [Option.bind_eq_bind, Option.bind_some, if_true, hpadding, hbyte, UInt8.ofNat_toNat]

theorem decodeLast_two (a b : UInt8) {n : Nat} (hn : n = (a.toNat * 256 + b.toNat) * 4) :
    decodeLast (digit (n / 4096)) (digit (n / 64 % 64)) (digit (n % 64)) '=' = some [a, b] := by
  have hfirst : a.toNat < 256 := a.toNat_lt
  have hsecond : b.toNat < 256 := b.toNat_lt
  have hlast : n % 64 < 64 := Nat.mod_lt _ (by decide)
  unfold decodeLast
  rw [value?_digit _ (by omega), value?_digit _ (by omega), value?_digit _ hlast]
  have hpadding : n % 64 % 4 = 0 := by
    omega
  have ha : n / 4096 * 4 + n / 64 % 64 / 16 = a.toNat := by
    omega
  have hb : n / 64 % 64 % 16 * 16 + n % 64 / 4 = b.toNat := by
    omega
  simp only [Option.bind_eq_bind, Option.bind_some, if_true, digit_ne_pad _ hlast, if_false,
    hpadding, ha, hb, UInt8.ofNat_toNat]

theorem decode?_group (a b c : UInt8) {n : Nat}
    (hn : n = (a.toNat * 256 + b.toNat) * 256 + c.toNat) (rest : List Char) :
    decode? (digit (n / 262144) :: digit (n / 4096 % 64) :: digit (n / 64 % 64) ::
        digit (n % 64) :: rest) = (decode? rest).map fun more => a :: b :: c :: more := by
  have hfirst : a.toNat < 256 := a.toNat_lt
  have hsecond : b.toNat < 256 := b.toNat_lt
  have hthird : c.toNat < 256 := c.toNat_lt
  have hx := value?_digit (n / 262144) (by omega)
  have hy := value?_digit (n / 4096 % 64) (by omega)
  have hz := value?_digit (n / 64 % 64) (by omega)
  have hlast : n % 64 < 64 := Nat.mod_lt _ (by decide)
  have ha : n / 262144 * 4 + n / 4096 % 64 / 16 = a.toNat := by
    omega
  have hb : n / 4096 % 64 % 16 * 16 + n / 64 % 64 / 4 = b.toNat := by
    omega
  have hc : n / 64 % 64 % 4 * 64 + n % 64 = c.toNat := by
    omega
  cases rest with
  | nil =>
      simp only [decode?, decodeLast, hx, hy, hz, value?_digit _ hlast, digit_ne_pad _ hlast,
        Option.bind_eq_bind, Option.bind_some, if_false, ha, hb, hc, UInt8.ofNat_toNat,
        Option.map_some]
  | cons d more =>
      cases hmore : decode? (d :: more) with
      | none =>
          simp only [decode?, hx, hy, hz, value?_digit _ hlast, hmore, Option.bind_eq_bind,
            Option.bind_some, Option.bind_none, Option.map_none]
      | some bytes =>
          simp only [decode?, hx, hy, hz, value?_digit _ hlast, hmore, Option.bind_eq_bind,
            Option.bind_some, ha, hb, hc, UInt8.ofNat_toNat, Option.map_some]

/-! ## Whole texts -/

theorem decode?_encode (bytes : List UInt8) : decode? (encode bytes) = some bytes := by
  induction bytes using encode.induct with
  | case1 =>
      rfl
  | case2 a =>
      exact decodeLast_one a
  | case3 a b =>
      exact decodeLast_two a b rfl
  | case4 a b c rest ih =>
      show decode? (digit _ :: digit _ :: digit _ :: digit _ :: encode rest) = _
      rw [decode?_group a b c rfl, ih]
      rfl

theorem length_encode (bytes : List UInt8) :
    (encode bytes).length = (bytes.length + 2) / 3 * 4 := by
  induction bytes using encode.induct with
  | case1 =>
      rfl
  | case2 a =>
      simp [encode]
  | case3 a b =>
      simp [encode]
  | case4 a b c rest ih =>
      show (encode rest).length + 1 + 1 + 1 + 1 = _
      simp only [ih, List.length_cons]
      omega

theorem of_mem_encode {bytes : List UInt8} {x : Char} (h : x ∈ encode bytes) :
    x = '=' ∨ ∃ n < 64, x = digit n := by
  induction bytes using encode.induct with
  | case1 =>
      cases h
  | case2 a =>
      have hless : a.toNat < 256 := a.toNat_lt
      simp only [encode, List.mem_cons, List.not_mem_nil, or_false] at h
      rcases h with rfl | rfl | rfl | rfl
      · exact Or.inr ⟨_, by omega, rfl⟩
      · exact Or.inr ⟨_, by omega, rfl⟩
      · exact Or.inl rfl
      · exact Or.inl rfl
  | case3 a b =>
      have hfirst : a.toNat < 256 := a.toNat_lt
      have hsecond : b.toNat < 256 := b.toNat_lt
      simp only [encode, List.mem_cons, List.not_mem_nil, or_false] at h
      rcases h with rfl | rfl | rfl | rfl
      · exact Or.inr ⟨_, by omega, rfl⟩
      · exact Or.inr ⟨_, by omega, rfl⟩
      · exact Or.inr ⟨_, by omega, rfl⟩
      · exact Or.inl rfl
  | case4 a b c rest ih =>
      have hfirst : a.toNat < 256 := a.toNat_lt
      have hsecond : b.toNat < 256 := b.toNat_lt
      have hthird : c.toNat < 256 := c.toNat_lt
      simp only [encode, List.mem_cons] at h
      rcases h with rfl | rfl | rfl | rfl | hrest
      · exact Or.inr ⟨_, by omega, rfl⟩
      · exact Or.inr ⟨_, by omega, rfl⟩
      · exact Or.inr ⟨_, by omega, rfl⟩
      · exact Or.inr ⟨_, by omega, rfl⟩
      · exact ih hrest

end Base64
end Digest
end SiteGuard
