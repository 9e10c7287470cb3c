import SiteGuard.Proofs.Text.Digits
import SiteGuard.Proofs.Text.Pieces

/-!
# Numbers with blanks around them

The texts that a number is read from: any number of digits, of which the first ones may
be zeros, one plus sign in front of them at most, and any blanks around it all.
-/

namespace SiteGuard
namespace Text

variable {cs ds inner front rest : List Char} {c : Char} {n bound : Nat}

/-! ## Digits only -/

theorem isDecimalDigit_of_value {d : Nat} (h : digitValue? c = some d) (hd : d < 10) :
    isDecimalDigit c = true := by
  unfold digitValue? at h
  split at h
  · rename_i hdecimal
    simpa [isDecimalDigit] using hdecimal
  · split at h
    · have hvalue := Option.some.inj h
      omega
    · split at h
      · have hvalue := Option.some.inj h
        omega
      · cases h

/-- A run of digits without its last one is a run of digits, or there is only this one. -/
theorem natOfDigits?_concat_inv (h : natOfDigits? 10 (ds ++ [c]) = some n) :
    isDecimalDigit c = true ∧ (ds = [] ∨ ∃ m, natOfDigits? 10 ds = some m) := by
  cases ds with
  | nil =>
      refine ⟨?_, Or.inl rfl⟩
      cases hvalue : digitValue? c with
      | none =>
          simp [natOfDigits?, hvalue] at h
      | some d =>
          simp only [natOfDigits?, List.nil_append, List.foldl_cons, List.foldl_nil, hvalue] at h
          exact isDecimalDigit_of_value hvalue (Option.ite_none_right_eq_some.mp h).1
  | cons d ds =>
      simp only [natOfDigits?, List.cons_append] at h ⊢
      rw [← List.cons_append, List.foldl_append] at h
      simp only [List.foldl_cons, List.foldl_nil] at h
      split at h
      · rename_i m d' hfront hvalue
        refine ⟨?_, Or.inr ⟨m, hfront⟩⟩
        exact isDecimalDigit_of_value hvalue (Option.ite_none_right_eq_some.mp h).1
      · cases h

theorem spells_iff : Spells ds n ↔ natOfDigits? 10 ds = some n := by
  constructor
  · exact Spells.value
  · intro h
    refine ⟨?_, h⟩
    induction ds using List.reverseRecOn generalizing n with
    | nil =>
        intro c hc
        cases hc
    | append_singleton ds last ih =>
        rcases natOfDigits?_concat_inv h with ⟨hlast, hfront⟩
        intro c hc
        rcases List.mem_append.mp hc with hc | hc
        · rcases hfront with rfl | ⟨m, hm⟩
          · cases hc
          · exact ih hm c hc
        · obtain rfl := List.mem_singleton.mp hc
          exact hlast

/-! ## A sign in front -/

inductive Signed : List Char → Nat → Prop where
  | plain {ds : List Char} {n : Nat} (hdigits : Spells ds n) : Signed ds n
  | plus {ds : List Char} {n : Nat} (hdigits : Spells ds n) : Signed ('+' :: ds) n

theorem Spells.stripStart_plus (h : Spells ds n) : stripStart ['+'] ds = none := by
  rw [stripStart_eq_none_iff]
  intro hprefix
  rcases hprefix with ⟨rest, rfl⟩
  have hplus := h.digits '+' List.mem_cons_self
  cases hplus

theorem boundedNat?_eq_some_iff : boundedNat? bound cs = some n ↔ Signed cs n ∧ n < bound := by
  have hbound : boundedNat? bound cs = some n ↔
      Spells ((stripStart ['+'] cs).getD cs) n ∧ n < bound := by
    rw [spells_iff]
    unfold boundedNat?
    simp only [Option.bind_eq_bind, Option.bind_eq_some_iff, Option.ite_none_right_eq_some,
      Option.some.injEq]
    constructor
    · intro h
      rcases h with ⟨m, hm, hlt, rfl⟩
      exact ⟨hm, hlt⟩
    · intro h
      rcases h with ⟨hm, hlt⟩
      exact ⟨n, hm, hlt, rfl⟩
  rw [hbound]
  constructor
  · intro h
    rcases h with ⟨hspells, hlt⟩
    refine ⟨?_, hlt⟩
    cases hsign : stripStart ['+'] cs with
    | none =>
        rw [hsign] at hspells
        exact .plain hspells
    | some ds =>
        rw [hsign] at hspells
        rw [stripStart_eq_some_iff.mp hsign]
        exact .plus hspells
  · intro h
    rcases h with ⟨hsigned, hlt⟩
    refine ⟨?_, hlt⟩
    cases hsigned with
    | plain hdigits =>
        rw [hdigits.stripStart_plus]
        exact hdigits
    | plus hdigits =>
        exact hdigits

theorem boundedNat?_toString (h : n < bound) :
    boundedNat? bound (toString n).toList = some n :=
  boundedNat?_eq_some_iff.mpr ⟨.plain (spells_toString n), h⟩

namespace Signed

theorem ne_nil (h : Signed cs n) : cs ≠ [] := by
  cases h with
  | plain hdigits =>
      exact hdigits.ne_nil
  | plus =>
      exact List.cons_ne_nil _ _

theorem digit_or_plus (h : Signed cs n) (hc : c ∈ cs) : isDecimalDigit c = true ∨ c = '+' := by
  cases h with
  | plain hdigits =>
      exact Or.inl (hdigits.digits c hc)
  | plus hdigits =>
      rcases List.mem_cons.mp hc with rfl | hc
      · exact Or.inr rfl
      · exact Or.inl (hdigits.digits c hc)

theorem trimmed (h : Signed cs n) : Trimmed cs := by
  apply trimmed_of_all
  intro c hc
  rcases h.digit_or_plus hc with hdigit | rfl
  · exact isBlank_of_digit hdigit
  · rfl

theorem not_mem (h : Signed cs n) (hdigit : isDecimalDigit c = false) (hplus : c ≠ '+') :
    c ∉ cs := by
  intro hc
  rcases h.digit_or_plus hc with hsome | hsame
  · rw [hdigit] at hsome
    cases hsome
  · exact hplus hsame

end Signed

/-! ## Blanks around -/

def Blanks (cs : List Char) : Prop :=
  ∀ c ∈ cs, isBlank c = true

theorem blanks_nil : Blanks [] :=
  fun _ hc => nomatch hc

theorem Blanks.append (hfront : Blanks front) (hrest : Blanks rest) : Blanks (front ++ rest) := by
  intro c hc
  rcases List.mem_append.mp hc with hc | hc
  · exact hfront c hc
  · exact hrest c hc

theorem Blanks.not_mem (h : Blanks cs) (hc : isBlank c = false) : c ∉ cs := by
  intro hmem
  rw [h c hmem] at hc
  cases hc

theorem Trimmed.between (hfront : Trimmed front) (hfirst : front ≠ []) (hrest : Trimmed rest)
    (hlast : rest ≠ []) (middle : List Char) : Trimmed (front ++ middle ++ rest) := by
  constructor
  · rw [List.append_assoc, List.head?_append_of_ne_nil _ hfirst]
    exact hfront.head
  · rw [List.getLast?_append_of_ne_nil _ hlast]
    exact hrest.last

def Around (inner cs : List Char) : Prop :=
  ∃ before after, cs = before ++ inner ++ after ∧ Blanks before ∧ Blanks after

theorem around_trim (cs : List Char) : Around (trim cs) cs := by
  have hblanks : ∀ ds : List Char, Blanks (ds.takeWhile isBlank) :=
    fun ds c hc => List.mem_takeWhile_imp hc
  have hstart : cs = cs.takeWhile isBlank ++ trimStart cs :=
    List.takeWhile_append_dropWhile.symm
  have hend : ∀ ds : List Char, ds = trimEnd ds ++ (ds.reverse.takeWhile isBlank).reverse := by
    intro ds
    unfold trimEnd
    rw [← List.reverse_append, List.takeWhile_append_dropWhile, List.reverse_reverse]
  have hwhole : cs = cs.takeWhile isBlank ++ trim cs ++
      ((trimStart cs).reverse.takeWhile isBlank).reverse := by
    rw [List.append_assoc, trim, ← hend (trimStart cs), ← hstart]
  have hafter : Blanks ((trimStart cs).reverse.takeWhile isBlank).reverse :=
    fun c hc => hblanks _ c (List.mem_reverse.mp hc)
  exact ⟨_, _, hwhole, hblanks cs, hafter⟩

theorem trimStart_append (hfront : Blanks front) (hhead : ∀ c ∈ cs.head?, isBlank c = false) :
    trimStart (front ++ cs) = cs := by
  unfold trimStart
  rw [List.dropWhile_append_of_pos hfront]
  cases cs with
  | nil =>
      rfl
  | cons c cs =>
      rw [List.dropWhile_cons, hhead c rfl]
      rfl

theorem trimEnd_append (hlast : ∀ c ∈ cs.getLast?, isBlank c = false) (hrest : Blanks rest) :
    trimEnd (cs ++ rest) = cs := by
  have hback : Blanks rest.reverse := fun c hc => hrest c (List.mem_reverse.mp hc)
  have hstart : trimStart (rest.reverse ++ cs.reverse) = cs.reverse := by
    apply trimStart_append hback
    rw [List.head?_reverse]
    exact hlast
  unfold trimEnd
  rw [List.reverse_append]
  unfold trimStart at hstart
  rw [hstart, List.reverse_reverse]

namespace Around

theorem append (h : Around inner cs) (hfront : Blanks front) (hrest : Blanks rest) :
    Around inner (front ++ cs ++ rest) := by
  rcases h with ⟨before, after, rfl, hbefore, hafter⟩
  refine ⟨front ++ before, after ++ rest, ?_, hfront.append hbefore, hafter.append hrest⟩
  simp only [List.append_assoc]

theorem trim_eq (h : Around inner cs) (htrimmed : Trimmed inner) (hne : inner ≠ []) :
    trim cs = inner := by
  rcases h with ⟨before, after, rfl, hbefore, hafter⟩
  have hhead : ∀ c ∈ (inner ++ after).head?, isBlank c = false := by
    rw [List.head?_append_of_ne_nil _ hne]
    exact htrimmed.head
  unfold trim
  rw [List.append_assoc, trimStart_append hbefore hhead, trimEnd_append htrimmed.last hafter]

end Around

/-! ## Numbers -/

def Numeral (cs : List Char) (n : Nat) : Prop :=
  ∃ number, Signed number n ∧ Around number cs

theorem Numeral.append (h : Numeral cs n) (hfront : Blanks front) (hrest : Blanks rest) :
    Numeral (front ++ cs ++ rest) n := by
  rcases h with ⟨number, hsigned, haround⟩
  exact ⟨number, hsigned, haround.append hfront hrest⟩

theorem boundedNat?_trim_eq_some_iff :
    boundedNat? bound (trim cs) = some n ↔ Numeral cs n ∧ n < bound := by
  rw [boundedNat?_eq_some_iff]
  constructor
  · intro h
    rcases h with ⟨hsigned, hlt⟩
    exact ⟨⟨_, hsigned, around_trim cs⟩, hlt⟩
  · intro h
    rcases h with ⟨⟨number, hsigned, haround⟩, hlt⟩
    rw [haround.trim_eq hsigned.trimmed hsigned.ne_nil]
    exact ⟨hsigned, hlt⟩

end Text
end SiteGuard
