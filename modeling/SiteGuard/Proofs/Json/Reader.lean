import SiteGuard.Json.Reader
import SiteGuard.Proofs.Steps
import SiteGuard.Proofs.Text.Digits

/-!
# Reading what was written

Each reader takes from the front of a text what the writer has put there, and
leaves the rest.  The text is at every point shorter than the fuel.
-/

namespace SiteGuard
namespace Json

open Text

/-! ## Blanks -/

theorem skipSpace_cons {c : Char} (h : isSpace c = false) (cs : List Char) :
    skipSpace (c :: cs) = c :: cs := by
  unfold skipSpace
  rw [List.dropWhile_cons, h]
  rfl

/-! ## Strings -/

theorem hexDigits?_hexDigit : ∀ n < 32,
    hexDigits? ['0', '0', hexDigit (n / 16), hexDigit (n % 16)] = some n := by
  decide

theorem utf8Size_hexDigit : ∀ n < 16, (hexDigit n).utf8Size = 1 := by
  decide

theorem hexUnit_control {n : Nat} (h : n < 32) (tail : List Char) :
    hexUnit ('0' :: '0' :: hexDigit (n / 16) :: hexDigit (n % 16) :: tail) = .ok (n, tail) := by
  have hhigh := utf8Size_hexDigit (n / 16) (by omega)
  have hlow := utf8Size_hexDigit (n % 16) (by omega)
  have hzero : ('0').utf8Size = 1 := by decide
  unfold hexUnit
  simp [hhigh, hlow, hzero, hexDigits?_hexDigit n h]

theorem escape_control {c : Char} (h : c.toNat < 32) (tail : List Char) :
    escape ('u' :: '0' :: '0' :: hexDigit (c.toNat / 16) :: hexDigit (c.toNat % 16) :: tail) =
      .ok (c, tail) := by
  simp only [escape, hexUnit_control h, bind, Except.bind]
  rw [if_neg (by omega), if_neg (by omega), Char.ofNat_toNat]

theorem readChars_escaped {fuel : Nat} {cs more rest : List Char} {text : List Char} {c : Char}
    (hescape : escape cs = .ok (c, text)) (h : readChars fuel text = .ok (more, rest)) :
    readChars (fuel + 1) ('\\' :: cs) = .ok (c :: more, rest) := by
  simp [readChars, hescape, h, bind, Except.bind]

theorem readChars_writeChar {fuel : Nat} {text more rest : List Char}
    (h : readChars fuel text = .ok (more, rest)) (c : Char) :
    readChars (fuel + 1) (writeChar c text) = .ok (c :: more, rest) := by
  have hnamed : ∀ {n : Nat}, c.toNat = n → c = Char.ofNat n := by
    rintro n rfl
    exact (Char.ofNat_toNat c).symm
  unfold writeChar
  split
  · rename_i hc
    subst hc
    exact readChars_escaped rfl h
  split
  · rename_i hc
    subst hc
    exact readChars_escaped rfl h
  split
  · rename_i hc
    obtain rfl := hnamed hc
    exact readChars_escaped rfl h
  split
  · rename_i hc
    obtain rfl := hnamed hc
    exact readChars_escaped rfl h
  split
  · rename_i hc
    subst hc
    exact readChars_escaped rfl h
  split
  · rename_i hc
    subst hc
    exact readChars_escaped rfl h
  split
  · rename_i hc
    subst hc
    exact readChars_escaped rfl h
  split
  · rename_i hc
    exact readChars_escaped (escape_control hc text) h
  · rename_i hquote hbackslash _ _ _ _ _ hcontrol
    simp [readChars, hquote, hbackslash, hcontrol, h, bind, Except.bind]

theorem readChars_write (cs tail : List Char) {fuel : Nat} (hfuel : cs.length < fuel) :
    readChars fuel (cs.foldr writeChar ('"' :: tail)) = .ok (cs, tail) := by
  induction cs generalizing fuel with
  | nil =>
      cases fuel with
      | zero =>
          cases hfuel
      | succ fuel =>
          rfl
  | cons c cs ih =>
      cases fuel with
      | zero =>
          cases hfuel
      | succ fuel =>
          rw [List.foldr_cons]
          exact readChars_writeChar (ih (Nat.lt_of_succ_lt_succ hfuel)) c

theorem length_writeChar (c : Char) (tail : List Char) :
    tail.length < (writeChar c tail).length := by
  unfold writeChar
  repeat' split
  all_goals
    simp only [List.length_cons]
    omega

theorem length_le_foldr_writeChar (cs tail : List Char) :
    cs.length + tail.length ≤ (cs.foldr writeChar tail).length := by
  induction cs with
  | nil =>
      simp
  | cons c cs ih =>
      have hstep := length_writeChar c (cs.foldr writeChar tail)
      rw [List.foldr_cons, List.length_cons]
      omega

theorem readString_write {s : String} {tail : List Char} {fuel : Nat}
    (hfuel : (writeText s tail).length ≤ fuel) :
    readString fuel (s.toList.foldr writeChar ('"' :: tail)) = .ok (s, tail) := by
  have hlength := length_le_foldr_writeChar s.toList ('"' :: tail)
  have hchars : s.toList.length < fuel := by
    unfold writeText at hfuel
    simp only [List.length_cons] at hfuel hlength
    omega
  simp [readString, readChars_write s.toList tail hchars, bind, Except.bind]

/-! ## Numbers -/

/-- The text is at its end, or where a list or an object goes on or is closed. -/
def Ends (rest : List Char) : Prop :=
  ∀ c ∈ rest.head?, c = ',' ∨ c = ']' ∨ c = '\x7d'

theorem Ends.nil : Ends [] := by
  intro c hc
  cases hc

theorem Ends.cons {c : Char} (h : c = ',' ∨ c = ']' ∨ c = '\x7d') (cs : List Char) :
    Ends (c :: cs) := by
  intro d hd
  cases hd
  exact h

theorem Ends.noDigit {rest : List Char} (h : Ends rest) : NoDigit rest := by
  cases rest with
  | nil =>
      rfl
  | cons c cs =>
      rcases h c rfl with rfl | rfl | rfl
      · exact noDigit_cons rfl cs
      · exact noDigit_cons rfl cs
      · exact noDigit_cons rfl cs

theorem fractionPart_ends {rest : List Char} (h : Ends rest) : fractionPart rest = .ok ([], rest) := by
  cases rest with
  | nil =>
      rfl
  | cons c cs =>
      rcases h c rfl with rfl | rfl | rfl
      · rfl
      · rfl
      · rfl

theorem exponentPart_ends {rest : List Char} (h : Ends rest) :
    exponentPart rest = .ok (none, rest) := by
  cases rest with
  | nil =>
      rfl
  | cons c cs =>
      rcases h c rfl with rfl | rfl | rfl
      · rfl
      · rfl
      · rfl

theorem digits_append {ds rest : List Char} {n : Nat} (h : Spells ds n) (hrest : NoDigit rest) :
    digits (ds ++ rest) = (ds, rest) := by
  have htake := takeWhile_digits h hrest
  have hparts :=
    List.takeWhile_append_dropWhile (p := isDecimalDigit) (l := ds ++ rest)
  rw [htake] at hparts
  unfold digits
  rw [htake, List.append_cancel_left hparts]

theorem wholePart_toDigits (n : Nat) {rest : List Char} (hrest : Ends rest) :
    wholePart (Nat.toDigits 10 n ++ rest) = .ok (Nat.toDigits 10 n, rest) := by
  have hdigits := digits_append (spells_toDigits n) hrest.noDigit
  by_cases hzero : n = 0
  · rw [hzero]
    show wholePart ('0' :: rest) = .ok (['0'], rest)
    cases rest with
    | nil =>
        rfl
    | cons c cs =>
        rcases hrest c rfl with rfl | rfl | rfl
        · rfl
        · rfl
        · rfl
  · have hhead := head?_toDigits_ne (Nat.pos_of_ne_zero hzero)
    cases hds : Nat.toDigits 10 n with
    | nil =>
        exact absurd hds (spells_toDigits n).ne_nil
    | cons d ds =>
        rw [hds] at hdigits hhead
        rw [List.cons_append] at hdigits ⊢
        unfold wholePart
        split
        · rename_i htext
          cases htext
        · rename_i htext
          cases htext
          exact absurd rfl hhead
        · rw [hdigits]

theorem natOf_toDigits (n : Nat) : natOf (Nat.toDigits 10 n) = n := by
  unfold natOf
  rw [(spells_toDigits n).value]
  rfl

theorem toDigits_ne_minus (n : Nat) (rest cs : List Char) :
    Nat.toDigits 10 n ++ rest ≠ '-' :: cs := by
  have hspells := spells_toDigits n
  cases hds : Nat.toDigits 10 n with
  | nil =>
      exact absurd hds hspells.ne_nil
  | cons d ds =>
      intro htext
      cases htext
      rw [hds] at hspells
      cases hspells.digits '-' List.mem_cons_self

theorem readNumber_nat {n : Nat} (hn : n < UInt64.size) {rest : List Char} (hrest : Ends rest) :
    readNumber (Nat.toDigits 10 n ++ rest) = .ok (.whole n, rest) := by
  unfold readNumber
  split
  rename_i hsign
  split at hsign
  · rename_i htext
    exact absurd htext (toDigits_ne_minus n rest _)
  · cases hsign
    simp [wholePart_toDigits n hrest, fractionPart_ends hrest, exponentPart_ends hrest,
      natOf_toDigits, hn, bind, Except.bind]

theorem readNumber_negative {n : Nat} (hpositive : 0 < n) (hn : n ≤ UInt64.size / 2)
    {rest : List Char} (hrest : Ends rest) :
    readNumber ('-' :: (Nat.toDigits 10 n ++ rest)) = .ok (.whole (-(n : Int)), rest) := by
  simp [readNumber, wholePart_toDigits n hrest, fractionPart_ends hrest, exponentPart_ends hrest,
    natOf_toDigits, hpositive, hn, bind, Except.bind]

def IsWhole (n : Int) : Prop :=
  -(UInt64.size / 2 : Nat) ≤ n ∧ n < UInt64.size

theorem toString_negSucc (n : Nat) :
    (toString (Int.negSucc n)).toList = '-' :: Nat.toDigits 10 (n + 1) := by
  have hsign : (toString (Int.negSucc n)).toList = ("-" ++ toString (n + 1)).toList := rfl
  rw [hsign, String.toList_append, toString_toList]
  rfl

theorem readNumber_write {n : Int} (hn : IsWhole n) {rest : List Char} (hrest : Ends rest) :
    readNumber ((toString n).toList ++ rest) = .ok (.whole n, rest) := by
  cases n with
  | ofNat n =>
      have hless : n < UInt64.size := Int.ofNat_lt.mp hn.2
      have htext : (toString (Int.ofNat n)).toList = Nat.toDigits 10 n := toString_toList n
      rw [htext]
      exact readNumber_nat hless hrest
  | negSucc n =>
      have hleast : n + 1 ≤ UInt64.size / 2 := by
        have hbound := hn.1
        omega
      rw [toString_negSucc]
      exact readNumber_negative (Nat.succ_pos n) hleast hrest

/-! ## Lengths -/

theorem length_le_writeText (s : String) (tail : List Char) :
    tail.length ≤ (writeText s tail).length := by
  have hlength := length_le_foldr_writeChar s.toList ('"' :: tail)
  unfold writeText
  simp only [List.length_cons] at hlength ⊢
  omega

theorem length_le_writeNumber (n : Number) (tail : List Char) :
    tail.length ≤ (writeNumber n tail).length := by
  unfold writeNumber
  split
  · simp
  · split
    · simp
    · simp
      omega

mutual

theorem length_le_write : (j : Json) → (tail : List Char) → tail.length ≤ (write j tail).length
  | .null, tail => by
      simp only [write, List.length_cons]
      omega
  | .bool true, tail => by
      simp only [write, List.length_cons]
      omega
  | .bool false, tail => by
      simp only [write, List.length_cons]
      omega
  | .number n, tail => by
      rw [write]
      exact length_le_writeNumber n tail
  | .text s, tail => by
      rw [write]
      exact length_le_writeText s tail
  | .list [], tail => by
      simp only [write, List.length_cons]
      omega
  | .list (item :: rest), tail => by
      have hitem := length_le_write item (writeItems rest tail)
      have hrest := length_le_writeItems rest tail
      simp only [write, List.length_cons]
      omega
  | .object [], tail => by
      simp only [write, List.length_cons]
      omega
  | .object ((key, value) :: rest), tail => by
      have hkey := length_le_writeText key (':' :: write value (writeMembers rest tail))
      have hvalue := length_le_write value (writeMembers rest tail)
      have hrest := length_le_writeMembers rest tail
      simp only [write, List.length_cons] at hkey ⊢
      omega

theorem length_le_writeItems :
    (items : List Json) → (tail : List Char) → tail.length ≤ (writeItems items tail).length
  | [], tail => by
      simp only [writeItems, List.length_cons]
      omega
  | item :: rest, tail => by
      have hitem := length_le_write item (writeItems rest tail)
      have hrest := length_le_writeItems rest tail
      simp only [writeItems, List.length_cons]
      omega

theorem length_le_writeMembers :
    (members : List (String × Json)) → (tail : List Char) →
      tail.length ≤ (writeMembers members tail).length
  | [], tail => by
      simp only [writeMembers, List.length_cons]
      omega
  | (key, value) :: rest, tail => by
      have hkey := length_le_writeText key (':' :: write value (writeMembers rest tail))
      have hvalue := length_le_write value (writeMembers rest tail)
      have hrest := length_le_writeMembers rest tail
      simp only [writeMembers, List.length_cons] at hkey ⊢
      omega

end

/-! ## Values -/

/-- Numbers are machine integers, and nothing is nested deeper than a reader goes. -/
inductive Fits : Nat → Json → Prop where
  | null {depth : Nat} : Fits (depth + 1) .null
  | bool {depth : Nat} {b : Bool} : Fits (depth + 1) (.bool b)
  | number {depth : Nat} {n : Int} (hn : IsWhole n) : Fits (depth + 1) (.number (.whole n))
  | text {depth : Nat} {s : String} : Fits (depth + 1) (.text s)
  | list {depth : Nat} {items : List Json} (hitems : ∀ j ∈ items, Fits (depth + 1) j) :
      Fits (depth + 2) (.list items)
  | object {depth : Nat} {members : List (String × Json)}
      (hmembers : ∀ m ∈ members, Fits (depth + 1) m.2) : Fits (depth + 2) (.object members)

/-- How the text of a value begins: `n` is the first letter of null alone. -/
def Begins (j : Json) : Prop :=
  ∀ rest, ∃ c cs, write j rest = c :: cs ∧ isSpace c = false ∧ c ≠ ']' ∧ (c = 'n' → j = .null)

theorem begins_of_cons {j : Json} {c : Char} (hwrite : ∀ rest, ∃ cs, write j rest = c :: cs)
    (hspace : isSpace c = false) (hbracket : c ≠ ']') (hletter : c ≠ 'n') : Begins j := by
  intro rest
  rcases hwrite rest with ⟨cs, hcs⟩
  exact ⟨c, cs, hcs, hspace, hbracket, fun h => absurd h hletter⟩

def BeginsNumber (c : Char) : Prop :=
  c = '-' ∨ isDecimalDigit c = true

theorem exists_beginsNumber (n : Int) (rest : List Char) :
    ∃ c cs, (toString n).toList ++ rest = c :: cs ∧ BeginsNumber c := by
  cases n with
  | ofNat n =>
      have htext : (toString (Int.ofNat n)).toList = Nat.toDigits 10 n := toString_toList n
      have hspells := spells_toDigits n
      rw [htext]
      cases hds : Nat.toDigits 10 n with
      | nil =>
          exact absurd hds hspells.ne_nil
      | cons d ds =>
          rw [hds] at hspells
          exact ⟨d, ds ++ rest, rfl, Or.inr (hspells.digits d List.mem_cons_self)⟩
  | negSucc n =>
      rw [toString_negSucc]
      exact ⟨'-', _, rfl, Or.inl rfl⟩

theorem BeginsNumber.ne {c d : Char} (h : BeginsNumber c) (hsign : d ≠ '-')
    (hdigit : isDecimalDigit d = false) : c ≠ d := by
  rintro rfl
  rcases h with h | h
  · exact hsign h
  · rw [hdigit] at h
    cases h

theorem BeginsNumber.isSpace {c : Char} (h : BeginsNumber c) : isSpace c = false := by
  simp [Json.isSpace, h.ne (d := ' ') (by decide) rfl, h.ne (d := '\n') (by decide) rfl,
    h.ne (d := '\t') (by decide) rfl, h.ne (d := '\r') (by decide) rfl]

theorem write_number (n : Int) (rest : List Char) :
    write (.number (.whole n)) rest = (toString n).toList ++ rest := by
  simp only [write, writeNumber]

theorem begins_number (n : Int) : Begins (.number (.whole n)) := by
  intro rest
  rcases exists_beginsNumber n rest with ⟨c, cs, htext, hc⟩
  rw [write_number]
  exact ⟨c, cs, htext, hc.isSpace, hc.ne (by decide) rfl,
    fun h => absurd h (hc.ne (by decide) rfl)⟩

theorem Fits.begins {depth : Nat} {j : Json} (h : Fits depth j) : Begins j := by
  cases h with
  | null =>
      exact fun rest => ⟨'n', _, rfl, rfl, by decide, fun _ => rfl⟩
  | @bool _ b =>
      cases b with
      | false =>
          exact begins_of_cons (fun rest => ⟨_, rfl⟩) rfl (by decide) (by decide)
      | true =>
          exact begins_of_cons (fun rest => ⟨_, rfl⟩) rfl (by decide) (by decide)
  | number =>
      exact begins_number _
  | text =>
      exact begins_of_cons (fun rest => ⟨_, rfl⟩) rfl (by decide) (by decide)
  | @list _ items _ =>
      cases items with
      | nil =>
          exact begins_of_cons (fun rest => ⟨_, rfl⟩) rfl (by decide) (by decide)
      | cons item items =>
          exact begins_of_cons (fun rest => ⟨_, rfl⟩) rfl (by decide) (by decide)
  | @object _ members _ =>
      cases members with
      | nil =>
          exact begins_of_cons (fun rest => ⟨_, rfl⟩) rfl (by decide) (by decide)
      | cons m members =>
          exact begins_of_cons (fun rest => ⟨_, rfl⟩) rfl (by decide) (by decide)

/-! ## Lists -/

theorem ends_writeItems (items : List Json) (tail : List Char) : Ends (writeItems items tail) := by
  cases items with
  | nil =>
      rw [writeItems]
      exact .cons (Or.inr (Or.inl rfl)) tail
  | cons item items =>
      rw [writeItems]
      exact .cons (Or.inl rfl) _

theorem nextElement_first {j : Json} (h : Begins j) (rest : List Char) :
    nextElement true (write j rest) = .ok (true, write j rest) := by
  rcases h rest with ⟨c, cs, hwrite, hspace, hbracket, _⟩
  unfold nextElement
  rw [hwrite, skipSpace_cons hspace]
  simp [hbracket]

theorem nextElement_comma {j : Json} (h : Begins j) (rest : List Char) :
    nextElement false (',' :: write j rest) = .ok (true, write j rest) := by
  rcases h rest with ⟨c, cs, hwrite, hspace, hbracket, _⟩
  unfold nextElement
  rw [hwrite, skipSpace_cons (by rfl : isSpace ',' = false)]
  simp only [Char.reduceEq, Bool.false_eq_true, if_false, if_true, skipSpace_cons hspace]
  split
  · rename_i htext
    cases htext
  · rename_i htext
    cases htext
    exact absurd rfl hbracket
  · rfl

def ReadsBack {α : Type} (one : Reader α) (value : α → Json) (fuel : Nat) (a : α) : Prop :=
  ∀ rest, Ends rest → (write (value a) rest).length < fuel →
    one (write (value a) rest) = .ok (a, rest)

section Elements

variable {α : Type} {one : Reader α} {value : α → Json} {fuel : Nat} {as : List α}

theorem readElements_cons {loop : Nat} {first : Bool} {cs text more tail : List Char} {a : α}
    (hnext : nextElement first cs = .ok (true, text)) (hone : one text = .ok (a, more))
    (hmore : readElements one loop false more = .ok (as, tail)) :
    readElements one (loop + 1) first cs = .ok (a :: as, tail) := by
  simp [readElements, hnext, hone, hmore, bind, Except.bind]

theorem readElements_nil (one : Reader α) (loop : Nat) (first : Bool) (tail : List Char) :
    readElements one (loop + 1) first (']' :: tail) = .ok ([], tail) := by
  rfl

theorem readElements_writeItems (hread : ∀ a ∈ as, ReadsBack one value fuel a)
    (hbegins : ∀ a ∈ as, Begins (value a)) {tail : List Char} {loop : Nat}
    (hloop : (writeItems (as.map value) tail).length ≤ loop)
    (hfuel : (writeItems (as.map value) tail).length < fuel) :
    readElements one loop false (writeItems (as.map value) tail) = .ok (as, tail) := by
  induction as generalizing loop with
  | nil =>
      cases loop with
      | zero =>
          cases hloop
      | succ loop =>
          exact readElements_nil one loop false tail
  | cons a as ih =>
      have htext : writeItems ((a :: as).map value) tail =
          ',' :: write (value a) (writeItems (as.map value) tail) := by
        rw [List.map_cons, writeItems]
      rw [htext, List.length_cons] at hloop hfuel
      have hlength := length_le_write (value a) (writeItems (as.map value) tail)
      rw [htext]
      cases loop with
      | zero =>
          cases hloop
      | succ loop =>
          apply readElements_cons (nextElement_comma (hbegins a List.mem_cons_self) _)
          · exact hread a List.mem_cons_self _ (ends_writeItems _ tail) (by omega)
          · apply ih
            · exact fun b hb => hread b (List.mem_cons_of_mem a hb)
            · exact fun b hb => hbegins b (List.mem_cons_of_mem a hb)
            · omega
            · omega

theorem readElements_list (hread : ∀ a ∈ as, ReadsBack one value fuel a)
    (hbegins : ∀ a ∈ as, Begins (value a)) {tail : List Char}
    (hfuel : (write (.list (as.map value)) tail).length < fuel) :
    ∃ body, write (.list (as.map value)) tail = '[' :: body ∧
      readElements one fuel true body = .ok (as, tail) := by
  cases fuel with
  | zero =>
      cases hfuel
  | succ fuel =>
      cases as with
      | nil =>
          exact ⟨_, rfl, readElements_nil one fuel true tail⟩
      | cons a as =>
          have htext : write (.list ((a :: as).map value)) tail =
              '[' :: write (value a) (writeItems (as.map value) tail) := by
            rw [List.map_cons, write]
          rw [htext, List.length_cons] at hfuel
          have hlength := length_le_write (value a) (writeItems (as.map value) tail)
          refine ⟨_, htext, ?_⟩
          apply readElements_cons (nextElement_first (hbegins a List.mem_cons_self) _)
          · exact hread a List.mem_cons_self _ (ends_writeItems _ tail) (by omega)
          · apply readElements_writeItems
            · exact fun b hb => hread b (List.mem_cons_of_mem a hb)
            · exact fun b hb => hbegins b (List.mem_cons_of_mem a hb)
            · omega
            · omega

end Elements

/-! ## Objects -/

theorem ends_writeMembers (members : List (String × Json)) (tail : List Char) :
    Ends (writeMembers members tail) := by
  cases members with
  | nil =>
      rw [writeMembers]
      exact .cons (Or.inr (Or.inr rfl)) tail
  | cons m members =>
      rw [writeMembers]
      exact .cons (Or.inl rfl) _

theorem nextKey_first {fuel : Nat} {key : String} {tail : List Char}
    (hfuel : (writeText key tail).length ≤ fuel) :
    nextKey fuel true (writeText key tail) = .ok (some key, tail) := by
  have hread := readString_write hfuel
  have hspace : skipSpace (writeText key tail) = writeText key tail := skipSpace_cons rfl _
  unfold nextKey
  rw [hspace]
  simp [writeText, hread, bind, Except.bind]

theorem nextKey_comma {fuel : Nat} {key : String} {tail : List Char}
    (hfuel : (writeText key tail).length ≤ fuel) :
    nextKey fuel false (',' :: writeText key tail) = .ok (some key, tail) := by
  have hread := readString_write hfuel
  have hcomma : skipSpace (',' :: writeText key tail) = ',' :: writeText key tail :=
    skipSpace_cons rfl _
  have hquote : skipSpace ('"' :: key.toList.foldr writeChar ('"' :: tail)) =
      '"' :: key.toList.foldr writeChar ('"' :: tail) := skipSpace_cons rfl _
  unfold nextKey
  rw [hcomma]
  simp [writeText, hquote, hread, bind, Except.bind]

/-- Reading these members one after the other leads from a state to another one. -/
inductive Steps {σ : Type} (fuel : Nat) (step : String → σ → Reader σ) :
    σ → List (String × Json) → σ → Prop where
  | nil {state : σ} : Steps fuel step state [] state
  | cons {state next last : σ} {key : String} {j : Json} {members : List (String × Json)}
      (hstep : ∀ rest, Ends rest → (write j rest).length < fuel →
        step key state (':' :: write j rest) = .ok (next, rest))
      (hrest : Steps fuel step next members last) :
      Steps fuel step state ((key, j) :: members) last

section Members

variable {σ : Type} {step : String → σ → Reader σ} {fuel : Nat}

theorem readMembers_cons {loop : Nat} {first : Bool} {cs text more tail : List Char} {key : String}
    {state next last : σ} (hkey : nextKey fuel first cs = .ok (some key, text))
    (hstep : step key state text = .ok (next, more))
    (hmore : readMembers fuel step loop false next more = .ok (last, tail)) :
    readMembers fuel step (loop + 1) first state cs = .ok (last, tail) := by
  simp [readMembers, hkey, hstep, hmore, bind, Except.bind]

theorem readMembers_nil (fuel : Nat) (step : String → σ → Reader σ) (loop : Nat) (first : Bool)
    (state : σ) (tail : List Char) :
    readMembers fuel step (loop + 1) first state ('\x7d' :: tail) = .ok (state, tail) := by
  rfl

theorem readMembers_writeMembers {state last : σ} {members : List (String × Json)}
    (h : Steps fuel step state members last) {tail : List Char} {loop : Nat}
    (hloop : (writeMembers members tail).length ≤ loop)
    (hfuel : (writeMembers members tail).length < fuel) :
    readMembers fuel step loop false state (writeMembers members tail) = .ok (last, tail) := by
  induction h generalizing loop with
  | nil =>
      cases loop with
      | zero =>
          cases hloop
      | succ loop =>
          exact readMembers_nil fuel step loop false _ tail
  | @cons state next last key j members hstep hrest ih =>
      have hlength := length_le_write j (writeMembers members tail)
      have hkey := length_le_writeText key (':' :: write j (writeMembers members tail))
      rw [writeMembers, List.length_cons] at hloop hfuel
      rw [List.length_cons] at hkey
      rw [writeMembers]
      cases loop with
      | zero =>
          cases hloop
      | succ loop =>
          apply readMembers_cons (nextKey_comma (by omega))
          · exact hstep _ (ends_writeMembers members tail) (by omega)
          · apply ih
            · omega
            · omega

theorem readMembers_object {state last : σ} {members : List (String × Json)}
    (h : Steps fuel step state members last) {tail : List Char}
    (hfuel : (write (.object members) tail).length < fuel) :
    ∃ body, write (.object members) tail = '\x7b' :: body ∧
      readMembers fuel step fuel true state body = .ok (last, tail) := by
  cases fuel with
  | zero =>
      cases hfuel
  | succ fuel =>
      cases h with
      | nil =>
          exact ⟨_, rfl, readMembers_nil (fuel + 1) step fuel true _ tail⟩
      | @cons _ next _ key j members hstep hrest =>
          have hlength := length_le_write j (writeMembers members tail)
          have hkey := length_le_writeText key (':' :: write j (writeMembers members tail))
          rw [write, List.length_cons] at hfuel
          rw [List.length_cons] at hkey
          refine ⟨_, by rw [write], ?_⟩
          apply readMembers_cons (nextKey_first (by omega))
          · exact hstep _ (ends_writeMembers members tail) (by omega)
          · apply readMembers_writeMembers hrest
            · omega
            · omega

end Members

theorem steps_collect {α : Type} {one : Reader α} {value : α → Json} {fuel : Nat}
    {members : List (String × α)} (hread : ∀ m ∈ members, ReadsBack one value fuel m.2)
    (seen : List (String × α)) :
    Steps fuel
      (fun key seen cs => do
        let (v, rest) ← one (← colon cs)
        .ok ((key, v) :: seen, rest))
      seen (members.map fun m => (m.1, value m.2)) (members.reverse ++ seen) := by
  induction members generalizing seen with
  | nil =>
      exact .nil
  | cons m members ih =>
      have hrest := ih (fun n hn => hread n (List.mem_cons_of_mem m hn)) (m :: seen)
      rw [List.reverse_cons, List.append_assoc, List.singleton_append]
      refine .cons ?_ hrest
      intro rest hends hfuel
      have hvalue := hread m List.mem_cons_self rest hends hfuel
      have hcolon : colon (':' :: write (value m.2) rest) = .ok (write (value m.2) rest) := rfl
      simp [hcolon, hvalue, bind, Except.bind]

/-! ## Any value -/

theorem readValue_write {depth : Nat} {j : Json} (h : Fits depth j) (fuel : Nat) :
    ReadsBack (readValue fuel depth) id fuel j := by
  induction h with
  | null =>
      intro rest _ _
      rfl
  | @bool _ b =>
      intro rest _ _
      cases b with
      | false =>
          rfl
      | true =>
          rfl
  | @number depth n hn =>
      intro rest hends _
      rcases exists_beginsNumber n rest with ⟨c, cs, htext, hc⟩
      have hread := readNumber_write hn hends
      show readValue fuel (depth + 1) (write (.number (.whole n)) rest) = _
      rw [write_number]
      rw [htext] at hread ⊢
      have hnumber : c = '-' ∨ isDecimalDigit c = true := hc
      simp [readValue, skipSpace_cons hc.isSpace, hc.ne (d := 'n') (by decide) rfl,
        hc.ne (d := 't') (by decide) rfl, hc.ne (d := 'f') (by decide) rfl, hnumber, hread,
        bind, Except.bind]
  | @text depth s =>
      intro rest _ hfuel
      have hread := readString_write (Nat.le_of_lt hfuel)
      have hquote : readValue fuel (depth + 1) (write (.text s) rest) =
          (readString fuel (s.toList.foldr writeChar ('"' :: rest)) >>= fun read =>
            .ok (.text read.1, read.2)) := rfl
      rw [id, hquote, hread]
      rfl
  | @list depth items hitems ih =>
      intro rest _ hfuel
      have hbegins : ∀ j ∈ items, Begins (id j) := fun j hj => (hitems j hj).begins
      have hsame : items.map id = items := List.map_id items
      rw [← hsame] at hfuel
      rcases readElements_list ih hbegins hfuel with ⟨body, htext, hread⟩
      rw [hsame] at htext
      have hbracket : readValue fuel (depth + 2) ('[' :: body) =
          (readElements (readValue fuel (depth + 1)) fuel true body >>= fun read =>
            .ok (.list read.1, read.2)) := rfl
      rw [id, htext, hbracket, hread]
      rfl
  | @object depth members hmembers ih =>
      intro rest _ hfuel
      have hsame : (members.map fun m => (m.1, id m.2)) = members := List.map_id members
      have hsteps := steps_collect ih []
      rw [hsame, List.append_nil] at hsteps
      rcases readMembers_object hsteps hfuel with ⟨body, htext, hread⟩
      have hbrace : readValue fuel (depth + 2) ('\x7b' :: body) =
          (readMembers fuel _ fuel true [] body >>= fun read =>
            .ok (.object read.1.reverse, read.2)) := rfl
      rw [id, htext, hbrace, hread]
      show Except.ok (Json.object members.reverse.reverse, rest) = _
      rw [List.reverse_reverse]

end Json
end SiteGuard
