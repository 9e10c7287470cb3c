import Mathlib
import SiteGuard.Unicode.Runs

/-!
# Looking up a run

The runs of a table begin at increasing code points, so the search finds the run
that a code point lies in.  What the first words of a table say can be read off
them without the rest.
-/

namespace SiteGuard
namespace Unicode
namespace Runs

/-! ## Searching -/

/-- The search ends at an entry whose key is small enough, right before one whose key is not. -/
theorem bisect_spec {key : Nat → Nat} {x lo hi : Nat} (hlt : lo < hi) (hlo : key lo ≤ x) :
    bisect key x lo hi < hi ∧ key (bisect key x lo hi) ≤ x ∧
      (bisect key x lo hi + 1 < hi → x < key (bisect key x lo hi + 1)) := by
  induction lo, hi using bisect.induct key x with
  | case1 lo hi hsmall =>
      rw [bisect, if_pos hsmall]
      exact ⟨hlt, hlo, fun hnext => absurd hnext (by omega)⟩
  | case2 lo hi hlarge middle hbelow ih =>
      have hstep : bisect key x lo hi = bisect key x middle hi := by
        rw [bisect, if_neg hlarge]
        exact if_pos hbelow
      rw [hstep]
      exact ih (by omega) hbelow
  | case3 lo hi hlarge middle habove ih =>
      have hstep : bisect key x lo hi = bisect key x lo middle := by
        rw [bisect, if_neg hlarge]
        exact if_neg habove
      rw [hstep]
      rcases ih (by omega) hlo with ⟨hless, hkey, hnext⟩
      refine ⟨by omega, hkey, ?_⟩
      intro _
      by_cases hend : bisect key x lo middle + 1 = middle
      · rw [hend]
        exact Nat.lt_of_not_le habove
      · exact hnext (by omega)

theorem bisect_eq {key : Nat → Nat} {x hi i : Nat}
    (hmono : ∀ a b, a ≤ b → b < hi → key a ≤ key b) (hi' : i < hi) (hkey : key i ≤ x)
    (hnext : i + 1 < hi → x < key (i + 1)) : bisect key x 0 hi = i := by
  have hfirst : key 0 ≤ x := Nat.le_trans (hmono 0 i (Nat.zero_le _) hi') hkey
  rcases bisect_spec (Nat.zero_lt_of_lt hi') hfirst with ⟨hless, hfound, habove⟩
  rcases Nat.lt_trichotomy (bisect key x 0 hi) i with hbefore | hsame | hafter
  · have hgap := hmono (bisect key x 0 hi + 1) i hbefore hi'
    have hover := habove (by omega)
    omega
  · exact hsame
  · have hgap := hmono (i + 1) (bisect key x 0 hi) hafter hless
    have hover := hnext (by omega)
    omega

/-! ## Runs as a list -/

def ofWords (start : Nat) : List (List Char) → List Run
  | [] => []
  | word :: rest => (ofWord start word).1 :: ofWords (ofWord start word).2 rest

theorem foldl_words (words : List (List Char)) (acc : Runs × Nat) :
    (words.foldl (fun (acc : Runs × Nat) word =>
        (acc.1.push (ofWord acc.2 word).1, (ofWord acc.2 word).2)) acc).1.toList =
      acc.1.toList ++ ofWords acc.2 words := by
  induction words generalizing acc with
  | nil =>
      simp [ofWords]
  | cons word rest ih =>
      rw [List.foldl_cons, ih]
      simp [ofWords]

theorem toList_ofLines (lines : List String) :
    (ofLines lines).toList = ofWords 0 (lines.flatMap wordsOf) := by
  have hflat : ofLines lines =
      ((lines.flatMap wordsOf).foldl (fun (acc : Runs × Nat) word =>
        (acc.1.push (ofWord acc.2 word).1, (ofWord acc.2 word).2)) (#[], 0)).1 := by
    rw [List.foldl_flatMap]
    rfl
  rw [hflat, foldl_words]
  simp

theorem ofWord_start (start : Nat) (word : List Char) : (ofWord start word).1.start = start := by
  cases word <;> rfl

theorem le_ofWord (start : Nat) (word : List Char) : start ≤ (ofWord start word).2 := by
  cases word with
  | nil =>
      exact Nat.le_refl _
  | cons kind digits =>
      exact Nat.le_add_right _ _

theorem le_start_of_mem {start : Nat} {words : List (List Char)} {run : Run}
    (h : run ∈ ofWords start words) : start ≤ run.start := by
  induction words generalizing start with
  | nil =>
      cases h
  | cons word rest ih =>
      rcases List.mem_cons.mp h with rfl | h
      · rw [ofWord_start]
      · exact Nat.le_trans (le_ofWord start word) (ih h)

theorem ofWords_pairwise (start : Nat) (words : List (List Char)) :
    (ofWords start words).Pairwise fun a b => a.start ≤ b.start := by
  induction words generalizing start with
  | nil =>
      exact .nil
  | cons word rest ih =>
      refine List.pairwise_cons.mpr ⟨?_, ih _⟩
      intro run hrun
      rw [ofWord_start]
      exact Nat.le_trans (le_ofWord start word) (le_start_of_mem hrun)

/-! ## Finding -/

def stop (start : Nat) : List (List Char) → Nat
  | [] => start
  | word :: rest => stop (ofWord start word).2 rest

theorem ofWords_append (start : Nat) (front back : List (List Char)) :
    ofWords start (front ++ back) = ofWords start front ++ ofWords (stop start front) back := by
  induction front generalizing start with
  | nil =>
      rfl
  | cons word rest ih =>
      exact congrArg (List.cons _) (ih _)

theorem find_eq_bisect (runs : Runs) (x : Nat) :
    ∃ key : Nat → Nat, runs.find x = runs[bisect key x 0 runs.size]? ∧
      ∀ (i : Nat) (h : i < runs.toList.length), key i = runs.toList[i].start := by
  refine ⟨_, rfl, ?_⟩
  intro i h
  have hrun : runs[i]? = some runs.toList[i] := by
    rw [← Array.getElem?_toList, List.getElem?_eq_getElem h]
  simp only [hrun]

theorem find_eq {runs : Runs} {front back : List Run} {run : Run} {x : Nat}
    (hruns : runs.toList = front ++ run :: back)
    (hsorted : runs.toList.Pairwise fun a b => a.start ≤ b.start) (hbegin : run.start ≤ x)
    (hnext : ∀ next ∈ back, x < next.start) : runs.find x = some run := by
  rcases find_eq_bisect runs x with ⟨key, hfind, hkey⟩
  have hsize : runs.size = runs.toList.length := Array.length_toList.symm
  have hfound : runs.toList[front.length]? = some run := by
    rw [hruns]
    simp
  rcases List.getElem?_eq_some_iff.mp hfound with ⟨hindex, hrun⟩
  have hsearch : bisect key x 0 runs.size = front.length := by
    rw [hsize]
    refine bisect_eq ?_ hindex ?_ ?_
    · intro a b hab hb
      rw [hkey a (Nat.lt_of_le_of_lt hab hb), hkey b hb]
      rcases Nat.eq_or_lt_of_le hab with rfl | hlt
      · exact Nat.le_refl _
      · exact List.pairwise_iff_getElem.mp hsorted a b _ hb hlt
    · rw [hkey _ hindex, hrun]
      exact hbegin
    · intro hinside
      rw [hkey _ hinside]
      apply hnext
      simp only [hruns]
      rw [List.getElem_append_right (by omega)]
      simp
  rw [hfind, hsearch, ← Array.getElem?_toList, hfound]

theorem find_ofLines {lines : List String} {front back : List (List Char)} {word : List Char}
    {x : Nat} (hwords : lines.flatMap wordsOf = front ++ word :: back)
    (hbegin : stop 0 front ≤ x) (hend : x < (ofWord (stop 0 front) word).2) :
    (ofLines lines).find x = some (ofWord (stop 0 front) word).1 := by
  have hruns : (ofLines lines).toList = ofWords 0 front ++
      (ofWord (stop 0 front) word).1 :: ofWords (ofWord (stop 0 front) word).2 back := by
    rw [toList_ofLines, hwords, ofWords_append]
    rfl
  refine find_eq hruns ?_ ?_ ?_
  · rw [toList_ofLines]
    exact ofWords_pairwise _ _
  · rw [ofWord_start]
    exact hbegin
  · intro next hmem
    exact Nat.lt_of_lt_of_le hend (le_start_of_mem hmem)

theorem exists_word {start x : Nat} {words : List (List Char)} (hbegin : start ≤ x)
    (hend : x < stop start words) :
    ∃ front word back, words = front ++ word :: back ∧ stop start front ≤ x ∧
      x < (ofWord (stop start front) word).2 := by
  induction words generalizing start with
  | nil =>
      exact absurd hend (Nat.not_lt.mpr hbegin)
  | cons word rest ih =>
      by_cases hhere : x < (ofWord start word).2
      · exact ⟨[], word, rest, rfl, hbegin, hhere⟩
      · rcases ih (Nat.le_of_not_lt hhere) hend with ⟨front, found, back, rfl, hfound⟩
        exact ⟨word :: front, found, back, rfl, hfound⟩

/-- What the first line of a table says holds of the code points that it covers. -/
theorem exists_run_of_lt {line : String} (rest : List String) {x : Nat}
    (hx : x < stop 0 (wordsOf line)) :
    ∃ run ∈ ofWords 0 (wordsOf line),
      run.start ≤ x ∧ (ofLines (line :: rest)).find x = some run := by
  rcases exists_word (Nat.zero_le x) hx with ⟨front, word, back, hline, hbegin, hend⟩
  have hwords : (line :: rest).flatMap wordsOf =
      front ++ word :: (back ++ rest.flatMap wordsOf) := by
    rw [List.flatMap_cons, hline, List.append_assoc]
    rfl
  refine ⟨_, ?_, ?_, find_ofLines hwords hbegin hend⟩
  · rw [hline, ofWords_append]
    exact List.mem_append_right _ List.mem_cons_self
  · rw [ofWord_start]
    exact hbegin

end Runs
end Unicode
end SiteGuard
