import SiteGuard.Text

/-!
# Tables of character runs

A table divides the code points, from zero on, into runs.  Its text is a list of
words, each a letter for the kind of the run and numbers in base thirty-six
joined by dots.  The first number is the length of the run, except that a run of
kind `S` is one character long.
-/

namespace SiteGuard
namespace Unicode

/-! ## Words -/

def digit36 (c : Char) : Nat :=
  if '0' ≤ c ∧ c ≤ '9' then c.toNat - 48 else c.toNat - 87

def number36 (cs : List Char) : Nat :=
  cs.foldl (fun n c => n * 36 + digit36 c) 0

def wordsOf (line : String) : List (List Char) :=
  Text.pieces ' ' line.toList

def numbersOf (word : List Char) : List Nat :=
  (Text.pieces '.' word).map number36

/-! ## Runs -/

structure Run where
  start : Nat
  kind : Char
  args : List Nat

abbrev Runs : Type := Array Run

namespace Runs

/-- The run of a word that begins at a code point, and the code point after it. -/
def ofWord (start : Nat) : List Char → Run × Nat
  | [] => (⟨start, 'X', []⟩, start)
  | kind :: digits =>
    let args := numbersOf digits
    (⟨start, kind, args⟩, start + if kind = 'S' then 1 else args.headD 0)

def ofLines (lines : List String) : Runs :=
  (lines.foldl
    (fun acc line =>
      (wordsOf line).foldl
        (fun (acc : Runs × Nat) word =>
          let (run, next) := ofWord acc.2 word
          (acc.1.push run, next))
        acc)
    (#[], 0)).1

/--
The last of the entries in `lo .. hi` whose key is at most `x`, where the entry
at `lo` is known to qualify.
-/
def bisect (key : Nat → Nat) (x lo hi : Nat) : Nat :=
  if hi ≤ lo + 1 then lo
  else
    let middle := (lo + hi) / 2
    if key middle ≤ x then bisect key x middle hi else bisect key x lo middle
termination_by hi - lo
decreasing_by
  all_goals omega

def find (runs : Runs) (x : Nat) : Option Run :=
  let key (i : Nat) : Nat :=
    match runs[i]? with
    | some run => run.start
    | none => 0
  runs[bisect key x 0 runs.size]?

end Runs
end Unicode
end SiteGuard
