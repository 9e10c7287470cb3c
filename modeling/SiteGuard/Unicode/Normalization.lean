import SiteGuard.Unicode.CombiningClass
import SiteGuard.Unicode.Composites

/-!
# Normalization Form C

Characters are taken apart into their canonical parts, the combining marks after
each starter are put in the order of their classes, and what composes is
composed again.
-/

namespace SiteGuard
namespace Unicode

/-! ## Pairs -/

def isHangulSyllable (n : Nat) : Bool :=
  0xAC00 ≤ n && n < 0xAC00 + 11172

def split? (n : Nat) : Option (Nat × Nat) :=
  if isHangulSyllable n then
    let s := n - 0xAC00
    if s % 28 = 0 then some (0x1100 + s / 588, 0x1161 + s % 588 / 28)
    else some (n - s % 28, 0x11A7 + s % 28)
  else
    let key (i : Nat) : Nat :=
      match composites[i]? with
      | some c => c.whole
      | none => 0
    match composites[Runs.bisect key n 0 composites.size]? with
    | some c => if c.whole = n then some (c.first, c.second) else none
    | none => none

def compositesByPair : Array Composite :=
  composites.qsort fun a b =>
    a.first < b.first || (a.first == b.first && a.second < b.second)

def compose? (a b : Nat) : Option Nat :=
  if 0x1100 ≤ a ∧ a < 0x1113 ∧ 0x1161 ≤ b ∧ b < 0x1176 then
    some (0xAC00 + (a - 0x1100) * 588 + (b - 0x1161) * 28)
  else if isHangulSyllable a ∧ (a - 0xAC00) % 28 = 0 ∧ 0x11A8 ≤ b ∧ b < 0x11C3 then
    some (a + (b - 0x11A7))
  else
    let code (x y : Nat) : Nat := x * 0x200000 + y
    let key (i : Nat) : Nat :=
      match compositesByPair[i]? with
      | some c => code c.first c.second
      | none => 0
    match compositesByPair[Runs.bisect key (code a b) 0 compositesByPair.size]? with
    | some c => if c.first = a ∧ c.second = b then some c.whole else none
    | none => none

/-! ## Decomposition -/

/-- Takes a character apart; no chain of parts is longer than the first argument allows. -/
def decomposeChar : Nat → Nat → List Nat
  | 0, n => [n]
  | depth + 1, n =>
    match split? n with
    | some (a, b) => decomposeChar depth a ++ decomposeChar depth b
    | none => [n]

/-- Puts a character in front of a list, past the marks of lower class. -/
def placeMark (x : Nat × Nat) : List (Nat × Nat) → List (Nat × Nat)
  | [] => [x]
  | y :: rest =>
    if x.2 ≠ 0 ∧ y.2 ≠ 0 ∧ y.2 < x.2 then y :: placeMark x rest else x :: y :: rest

def decompose (cs : List Char) : List (Nat × Nat) :=
  let parts := cs.flatMap fun c => decomposeChar 8 c.toNat
  (parts.map fun n => (n, combiningClass (Char.ofNat n))).foldr placeMark []

/-! ## Composition -/

/-- A starter and the marks, newest first, that did not compose with it. -/
structure Cluster where
  starter : Nat
  marks : List (Nat × Nat)

def Cluster.chars (c : Cluster) : List Nat :=
  c.starter :: (c.marks.reverse.map (·.1))

/-- Composes the characters after a starter with it as far as no mark stands between. -/
def recompose : Cluster → List (Nat × Nat) → List Nat
  | cluster, [] => cluster.chars
  | cluster, (n, k) :: rest =>
    let reachable :=
      match cluster.marks with
      | [] => true
      | (_, last) :: _ => last < k
    match if reachable then compose? cluster.starter n else none with
    | some whole => recompose { cluster with starter := whole } rest
    | none =>
      if k = 0 then cluster.chars ++ recompose ⟨n, []⟩ rest
      else recompose { cluster with marks := (n, k) :: cluster.marks } rest

def recomposeAll (parts : List (Nat × Nat)) : List Nat :=
  let leading := parts.takeWhile fun p => p.2 ≠ 0
  match parts.drop leading.length with
  | [] => leading.map (·.1)
  | (n, _) :: rest => leading.map (·.1) ++ recompose ⟨n, []⟩ rest

/-- Normalization Form C of a text whose characters are each in that form. -/
def normalize (cs : List Char) : List Char :=
  if cs.all fun c => c.toNat < 0xC0 then cs
  else (recomposeAll (decompose cs)).map Char.ofNat

end Unicode
end SiteGuard
