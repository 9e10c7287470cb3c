import SiteGuard.Text

/-!
# Punycode

The encoding of RFC 3492.  The characters outside of ASCII are written in the
order of their code points as differences, in digits of base thirty-six whose
thresholds adapt to the differences seen.
-/

namespace SiteGuard
namespace Url
namespace Punycode

/-! ## Digits and thresholds -/

def digit (d : Nat) : Char :=
  if d < 26 then Char.ofNat (97 + d) else Char.ofNat (48 + (d - 26))

def value? (c : Char) : Option Nat :=
  let n := c.toNat
  if 97 ≤ n ∧ n ≤ 122 then some (n - 97)
  else if 65 ≤ n ∧ n ≤ 90 then some (n - 65)
  else if 48 ≤ n ∧ n ≤ 57 then some (n - 48 + 26)
  else none

/-- The threshold of the digit at position `k`, always between one and twenty-six. -/
def threshold (k bias : Nat) : Nat :=
  min 26 (max 1 (k - bias))

theorem one_le_threshold (k bias : Nat) : 1 ≤ threshold k bias := by
  unfold threshold
  omega

theorem threshold_le (k bias : Nat) : threshold k bias ≤ 26 := by
  unfold threshold
  omega

def shrink (delta k : Nat) : Nat :=
  if 455 < delta then shrink (delta / 35) (k + 36)
  else k + 36 * delta / (delta + 38)
termination_by delta
decreasing_by
  omega

def adapt (delta points : Nat) (first : Bool) : Nat :=
  let d := if first then delta / 700 else delta / 2
  shrink (d + d / points) 0

/-! ## Writing -/

/-- A difference as digits, the least significant one first. -/
def encodeNumber (bias k q : Nat) : List Char :=
  let t := threshold k bias
  if q < t then [digit q]
  else digit (t + (q - t) % (36 - t)) :: encodeNumber bias (k + 36) ((q - t) / (36 - t))
termination_by q
decreasing_by
  have h1 := one_le_threshold k bias
  have h2 := threshold_le k bias
  calc (q - threshold k bias) / (36 - threshold k bias)
      ≤ q - threshold k bias := Nat.div_le_self _ _
    _ < q := by omega

/-- The state of the writer: text so far, running difference, bias and characters written. -/
structure Writer where
  out : List Char
  delta : Nat
  bias : Nat
  written : Nat

/-- Passes one character of the text while the code point `m` is written. -/
def Writer.pass (basic m : Nat) (w : Writer) (c : Char) : Writer :=
  if c.toNat < m then { w with delta := w.delta + 1 }
  else if c.toNat = m then
    ⟨w.out ++ encodeNumber w.bias 36 w.delta, 0,
      adapt w.delta (w.written + 1) (w.written == basic), w.written + 1⟩
  else w

def encodePoints (text : List Char) (basic : Nat) : List Nat → Nat → Writer → Writer
  | [], _, w => w
  | m :: rest, n, w =>
    let start := { w with delta := w.delta + (m - n) * (w.written + 1) }
    let passed := text.foldl (Writer.pass basic m) start
    encodePoints text basic rest (m + 1) { passed with delta := passed.delta + 1 }

def insertPoint (x : Nat) : List Nat → List Nat
  | [] => [x]
  | y :: ys => if x < y then x :: y :: ys else if x = y then y :: ys else y :: insertPoint x ys

def encode (text : List Char) : List Char :=
  let basic := text.filter fun c => c.toNat < 128
  let points := text.foldr (fun c ps => if c.toNat < 128 then ps else insertPoint c.toNat ps) []
  let head := if basic.isEmpty then [] else basic ++ ['-']
  head ++ (encodePoints text basic.length points 128 ⟨[], 0, 72, basic.length⟩).out

/-! ## Reading -/

/-- A number in digits whose thresholds start at position `k`, and what follows it. -/
def decodeNumber (bias : Nat) : List Char → (k weight acc : Nat) → Option (Nat × List Char)
  | [], _, _, _ => none
  | c :: rest, k, weight, acc => do
    let d ← value? c
    let t := threshold k bias
    let acc := acc + d * weight
    if d < t then some (acc, rest) else decodeNumber bias rest (k + 36) (weight * (36 - t)) acc

/-- Inserts the coded characters; each step takes at least one digit, so `fuel` is a length. -/
def decodePoints : Nat → (n i bias : Nat) → List Char → List Char → Option (List Char)
  | 0, _, _, _, _, _ => none
  | _ + 1, _, _, _, out, [] => some out
  | fuel + 1, n, i, bias, out, cs => do
    let (j, rest) ← decodeNumber bias cs 36 1 i
    let size := out.length + 1
    let n := n + j / size
    let place := j % size
    if h : n.isValidChar then
      decodePoints fuel n (place + 1) (adapt (j - i) size (i == 0))
        (out.take place ++ Char.ofNatAux n h :: out.drop place) rest
    else none

/-- The text of a coded label; its plain characters stand before the last hyphen. -/
def decode? (cs : List Char) : Option (List Char) := do
  let (basic, coded) :=
    match Text.cutLast '-' cs with
    | some ([], _) => ([], cs)
    | some (before, after) => (before, after)
    | none => ([], cs)
  if basic.all fun c => c.toNat < 128 then decodePoints (coded.length + 1) 128 0 72 basic coded
  else none

end Punycode
end Url
end SiteGuard
