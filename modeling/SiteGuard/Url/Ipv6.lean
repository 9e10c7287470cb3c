import SiteGuard.Url.Ipv4

/-!
# IPv6 addresses

Eight groups of sixteen bits.  In text one run of zero groups may be left out,
and the last two groups may be written as a dotted address.  Printing leaves out
the first longest run of at least two zero groups.
-/

namespace SiteGuard

open Text

structure Ipv6 where
  groups : List UInt16
  size : groups.length = 8
  deriving DecidableEq

namespace Ipv6

def of? (groups : List UInt16) : Option Ipv6 :=
  if h : groups.length = 8 then some ⟨groups, h⟩ else none

/-! ## Reading -/

def group? (cs : List Char) : Option UInt16 :=
  if cs.length ≤ 4 then (natOfDigits? 16 cs).map UInt16.ofNat else none

/-- The groups of a colon-separated text that may end in a dotted address. -/
def groupsOf? : List (List Char) → Option (List UInt16)
  | [] => some []
  | [last] =>
    if last.contains '.' then
      (Ipv4.ofDotted? last).map fun a =>
        [UInt16.ofNat (a.value.toNat / 65536), UInt16.ofNat (a.value.toNat % 65536)]
    else (group? last).map fun g => [g]
  | piece :: rest => do
    let g ← group? piece
    some (g :: (← groupsOf? rest))

def cutGap : List Char → Option (List Char × List Char)
  | ':' :: ':' :: rest => some ([], rest)
  | c :: rest => (cutGap rest).map fun (before, after) => (c :: before, after)
  | [] => none

def colonPieces (cs : List Char) : List (List Char) :=
  if cs.isEmpty then [] else pieces ':' cs

def parse? (cs : List Char) : Option Ipv6 :=
  match cutGap cs with
  | none => do of? (← groupsOf? (colonPieces cs))
  | some (before, after) => do
    let front ← (colonPieces before).mapM group?
    let back ← groupsOf? (colonPieces after)
    let used := front.length + back.length
    if used < 8 then of? (front ++ List.replicate (8 - used) 0 ++ back) else none

/-! ## Printing -/

/-- Where the first longest run of zeros begins, and its length. -/
def longestZeros : List UInt16 → Nat × Nat
  | [] => (0, 0)
  | g :: rest =>
    let (start, length) := longestZeros rest
    let here := ((g :: rest).takeWhile (· == 0)).length
    if length ≤ here then (0, here) else (start + 1, length)

def groupText (g : UInt16) : List Char :=
  Nat.toDigits 16 g.toNat

def text (a : Ipv6) : List Char :=
  let (start, length) := longestZeros a.groups
  let shown := a.groups.map groupText
  if length < 2 then join ':' shown
  else join ':' (shown.take start) ++ ':' :: ':' :: join ':' (shown.drop (start + length))

def mapped? (a : Ipv6) : Option Ipv4 :=
  match a.groups with
  | [0, 0, 0, 0, 0, 0xFFFF, high, low] =>
    some ⟨UInt32.ofNat (high.toNat * 65536 + low.toNat)⟩
  | _ => none

end Ipv6
end SiteGuard
