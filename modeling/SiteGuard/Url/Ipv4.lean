import SiteGuard.Text

/-!
# IPv4 addresses

The dotted form has four decimal parts without leading zeros.  The loose form,
which hosts are read with, also takes octal and hexadecimal parts and fewer than
four of them; the last part then fills the places that are left.
-/

namespace SiteGuard

open Text

structure Ipv4 where
  value : UInt32
  deriving DecidableEq

namespace Ipv4

def octet (a : Ipv4) (place : Nat) : Nat :=
  a.value.toNat / Nat.pow 256 (3 - place) % 256

def ofOctets (a b c d : Nat) : Ipv4 :=
  ⟨UInt32.ofNat (((a * 256 + b) * 256 + c) * 256 + d)⟩

/-! ## Text -/

def text (a : Ipv4) : List Char :=
  join '.' ([0, 1, 2, 3].map fun place => (toString (a.octet place)).toList)

/-! ## The dotted form -/

def octet? (cs : List Char) : Option Nat :=
  if cs.head? = some '0' ∧ cs.length ≠ 1 then none
  else do
    let n ← natOfDigits? 10 cs
    if n < 256 then some n else none

def ofDotted? (cs : List Char) : Option Ipv4 :=
  match (pieces '.' cs).mapM octet? with
  | some [a, b, c, d] => some (ofOctets a b c d)
  | _ => none

/-! ## The loose form -/

def number? (cs : List Char) : Option Nat :=
  match cs with
  | [] => none
  | ['0'] => some 0
  | '0' :: c :: rest =>
    if c = 'x' ∨ c = 'X' then
      if rest.isEmpty then some 0 else natOfDigits? 16 rest
    else natOfDigits? 8 (c :: rest)
  | _ => natOfDigits? 10 cs

/-- The parts of a host; one dot at the end counts for nothing. -/
def hostParts (cs : List Char) : List (List Char) :=
  let parts := pieces '.' cs
  if parts.length ≠ 1 ∧ parts.getLast? = some [] then parts.dropLast else parts

/-- Whether a host is to be read as an address: its last part is a number. -/
def endsInNumber (cs : List Char) : Bool :=
  match (hostParts cs).getLast? with
  | some last => (!last.isEmpty && last.all isDecimalDigit) || (number? last).isSome
  | none => false

/-- The value of at most four numbers, of which all but the last are octets. -/
def combine? : (places : Nat) → List Nat → Option Nat
  | 0, _ => none
  | _, [] => none
  | places + 1, [last] => if last < Nat.pow 256 (places + 1) then some last else none
  | places + 1, n :: rest => do
    let low ← combine? places rest
    if n < 256 then some (n * Nat.pow 256 places + low) else none

def ofHost? (cs : List Char) : Option Ipv4 := do
  let numbers ← (hostParts cs).mapM number?
  let value ← combine? 4 numbers
  some ⟨UInt32.ofNat value⟩

end Ipv4
end SiteGuard
