/-!
# Character sets

Sets of characters as increasing ranges of code points.  Letter case is ASCII
only.
-/

namespace SiteGuard
namespace Pattern

/-- The characters from the first to the last code point. -/
structure Range where
  first : Nat
  last : Nat
  deriving DecidableEq, Repr

abbrev CharSet : Type := List Range

namespace CharSet

def lastCode : Nat := 0x10FFFF

def all : CharSet := [⟨0, lastCode⟩]

/-! ## Membership -/

def holds (s : CharSet) (c : Char) : Bool :=
  s.any fun r => r.first ≤ c.toNat && c.toNat ≤ r.last

/-! ## Canonical form -/

/-- Puts a range into its place; ranges that it touches or overlaps become one with it. -/
def insert (r : Range) : CharSet → CharSet
  | [] => [r]
  | s :: rest =>
    if r.last + 1 < s.first then r :: s :: rest
    else if s.last + 1 < r.first then s :: insert r rest
    else insert ⟨min r.first s.first, max r.last s.last⟩ rest

def ofRanges (rs : List Range) : CharSet :=
  rs.foldl (fun s r => insert r s) []

def single (c : Char) : CharSet :=
  [⟨c.toNat, c.toNat⟩]

def gaps (start : Nat) : CharSet → CharSet
  | [] => if start ≤ lastCode then [⟨start, lastCode⟩] else []
  | r :: rest =>
    if start < r.first then ⟨start, r.first - 1⟩ :: gaps (r.last + 1) rest
    else gaps (r.last + 1) rest

def negate (s : CharSet) : CharSet :=
  gaps 0 s

/-! ## Letter case -/

/--
The other case of the letters in a range: the capitals of its small letters, or
the small letters of its capitals if it has no small ones.
-/
def foldRange (r : Range) : List Range :=
  if r.first ≤ 122 ∧ 97 ≤ r.last then [⟨max r.first 97 - 32, min r.last 122 - 32⟩]
  else if r.first ≤ 90 ∧ 65 ≤ r.last then [⟨max r.first 65 + 32, min r.last 90 + 32⟩]
  else []

def foldCase (s : CharSet) : CharSet :=
  ofRanges (s ++ s.flatMap foldRange)

/-! ## Named sets -/

def span (first last : Char) : Range :=
  ⟨first.toNat, last.toNat⟩

def digits : CharSet := [span '0' '9']

def spaces : CharSet := ofRanges [span '\t' '\r', span ' ' ' ']

def wordChars : CharSet :=
  ofRanges [span '0' '9', span 'A' 'Z', span '_' '_', span 'a' 'z']

def named? : String → Option CharSet
  | "alnum" => some (ofRanges [span '0' '9', span 'A' 'Z', span 'a' 'z'])
  | "alpha" => some (ofRanges [span 'A' 'Z', span 'a' 'z'])
  | "ascii" => some [⟨0, 0x7F⟩]
  | "blank" => some (ofRanges [span '\t' '\t', span ' ' ' '])
  | "cntrl" => some (ofRanges [⟨0, 0x1F⟩, ⟨0x7F, 0x7F⟩])
  | "digit" => some digits
  | "graph" => some [span '!' '~']
  | "lower" => some [span 'a' 'z']
  | "print" => some [span ' ' '~']
  | "punct" => some (ofRanges [span '!' '/', span ':' '@', ⟨0x5B, 0x60⟩, ⟨0x7B, 0x7E⟩])
  | "space" => some spaces
  | "upper" => some [span 'A' 'Z']
  | "word" => some wordChars
  | "xdigit" => some (ofRanges [span '0' '9', span 'A' 'F', span 'a' 'f'])
  | _ => none

end CharSet
end Pattern
end SiteGuard
