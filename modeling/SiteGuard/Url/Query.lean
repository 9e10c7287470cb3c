import SiteGuard.Url.Percent

/-!
# Query pairs

The form encoding of a list of pairs: names and values are written byte by byte,
a space becomes a plus sign, and `=` and `&` separate.  Reading skips empty parts
and takes a part without `=` as a name with an empty value.
-/

namespace SiteGuard
namespace Url
namespace Query

open Text

/-! ## Writing -/

def isPlainByte (b : UInt8) : Bool :=
  let n := b.toNat
  (48 ≤ n && n ≤ 57) || (65 ≤ n && n ≤ 90) || (97 ≤ n && n ≤ 122)
    || n == 42 || n == 45 || n == 46 || n == 95

def writeByte (b : UInt8) : List Char :=
  if isPlainByte b then [Char.ofNat b.toNat]
  else if b.toNat = 32 then ['+']
  else Percent.escape b

def writePart (s : String) : List Char :=
  (Utf8.encode s.toList).flatMap writeByte

def writePair (pair : String × String) : List Char :=
  writePart pair.1 ++ '=' :: writePart pair.2

def write (pairs : List (String × String)) : List Char :=
  join '&' (pairs.map writePair)

/-! ## Reading -/

def readPart (cs : List Char) : String :=
  String.ofList
    (Utf8.decodeLossy (Percent.decode (cs.map fun c => if c = '+' then ' ' else c)))

def readPair (cs : List Char) : String × String :=
  match cut '=' cs with
  | some (name, value) => (readPart name, readPart value)
  | none => (readPart cs, "")

def read (cs : List Char) : List (String × String) :=
  ((pieces '&' cs).filter fun part => !part.isEmpty).map readPair

end Query
end Url
end SiteGuard
