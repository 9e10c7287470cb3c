import SiteGuard.Text.Utf8
import SiteGuard.Text

/-!
# Percent encoding

The bytes of a text, written as ASCII.  A byte that a component of a URL may not
hold is written as a percent sign and two hexadecimal digits; decoding leaves a
percent sign alone that no two digits follow.
-/

namespace SiteGuard
namespace Url
namespace Percent

open Text

/-! ## Writing -/

def digit (n : Nat) : Char :=
  if n < 10 then Char.ofNat (48 + n) else Char.ofNat (55 + n)

def escape (b : UInt8) : List Char :=
  ['%', digit (b.toNat / 16), digit (b.toNat % 16)]

/-- A character as it is where it is ASCII and not reserved, else its bytes, escaped. -/
def encodeChar (reserved : Char → Bool) (c : Char) : List Char :=
  if c.toNat < 128 && !reserved c then [c] else (Utf8.encode [c]).flatMap escape

def encode (reserved : Char → Bool) (cs : List Char) : List Char :=
  cs.flatMap (encodeChar reserved)

/-! ## Reading -/

def decode : List Char → List UInt8
  | [] => []
  | '%' :: a :: b :: rest =>
    match digitValue? a, digitValue? b with
    | some x, some y => UInt8.ofNat (x * 16 + y) :: decode rest
    | _, _ => 0x25 :: decode (a :: b :: rest)
  | c :: rest => Utf8.encode [c] ++ decode rest

/-! ## Reserved characters -/

def isControl (c : Char) : Bool :=
  c.toNat < 0x20 || c.toNat == 0x7F

def inFragment (c : Char) : Bool :=
  isControl c || [' ', '"', '<', '>', '\x60'].contains c

def inQuery (c : Char) : Bool :=
  isControl c || [' ', '"', '#', '<', '>'].contains c

def inSpecialQuery (c : Char) : Bool :=
  inQuery c || c == '\''

def inPath (c : Char) : Bool :=
  inFragment c || ['#', '?', '\x7b', '\x7d'].contains c

def inUserinfo (c : Char) : Bool :=
  inPath c || ['/', ':', ';', '=', '@', '[', '\\', ']', '^', '|'].contains c

end Percent
end Url
end SiteGuard
