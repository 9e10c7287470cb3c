/-!
# UTF-8

Bytes of a text and text of bytes.  `decode?` refuses bytes that are not UTF-8;
`decodeLossy` puts U+FFFD for each longest beginning of a sequence that cannot be
continued.
-/

namespace SiteGuard
namespace Text
namespace Utf8

def encode (cs : List Char) : List UInt8 :=
  cs.flatMap String.utf8EncodeChar

def byteCount (s : String) : Nat :=
  s.utf8ByteSize

/-- What a lead byte announces: continuation bytes, bounds of the first of them, payload. -/
structure Lead where
  more : Nat
  low : Nat
  high : Nat
  payload : Nat

/-- The bounds on the second byte keep out overlong forms, surrogates and values past U+10FFFF. -/
def lead? (b : Nat) : Option Lead :=
  if b < 0x80 then some ⟨0, 0x80, 0xBF, b⟩
  else if 0xC2 ≤ b ∧ b ≤ 0xDF then some ⟨1, 0x80, 0xBF, b - 0xC0⟩
  else if b = 0xE0 then some ⟨2, 0xA0, 0xBF, 0⟩
  else if b = 0xED then some ⟨2, 0x80, 0x9F, 0xD⟩
  else if 0xE1 ≤ b ∧ b ≤ 0xEF then some ⟨2, 0x80, 0xBF, b - 0xE0⟩
  else if b = 0xF0 then some ⟨3, 0x90, 0xBF, 0⟩
  else if b = 0xF4 then some ⟨3, 0x80, 0x8F, 4⟩
  else if 0xF1 ≤ b ∧ b ≤ 0xF3 then some ⟨3, 0x80, 0xBF, b - 0xF0⟩
  else none

/--
Reads the continuation bytes of one sequence: the character if it is complete,
and how many bytes belong to it or to its broken beginning.
-/
def continuation : (more low high value used : Nat) → List UInt8 → Option Char × Nat
  | 0, _, _, value, used, _ => (some (Char.ofNat value), used)
  | _ + 1, _, _, _, used, [] => (none, used)
  | more + 1, low, high, value, used, b :: rest =>
    if low ≤ b.toNat ∧ b.toNat ≤ high then
      continuation more 0x80 0xBF (value * 64 + (b.toNat - 0x80)) (used + 1) rest
    else (none, used)

/-- The first character of a byte list and the bytes it takes; none for a broken sequence. -/
def next (b : UInt8) (rest : List UInt8) : Option Char × Nat :=
  match lead? b.toNat with
  | none => (none, 1)
  | some l => continuation l.more l.low l.high l.payload 1 rest

/-- Decodes, with none for each broken sequence; the first argument counts bytes to skip. -/
def decodeFrom : Nat → List UInt8 → List (Option Char)
  | _, [] => []
  | skip + 1, _ :: rest => decodeFrom skip rest
  | 0, b :: rest =>
    let (c, used) := next b rest
    c :: decodeFrom (used - 1) rest

def decodeLossy (bytes : List UInt8) : List Char :=
  (decodeFrom 0 bytes).map (·.getD '\uFFFD')

def decode? (bytes : List UInt8) : Option (List Char) :=
  (decodeFrom 0 bytes).mapM id

end Utf8
end Text
end SiteGuard
