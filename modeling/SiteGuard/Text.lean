/-!
# Text

Operations on character lists that the rest of the library reads hosts,
patterns, addresses and times with.  Blank space is the Unicode White_Space
property; letter case is ASCII only.
-/

namespace SiteGuard
namespace Text

/-! ## Blank space -/

def isBlank (c : Char) : Bool :=
  let n := c.toNat
  (0x09 ≤ n && n ≤ 0x0D) || n == 0x20 || n == 0x85 || n == 0xA0 || n == 0x1680
    || (0x2000 ≤ n && n ≤ 0x200A) || n == 0x2028 || n == 0x2029 || n == 0x202F
    || n == 0x205F || n == 0x3000

def trimStart (cs : List Char) : List Char :=
  cs.dropWhile isBlank

def trimEnd (cs : List Char) : List Char :=
  (cs.reverse.dropWhile isBlank).reverse

def trim (cs : List Char) : List Char :=
  trimEnd (trimStart cs)

/-! ## Letter case -/

/-- Maps the ASCII capitals to small letters and keeps every other character. -/
def lower (cs : List Char) : List Char :=
  cs.map Char.toLower

/-! ## Cutting -/

/-- Splits at the first occurrence of a character, which belongs to neither part. -/
def cut (sep : Char) : List Char → Option (List Char × List Char)
  | [] => none
  | c :: rest =>
    if c = sep then some ([], rest)
    else (cut sep rest).map fun (before, after) => (c :: before, after)

/-- Splits at the last occurrence of a character, which belongs to neither part. -/
def cutLast (sep : Char) (cs : List Char) : Option (List Char × List Char) :=
  (cut sep cs.reverse).map fun (after, before) => (before.reverse, after.reverse)

def stripStart : List Char → List Char → Option (List Char)
  | [], cs => some cs
  | _ :: _, [] => none
  | p :: ps, c :: cs => if p = c then stripStart ps cs else none

/-- The pieces between the occurrences of a separator; there is always at least one. -/
def pieces (sep : Char) : List Char → List (List Char)
  | [] => [[]]
  | c :: rest =>
    if c = sep then [] :: pieces sep rest
    else
      match pieces sep rest with
      | [] => [[c]]
      | piece :: more => (c :: piece) :: more

def join (sep : Char) : List (List Char) → List Char
  | [] => []
  | [piece] => piece
  | piece :: more => piece ++ sep :: join sep more

theorem pieces_ne_nil (sep : Char) (cs : List Char) : pieces sep cs ≠ [] := by
  cases cs with
  | nil =>
      simp [pieces]
  | cons c rest =>
      unfold pieces
      split
      · simp
      · split <;> simp

/-! ## Searching -/

def occursIn (needle : List Char) : List Char → Bool
  | [] => needle.isEmpty
  | c :: rest => needle.isPrefixOf (c :: rest) || occursIn needle rest

/--
Puts `value` for every occurrence of `mark`, from left to right; the first
argument counts the characters of an occurrence that are still to be dropped.
-/
def substituteFrom (mark value : List Char) : Nat → List Char → List Char
  | _, [] => []
  | skip + 1, _ :: rest => substituteFrom mark value skip rest
  | 0, c :: rest =>
    if mark.isPrefixOf (c :: rest) then
      value ++ substituteFrom mark value (mark.length - 1) rest
    else c :: substituteFrom mark value 0 rest

def substitute (mark value : String) (s : String) : String :=
  String.ofList (substituteFrom mark.toList value.toList 0 s.toList)

/-! ## Numbers -/

def digitValue? (c : Char) : Option Nat :=
  if '0' ≤ c ∧ c ≤ '9' then some (c.toNat - '0'.toNat)
  else if 'a' ≤ c ∧ c ≤ 'f' then some (c.toNat - 'a'.toNat + 10)
  else if 'A' ≤ c ∧ c ≤ 'F' then some (c.toNat - 'A'.toNat + 10)
  else none

def isDecimalDigit (c : Char) : Bool :=
  '0' ≤ c && c ≤ '9'

/-- The value of a run of digits in a base; none if the run is empty or has another character. -/
def natOfDigits? (base : Nat) : List Char → Option Nat
  | [] => none
  | cs =>
    cs.foldl
      (fun acc c =>
        match acc, digitValue? c with
        | some n, some d => if d < base then some (n * base + d) else none
        | _, _ => none)
      (some 0)

/-- An unsigned decimal number below a bound; one plus sign in front is allowed. -/
def boundedNat? (bound : Nat) (cs : List Char) : Option Nat := do
  let n ← natOfDigits? 10 ((stripStart ['+'] cs).getD cs)
  if n < bound then some n else none

/-- Two digits at least, with a leading zero where needed. -/
def twoDigits (n : Nat) : String :=
  if n < 10 then "0" ++ toString n else toString n

/-- As many digits as asked for at least, with zeros in front. -/
def padded (width n : Nat) : String :=
  let digits := toString n
  String.ofList (List.replicate (width - digits.length) '0') ++ digits

/-! ## The same operations on strings -/

def trimmed (s : String) : String :=
  String.ofList (trim s.toList)

def isBlankString (s : String) : Bool :=
  (trim s.toList).isEmpty

end Text
end SiteGuard
