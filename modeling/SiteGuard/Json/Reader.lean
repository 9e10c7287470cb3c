import SiteGuard.Json.Value
import SiteGuard.Text

/-!
# Reading JSON text

A reader takes text from the front and returns what is left.  The first problem
met from left to right is the one that is reported.  `fuel` bounds the number of
steps of each loop; the length of the text is enough.
-/

namespace SiteGuard
namespace Json

open Text

/-- What is wrong with a text: it breaks the grammar, stops too early, or has another type. -/
inductive Fault where
  | malformed
  | truncated
  | mismatched
  deriving DecidableEq, Repr

abbrev Reader (α : Type) : Type :=
  List Char → Except Fault (α × List Char)

/-! ## Characters -/

def isSpace (c : Char) : Bool :=
  c == ' ' || c == '\n' || c == '\t' || c == '\r'

def skipSpace (cs : List Char) : List Char :=
  cs.dropWhile isSpace

def expect : List Char → List Char → Except Fault (List Char)
  | [], cs => .ok cs
  | _ :: _, [] => .error .truncated
  | w :: ws, c :: cs => if w = c then expect ws cs else .error .malformed

/-! ## Strings -/

def hexDigits? (cs : List Char) : Option Nat :=
  natOfDigits? 16 cs

/-- Four hexadecimal digits; a text with fewer than four bytes left stops too early. -/
def hexUnit (cs : List Char) : Except Fault (Nat × List Char) :=
  let four := cs.take 4
  if (four.map Char.utf8Size).foldl (· + ·) 0 < 4 then .error .truncated
  else if four.length = 4 then
    match hexDigits? four with
    | some n => .ok (n, cs.drop 4)
    | none => .error .malformed
  else .error .malformed

def lowSurrogate : List Char → Except Fault (Nat × List Char)
  | [] => .error .truncated
  | ['\\'] => .error .truncated
  | '\\' :: 'u' :: rest => do
    let (n, rest) ← hexUnit rest
    if 0xDC00 ≤ n ∧ n ≤ 0xDFFF then .ok (n, rest) else .error .malformed
  | _ => .error .malformed

/-- The character of an escape, from the character after its backslash on. -/
def escape : List Char → Except Fault (Char × List Char)
  | [] => .error .truncated
  | '"' :: rest => .ok ('"', rest)
  | '\\' :: rest => .ok ('\\', rest)
  | '/' :: rest => .ok ('/', rest)
  | 'b' :: rest => .ok (Char.ofNat 8, rest)
  | 'f' :: rest => .ok (Char.ofNat 12, rest)
  | 'n' :: rest => .ok ('\n', rest)
  | 'r' :: rest => .ok ('\r', rest)
  | 't' :: rest => .ok ('\t', rest)
  | 'u' :: rest => do
    let (n, rest) ← hexUnit rest
    if 0xDC00 ≤ n ∧ n ≤ 0xDFFF then .error .malformed
    else if 0xD800 ≤ n ∧ n ≤ 0xDBFF then
      let (m, rest) ← lowSurrogate rest
      .ok (Char.ofNat (0x10000 + (n - 0xD800) * 1024 + (m - 0xDC00)), rest)
    else .ok (Char.ofNat n, rest)
  | _ => .error .malformed

def readChars : Nat → Reader (List Char)
  | 0, _ => .error .truncated
  | _ + 1, [] => .error .truncated
  | fuel + 1, c :: cs =>
    if c = '"' then .ok ([], cs)
    else if c = '\\' then do
      let (e, rest) ← escape cs
      let (more, rest) ← readChars fuel rest
      .ok (e :: more, rest)
    else if c.toNat < 32 then .error .malformed
    else do
      let (more, rest) ← readChars fuel cs
      .ok (c :: more, rest)

def readString (fuel : Nat) (cs : List Char) : Except Fault (String × List Char) := do
  let (chars, rest) ← readChars fuel cs
  .ok (String.ofList chars, rest)

/-- Skips a string from its first character on; the units of escapes may be anything. -/
def skipString : Nat → List Char → Except Fault (List Char)
  | 0, _ => .error .truncated
  | _ + 1, [] => .error .truncated
  | fuel + 1, c :: cs =>
    if c = '"' then .ok cs
    else if c = '\\' then
      match cs with
      | [] => .error .truncated
      | 'u' :: rest => do
        let (_, rest) ← hexUnit rest
        skipString fuel rest
      | e :: rest =>
        if "\"\\/bfnrt".contains e then skipString fuel rest else .error .malformed
    else if c.toNat < 32 then .error .malformed
    else skipString fuel cs

/-! ## Numbers -/

def digits (cs : List Char) : List Char × List Char :=
  (cs.takeWhile isDecimalDigit, cs.dropWhile isDecimalDigit)

def fractionPart : List Char → Except Fault (List Char × List Char)
  | '.' :: cs =>
    match digits cs with
    | ([], []) => .error .truncated
    | ([], _ :: _) => .error .malformed
    | (ds, rest) => .ok (ds, rest)
  | cs => .ok ([], cs)

def exponentPart (cs : List Char) : Except Fault (Option (Bool × List Char) × List Char) :=
  match cs with
  | [] => .ok (none, [])
  | c :: rest =>
    if c = 'e' ∨ c = 'E' then
      let (negative, rest) :=
        match rest with
        | '+' :: more => (false, more)
        | '-' :: more => (true, more)
        | _ => (false, rest)
      match digits rest with
      | ([], []) => .error .truncated
      | ([], _ :: _) => .error .malformed
      | (ds, rest) => .ok (some (negative, ds), rest)
    else .ok (none, cs)

/--
Whether a decimal is too large for a double: `mantissa · 10 ^ exponent` rounds
past the largest finite value.
-/
def overflows (mantissa : Nat) (exponent : Int) : Bool :=
  if mantissa = 0 then false
  else
    let size : Int := (toString mantissa).length + exponent
    if size < 300 then false
    else if 310 < size then true
    else
      let limit : Nat := Nat.pow 2 1024 - Nat.pow 2 970
      if 0 ≤ exponent then limit ≤ mantissa * Nat.pow 10 exponent.toNat
      else limit * Nat.pow 10 (-exponent).toNat ≤ mantissa

/-- The whole part of a number: a zero that no digit follows, or a run of digits. -/
def wholePart : List Char → Except Fault (List Char × List Char)
  | [] => .error .truncated
  | '0' :: rest =>
    match rest with
    | c :: _ => if isDecimalDigit c then .error .malformed else .ok (['0'], rest)
    | [] => .ok (['0'], rest)
  | cs =>
    match digits cs with
    | ([], _) => .error .malformed
    | (ds, rest) => .ok (ds, rest)

def natOf (ds : List Char) : Nat :=
  (natOfDigits? 10 ds).getD 0

def readNumber (cs : List Char) : Except Fault (Number × List Char) := do
  let (negative, body) :=
    match cs with
    | '-' :: rest => (true, rest)
    | _ => (false, cs)
  let (whole, rest) ← wholePart body
  let (fraction, rest) ← fractionPart rest
  let (exponent, rest) ← exponentPart rest
  let literal (_ : Unit) : String := String.ofList (cs.take (cs.length - rest.length))
  let n := natOf whole
  if fraction.isEmpty ∧ exponent.isNone then
    if negative then
      if 0 < n ∧ n ≤ UInt64.size / 2 then .ok (.whole (-(n : Int)), rest) else .ok (.real (literal ()), rest)
    else if n < UInt64.size then .ok (.whole n, rest)
    else if overflows n 0 then .error .malformed
    else .ok (.real (literal ()), rest)
  else
    let power : Int :=
      match exponent with
      | none => 0
      | some (true, ds) => -(natOf ds : Int)
      | some (false, ds) => natOf ds
    if overflows (natOf (whole ++ fraction)) (power - fraction.length) then .error .malformed
    else .ok (.real (literal ()), rest)

/-- Skips a number; one that stops too early breaks the grammar here. -/
def skipNumber (cs : List Char) : Except Fault (List Char) :=
  let body := (stripStart ['-'] cs).getD cs
  let parts : Except Fault (List Char) := do
    let (_, rest) ← wholePart body
    let (_, rest) ← fractionPart rest
    let (_, rest) ← exponentPart rest
    .ok rest
  match parts with
  | .ok rest => .ok rest
  | .error _ => .error .malformed

/-! ## Punctuation -/

/-- Whether another element follows in a list, and the text at it or at the closing bracket. -/
def nextElement (first : Bool) (cs : List Char) : Except Fault (Bool × List Char) :=
  match skipSpace cs with
  | [] => .error .truncated
  | c :: rest =>
    if c = ']' then .ok (false, c :: rest)
    else if first then .ok (true, c :: rest)
    else if c = ',' then
      match skipSpace rest with
      | [] => .error .truncated
      | ']' :: _ => .error .malformed
      | more => .ok (true, more)
    else .error .malformed

def nextKey (fuel : Nat) (first : Bool) (cs : List Char) :
    Except Fault (Option String × List Char) :=
  let key : List Char → Except Fault (Option String × List Char)
    | '"' :: rest => do
      let (k, rest) ← readString fuel rest
      .ok (some k, rest)
    | [] => .error .truncated
    | _ => .error .malformed
  match skipSpace cs with
  | [] => .error .truncated
  | c :: rest =>
    if c = '\x7d' then .ok (none, c :: rest)
    else if first then key (c :: rest)
    else if c = ',' then key (skipSpace rest)
    else .error .malformed

def colon (cs : List Char) : Except Fault (List Char) :=
  match skipSpace cs with
  | [] => .error .truncated
  | ':' :: rest => .ok rest
  | _ => .error .malformed

def close (bracket : Char) (cs : List Char) : Except Fault (List Char) :=
  match skipSpace cs with
  | [] => .error .truncated
  | c :: rest => if c = bracket then .ok rest else .error .malformed

/-- Reads the elements of a list, from after its opening bracket to after its closing one. -/
def readElements (one : Reader α) : Nat → Bool → Reader (List α)
  | 0, _, _ => .error .truncated
  | fuel + 1, first, cs => do
    match ← nextElement first cs with
    | (false, rest) => .ok ([], ← close ']' rest)
    | (true, rest) =>
      let (a, rest) ← one rest
      let (more, rest) ← readElements one fuel false rest
      .ok (a :: more, rest)

/--
Reads the members of an object, from after its opening brace to after its
closing one.  `step` reads the rest of a member from after its key on.
-/
def readMembers (keyFuel : Nat) (step : String → σ → Reader σ) : Nat → Bool → σ → Reader σ
  | 0, _, _, _ => .error .truncated
  | fuel + 1, first, state, cs => do
    match ← nextKey keyFuel first cs with
    | (none, rest) => .ok (state, ← close '\x7d' rest)
    | (some key, rest) =>
      let (state, rest) ← step key state rest
      readMembers keyFuel step fuel false state rest

/-! ## Any value -/

def depthLimit : Nat := 128

/-- Any value; the members of its objects are kept as they stand. -/
def readValue (fuel : Nat) : (depth : Nat) → Reader Json
  | 0, _ => .error .malformed
  | depth + 1, cs =>
    match skipSpace cs with
    | [] => .error .truncated
    | c :: rest =>
      if c = 'n' then do .ok (null, ← expect ['u', 'l', 'l'] rest)
      else if c = 't' then do .ok (bool true, ← expect ['r', 'u', 'e'] rest)
      else if c = 'f' then do .ok (bool false, ← expect ['a', 'l', 's', 'e'] rest)
      else if c = '-' ∨ isDecimalDigit c then do
        let (n, rest) ← readNumber (c :: rest)
        .ok (number n, rest)
      else if c = '"' then do
        let (s, rest) ← readString fuel rest
        .ok (text s, rest)
      else if (c = '[' ∨ c = '\x7b') ∧ depth = 0 then .error .malformed
      else if c = '[' then do
        let (items, rest) ← readElements (readValue fuel depth) fuel true rest
        .ok (list items, rest)
      else if c = '\x7b' then do
        let (members, rest) ←
          readMembers fuel
            (fun key seen cs => do
              let (v, rest) ← readValue fuel depth (← colon cs)
              .ok ((key, v) :: seen, rest))
            fuel true [] rest
        .ok (object members.reverse, rest)
      else .error .malformed

/--
The fault of a value that stands where another type is wanted: a scalar is read
to its end first, a list or an object is not.
-/
def mismatch (fuel : Nat) (cs : List Char) : Fault :=
  let scalar : Except Fault Unit :=
    match skipSpace cs with
    | [] => .error .truncated
    | c :: rest =>
      if c = 'n' then do let _ ← expect ['u', 'l', 'l'] rest
      else if c = 't' then do let _ ← expect ['r', 'u', 'e'] rest
      else if c = 'f' then do let _ ← expect ['a', 'l', 's', 'e'] rest
      else if c = '-' ∨ isDecimalDigit c then do let _ ← readNumber (c :: rest)
      else if c = '"' then do let _ ← readString fuel rest
      else if c = '[' ∨ c = '\x7b' then .ok ()
      else .error .malformed
  match scalar with
  | .ok () => .mismatched
  | .error fault => fault

/-! ## Skipping -/

/-- Where a skipped value stands: at a value, after an opening bracket, or after a value. -/
inductive Place where
  | value
  | opened
  | done

def skipKey (fuel : Nat) (cs : List Char) : Except Fault (List Char) := do
  match skipSpace cs with
  | [] => .error .truncated
  | '"' :: rest => colon (← skipString fuel rest)
  | _ => .error .malformed

/--
Skips one value of any depth.  `frames` holds the brackets that are open, the
innermost first, and `true` stands for a list.
-/
def skipFrom (textFuel : Nat) : Nat → Place → List Bool → List Char → Except Fault (List Char)
  | 0, _, _, _ => .error .truncated
  | fuel + 1, .value, frames, cs =>
    match skipSpace cs with
    | [] => .error .truncated
    | c :: rest =>
      if c = 'n' then do skipFrom textFuel fuel .done frames (← expect ['u', 'l', 'l'] rest)
      else if c = 't' then do skipFrom textFuel fuel .done frames (← expect ['r', 'u', 'e'] rest)
      else if c = 'f' then do
        skipFrom textFuel fuel .done frames (← expect ['a', 'l', 's', 'e'] rest)
      else if c = '-' ∨ isDecimalDigit c then do
        skipFrom textFuel fuel .done frames (← skipNumber (c :: rest))
      else if c = '"' then do skipFrom textFuel fuel .done frames (← skipString textFuel rest)
      else if c = '[' then skipFrom textFuel fuel .opened (true :: frames) rest
      else if c = '\x7b' then skipFrom textFuel fuel .opened (false :: frames) rest
      else .error .malformed
  | fuel + 1, .opened, frames, cs =>
    match frames, skipSpace cs with
    | [], rest => .ok rest
    | _ :: _, [] => .error .truncated
    | isList :: outer, c :: rest =>
      if c = (if isList then ']' else '\x7d') then skipFrom textFuel fuel .done outer rest
      else if isList then skipFrom textFuel fuel .value frames (c :: rest)
      else do skipFrom textFuel fuel .value frames (← skipKey textFuel (c :: rest))
  | _ + 1, .done, [], cs => .ok cs
  | fuel + 1, .done, isList :: outer, cs =>
    match skipSpace cs with
    | [] => .error .truncated
    | c :: rest =>
      if c = (if isList then ']' else '\x7d') then skipFrom textFuel fuel .done outer rest
      else if c = ',' then
        if isList then skipFrom textFuel fuel .value (isList :: outer) rest
        else do skipFrom textFuel fuel .value (isList :: outer) (← skipKey textFuel rest)
      else .error .malformed

def skipValue (fuel : Nat) (cs : List Char) : Except Fault (List Char) :=
  skipFrom fuel (3 * fuel + 1) .value [] cs

/-! ## Whole texts -/

def finish (r : α × List Char) : Except Fault α :=
  if (skipSpace r.2).isEmpty then .ok r.1 else .error .malformed

def parse (s : String) : Except Fault Json := do
  finish (← readValue (s.length + 1) depthLimit s.toList)

end Json
end SiteGuard
