import SiteGuard.Pattern.Syntax
import SiteGuard.Text
import SiteGuard.Unicode.Category

/-!
# Reading patterns

The syntax of patterns: alternatives of sequences of items, where an item may be
repeated.  Groups can set flags for what follows inside of them.  There are no
look-arounds, no references to groups and no classes by Unicode property.
Readers return none for a text that is not a pattern.
-/

namespace SiteGuard
namespace Pattern

open Text

structure Flags where
  caseless : Bool
  multiLine : Bool
  dotAll : Bool
  crlf : Bool
  swapGreed : Bool
  verbose : Bool

namespace Flags

def none : Flags := ⟨false, false, false, false, false, false⟩

def set? (f : Flags) (letter : Char) (value : Bool) : Option Flags :=
  if letter = 'i' then some { f with caseless := value }
  else if letter = 'm' then some { f with multiLine := value }
  else if letter = 's' then some { f with dotAll := value }
  else if letter = 'R' then some { f with crlf := value }
  else if letter = 'U' then some { f with swapGreed := value }
  else if letter = 'x' then some { f with verbose := value }
  else Option.none

end Flags

/-! ## Blanks -/

/-- Drops blanks, and comments up to the end of their line, where blanks mean nothing. -/
def skipVerbose : (comment : Bool) → List Char → List Char
  | _, [] => []
  | true, c :: rest => skipVerbose (c != '\n') rest
  | false, c :: rest =>
    if isBlank c then skipVerbose false rest
    else if c = '#' then skipVerbose true rest
    else c :: rest

def skip (f : Flags) (cs : List Char) : List Char :=
  if f.verbose then skipVerbose false cs else cs

/-- The next character that counts, where a mark of a comment is skipped like a blank. -/
def glance (f : Flags) (cs : List Char) : Option Char :=
  if f.verbose then
    match cs.dropWhile isBlank with
    | '#' :: rest => ((rest.dropWhile isBlank).head?).or cs.head?
    | rest => rest.head?.or cs.head?
  else cs.head?

/-! ## Characters -/

def charNode (f : Flags) (c : Char) : Node :=
  if f.caseless ∧ c.isAlpha then .set (CharSet.foldCase (CharSet.single c)) else .char c

def dotNode (f : Flags) : Node :=
  if f.dotAll then .set CharSet.all
  else if f.crlf then .set (CharSet.negate (CharSet.ofRanges [⟨10, 10⟩, ⟨13, 13⟩]))
  else .set (CharSet.negate [⟨10, 10⟩])

def startNode (f : Flags) : Node :=
  .look (if f.multiLine then if f.crlf then .lineStartCrlf else .lineStart else .start)

def finishNode (f : Flags) : Node :=
  .look (if f.multiLine then if f.crlf then .lineFinishCrlf else .lineFinish else .finish)

/-! ## Escapes -/

def charOfCode? (n : Nat) : Option Char :=
  if n.isValidChar then some (Char.ofNat n) else none

/-- A fixed number of hexadecimal digits; blanks may stand between and behind them. -/
def fixedHex (f : Flags) : Nat → (value : Nat) → List Char → Option (Nat × List Char)
  | 0, value, cs => some (value, cs)
  | _ + 1, _, [] => none
  | n + 1, value, c :: rest => do
    let d ← digitValue? c
    fixedHex f n (value * 16 + d) (skip f rest)

def bracedHex (f : Flags) (value : Option Nat) : (fuel : Nat) → List Char → Option (Nat × List Char)
  | 0, _ => none
  | fuel + 1, cs =>
    match cs with
    | [] => none
    | '\x7d' :: rest => do some (← value, skip f rest)
    | c :: rest => do
      let d ← digitValue? c
      bracedHex f (some (value.getD 0 * 16 + d)) fuel (skip f rest)

/-- A character by its code point, from after the letter that tells the number of digits. -/
def hexEscape (f : Flags) (digits : Nat) (cs : List Char) : Option (Node × List Char) := do
  let (n, rest) ←
    match skip f cs with
    | '\x7b' :: rest => bracedHex f none (rest.length + 1) (skip f rest)
    | rest => fixedHex f digits 0 rest
  some (charNode f (← charOfCode? n), rest)

def isEdgeNameChar (c : Char) : Bool :=
  c.isAlpha || c == '-'

/-- The letters and hyphens of a name in braces, where blanks mean nothing. -/
def edgeName (f : Flags) : (fuel : Nat) → List Char → List Char × List Char
  | 0, cs => ([], cs)
  | fuel + 1, cs =>
    match cs with
    | c :: rest =>
      if isEdgeNameChar c then
        let (name, rest) := edgeName f fuel (skip f rest)
        (c :: name, rest)
      else ([], cs)
    | [] => ([], [])

def edgeOf? : String → Option Look
  | "start" => some .wordStart
  | "end" => some .wordFinish
  | "start-half" => some .wordStartHalf
  | "end-half" => some .wordFinishHalf
  | _ => none

/-- A word edge, which a name in braces may make one-sided; other braces are left alone. -/
def wordEdge (f : Flags) (cs : List Char) : Option (Node × List Char) :=
  match cs with
  | '\x7b' :: rest =>
    match skip f rest with
    | [] => none
    | c :: more =>
      if isEdgeNameChar c then
        match edgeName f (more.length + 1) (c :: more) with
        | (name, '\x7d' :: rest) => do some (.look (← edgeOf? (String.ofList name)), rest)
        | _ => none
      else some (.look .wordEdge, cs)
  | _ => some (.look .wordEdge, cs)

def classOf? (c : Char) : Option CharSet :=
  match c with
  | 'd' => some CharSet.digits
  | 's' => some CharSet.spaces
  | 'w' => some CharSet.wordChars
  | 'D' => some (CharSet.negate CharSet.digits)
  | 'S' => some (CharSet.negate CharSet.spaces)
  | 'W' => some (CharSet.negate CharSet.wordChars)
  | _ => none

def isEscapable (c : Char) : Bool :=
  c.toNat < 128 && !c.isAlphanum && c != '<' && c != '>'

def escape (f : Flags) : List Char → Option (Node × List Char)
  | [] => none
  | c :: rest =>
    match c with
    | 'x' => hexEscape f 2 rest
    | 'u' => hexEscape f 4 rest
    | 'U' => hexEscape f 8 rest
    | 'a' => some (charNode f (Char.ofNat 7), rest)
    | 'f' => some (charNode f (Char.ofNat 12), rest)
    | 't' => some (charNode f '\t', rest)
    | 'n' => some (charNode f '\n', rest)
    | 'r' => some (charNode f '\r', rest)
    | 'v' => some (charNode f (Char.ofNat 11), rest)
    | 'A' => some (.look .start, rest)
    | 'z' => some (.look .finish, rest)
    | 'b' => wordEdge f rest
    | 'B' => some (.look .notWordEdge, rest)
    | '<' => some (.look .wordStart, rest)
    | '>' => some (.look .wordFinish, rest)
    | _ =>
      match classOf? c with
      | some s => some (.set s, rest)
      | none => if isEscapable c then some (charNode f c, rest) else none

/-! ## Classes -/

def classItem (f : Flags) : List Char → Option (Node × List Char)
  | [] => none
  | '\\' :: rest => escape f rest
  | c :: rest => some (.char c, rest)

def rangesOf? : Node → Option CharSet
  | .char c => some (CharSet.single c)
  | .set s => some s
  | _ => none

def literal? : Node → Option Char
  | .char c => some c
  | _ => none

/-- A named set in brackets and colons, from after the opening bracket on. -/
def namedClass : List Char → Option (CharSet × List Char)
  | ':' :: cs => do
    let (negated, cs) :=
      match cs with
      | '^' :: rest => (true, rest)
      | _ => (false, cs)
    let (name, rest) ← cut ':' cs
    let s ← CharSet.named? (String.ofList name)
    some (if negated then s.negate else s, ← stripStart [']'] rest)
  | _ => none

def classRange (f : Flags) (cs : List Char) : Option (CharSet × List Char) := do
  let (first, rest) ← classItem f cs
  match skip f rest with
  | [] => none
  | '-' :: more =>
    if glance f more = some ']' ∨ glance f more = some '-' then
      some (← rangesOf? first, '-' :: more)
    else
      let (last, rest) ← classItem f (skip f more)
      let a ← literal? first
      let b ← literal? last
      if a.toNat ≤ b.toNat then some ([⟨a.toNat, b.toNat⟩], rest) else none
  | rest => do some (← rangesOf? first, rest)

def classItems (f : Flags) : (fuel : Nat) → List Range → List Char → Option (CharSet × List Char)
  | 0, _, _ => none
  | fuel + 1, found, cs =>
    match skip f cs with
    | [] => none
    | ']' :: rest => some (CharSet.ofRanges found, rest)
    | '[' :: rest => do
      let (s, rest) ← namedClass rest
      classItems f fuel (found ++ s) rest
    | '&' :: '&' :: _ => none
    | '-' :: '-' :: _ => none
    | '~' :: '~' :: _ => none
    | rest => do
      let (s, rest) ← classRange f rest
      classItems f fuel (found ++ s) rest

def leadingHyphens (f : Flags) : (fuel : Nat) → List Char → List Range × List Char
  | 0, cs => ([], cs)
  | fuel + 1, cs =>
    match cs with
    | '-' :: rest =>
      let (found, rest) := leadingHyphens f fuel (skip f rest)
      (CharSet.span '-' '-' :: found, rest)
    | _ => ([], cs)

def readClass (f : Flags) (cs : List Char) : Option (Node × List Char) := do
  let (negated, cs) :=
    match skip f cs with
    | '^' :: rest => (true, skip f rest)
    | rest => (false, rest)
  let (found, cs) := leadingHyphens f (cs.length + 1) cs
  let (found, cs) :=
    match found, cs with
    | [], ']' :: rest => ([CharSet.span ']' ']'], skip f rest)
    | _, _ => (found, cs)
  let (s, rest) ← classItems f (cs.length + 1) found cs
  let s := if f.caseless then s.foldCase else s
  some (.set (if negated then s.negate else s), rest)

/-! ## Repetition -/

def boundDigits (f : Flags) : (fuel : Nat) → List Char → List Char × List Char
  | 0, cs => ([], cs)
  | fuel + 1, cs =>
    match cs with
    | c :: rest =>
      if isDecimalDigit c then
        let (ds, rest) := boundDigits f fuel (skip f rest)
        (c :: ds, rest)
      else ([], cs)
    | [] => ([], [])

def skipAfterBound (f : Flags) : (fuel : Nat) → List Char → List Char
  | 0, cs => cs
  | fuel + 1, cs =>
    match cs with
    | c :: rest => if isBlank c then skipAfterBound f fuel (skip f rest) else cs
    | [] => []

def readBound (f : Flags) (cs : List Char) : Option (Nat × List Char) := do
  let start := cs.dropWhile isBlank
  let (ds, rest) := boundDigits f (start.length + 1) start
  let n ← natOfDigits? 10 ds
  if n < UInt32.size then some (n, skipAfterBound f (rest.length + 1) rest) else none

def skipLazy : List Char → List Char
  | '?' :: rest => rest
  | cs => cs

def readBounds (f : Flags) (cs : List Char) : Option (Nat × Option Nat × List Char) := do
  let (least, rest) ←
    match skip f cs with
    | [] => none
    | rest => readBound f rest
  let (most, rest) ←
    match rest with
    | ',' :: rest =>
      match skip f rest with
      | [] => none
      | '\x7d' :: more => some (none, '\x7d' :: more)
      | more => do
        let (most, rest) ← readBound f more
        some (some most, rest)
    | _ => some (some least, rest)
  let ordered :=
    match most with
    | some most => decide (least ≤ most)
    | none => true
  match rest with
  | '\x7d' :: rest => if ordered then some (least, most, skipLazy (skip f rest)) else none
  | _ => none

/-- Replaces the last item by its repetition; `items` holds the last item first. -/
def repeatLast (least : Nat) (most : Option Nat) : List Node → Option (List Node)
  | [] => none
  | last :: rest => some (Node.repeating least most last :: rest)

/-! ## Groups -/

def readFlags (f : Flags) :
    (fuel : Nat) → Flags → (negated dangling : Bool) → (seen : List Char) → List Char →
      Option (Flags × List Char)
  | 0, _, _, _, _, _ => none
  | fuel + 1, flags, negated, dangling, seen, cs =>
    match cs with
    | [] => none
    | c :: rest =>
      if c = ':' ∨ c = ')' then if dangling then none else some (flags, cs)
      else if c = '-' then
        if negated then none else readFlags f fuel flags true true seen (skip f rest)
      else do
        let flags ← flags.set? c !negated
        if seen.contains c then none
        else readFlags f fuel flags negated false (c :: seen) (skip f rest)

def isNameChar (first : Bool) (c : Char) : Bool :=
  if first then c == '_' || Unicode.isLetter c
  else c == '_' || c == '.' || c == '[' || c == ']' || Unicode.isLetterOrNumber c

def readName (cs : List Char) : Option (List Char × List Char) := do
  let (name, rest) ← cut '>' cs
  match name with
  | [] => none
  | c :: more => if isNameChar true c && more.all (isNameChar false) then some (name, rest) else none

inductive Opening where
  | directive (flags : Flags)
  | scoped (flags : Flags)
  | capture (name : Option (List Char))

def readOpening (f : Flags) (cs : List Char) : Option (Opening × List Char) :=
  match skip f cs with
  | '?' :: '=' :: _ => none
  | '?' :: '!' :: _ => none
  | '?' :: '<' :: '=' :: _ => none
  | '?' :: '<' :: '!' :: _ => none
  | '?' :: 'P' :: '<' :: rest => (readName rest).map fun (name, rest) => (.capture (some name), rest)
  | '?' :: '<' :: rest => (readName rest).map fun (name, rest) => (.capture (some name), rest)
  | '?' :: ')' :: _ => none
  | '?' :: rest =>
    match readFlags f (rest.length + 1) f false false [] rest with
    | some (flags, ':' :: rest) => some (.scoped flags, rest)
    | some (flags, rest) => some (.directive flags, rest)
    | none => none
  | rest => some (.capture none, rest)

/-! ## Whole patterns -/

def nestLimit : Nat := 50

/-- What has been read at one level: the finished alternatives and the items of the last one. -/
structure Level where
  alternatives : List Node
  items : List Node

def Level.empty : Level := ⟨[], []⟩

def Level.push (l : Level) (n : Node) : Level :=
  { l with items := n :: l.items }

def Level.next (l : Level) : Level :=
  ⟨Node.sequenceOf l.items.reverse :: l.alternatives, []⟩

def Level.node (l : Level) : Node :=
  Node.choiceOf l.next.alternatives.reverse

/--
Reads one level up to the parenthesis that closes it or to the end of the text.
`names` holds the names of the groups so far.
-/
def readLevel :
    (fuel : Nat) → (depth : Nat) → Flags → (names : List (List Char)) → Level → List Char →
      Option (Node × List (List Char) × List Char)
  | 0, _, _, _, _, _ => none
  | fuel + 1, depth, f, names, level, cs =>
    match skip f cs with
    | [] => some (level.node, names, [])
    | c :: rest =>
      if c = '(' then do
        let (opening, rest) ← readOpening f rest
        match opening with
        | .directive flags =>
          match rest with
          | ')' :: rest => readLevel fuel depth flags names level rest
          | _ => none
        | .scoped flags =>
          if depth = nestLimit then none
          else
            match ← readLevel fuel (depth + 1) flags names .empty rest with
            | (sub, names, ')' :: rest) => readLevel fuel depth f names (level.push sub) rest
            | _ => none
        | .capture name =>
          let known := (name.map names.contains).getD false
          if known ∨ depth = nestLimit then none
          else
            let names := name.toList ++ names
            match ← readLevel fuel (depth + 1) f names .empty rest with
            | (sub, names, ')' :: rest) =>
              let nameBytes := name.map fun n => (n.map Char.utf8Size).sum
              readLevel fuel depth f names (level.push (.group nameBytes sub)) rest
            | _ => none
      else if c = ')' then if depth = 0 then none else some (level.node, names, c :: rest)
      else if c = '|' then readLevel fuel depth f names level.next rest
      else if c = '[' then do
        let (n, rest) ← readClass f rest
        readLevel fuel depth f names (level.push n) rest
      else if c = '?' then do
        let items ← repeatLast 0 (some 1) level.items
        readLevel fuel depth f names { level with items } (skipLazy rest)
      else if c = '*' then do
        let items ← repeatLast 0 none level.items
        readLevel fuel depth f names { level with items } (skipLazy rest)
      else if c = '+' then do
        let items ← repeatLast 1 none level.items
        readLevel fuel depth f names { level with items } (skipLazy rest)
      else if c = '\x7b' then do
        let (least, most, rest) ← readBounds f rest
        let items ← repeatLast least most level.items
        readLevel fuel depth f names { level with items } rest
      else if c = '\\' then do
        let (n, rest) ← escape f rest
        readLevel fuel depth f names (level.push n) rest
      else
        let n :=
          if c = '.' then dotNode f
          else if c = '^' then startNode f
          else if c = '$' then finishNode f
          else charNode f c
        readLevel fuel depth f names (level.push n) rest

def parse? (cs : List Char) : Option Node :=
  match readLevel (cs.length + 1) 0 Flags.none [] .empty cs with
  | some (n, _, []) => if n.withinDepth nestLimit then some n else none
  | _ => none

end Pattern
end SiteGuard
