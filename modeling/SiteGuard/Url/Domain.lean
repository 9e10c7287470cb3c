import SiteGuard.Unicode.BidiClass
import SiteGuard.Unicode.Category
import SiteGuard.Unicode.HostMapping
import SiteGuard.Unicode.JoiningType
import SiteGuard.Unicode.Normalization
import SiteGuard.Url.Punycode

/-!
# Domain names

The ASCII form of a domain by the rules of UTS 46 without transitional mappings:
characters are mapped and normalized, each label is checked, and labels outside
of ASCII are written in Punycode.  Empty labels, hyphens anywhere and labels of
any length are allowed.
-/

namespace SiteGuard
namespace Url
namespace Domain

open Unicode

/-! ## Characters -/

def isForbidden (c : Char) : Bool :=
  c.toNat ≤ 0x20 || c.toNat == 0x7F
    || ['%', '#', '/', ':', '<', '>', '?', '@', '[', '\\', ']', '^', '|'].contains c

/-- Characters of an ASCII form: no capitals, nothing forbidden. -/
def isPlain (c : Char) : Bool :=
  c.toNat < 128 && !isForbidden c && c.toLower == c

/-- What a character of a run becomes; none if it is refused. -/
def mapInRun (c : Char) (run : Run) : Option (List Char) :=
  match run.kind, run.args with
  | 'V', _ => some [c]
  | 'I', _ => some []
  | 'U', [_, distance] => some [Char.ofNat (c.toNat + distance)]
  | 'L', [_, distance] => some [Char.ofNat (c.toNat - distance)]
  | 'A', _ => some [if (c.toNat - run.start) % 2 = 0 then Char.ofNat (c.toNat + 1) else c]
  | 'S', targets => some (targets.map Char.ofNat)
  | 'R', _ :: targets => some (targets.map Char.ofNat)
  | _, _ => none

def mapChar (c : Char) : Option (List Char) :=
  (hostMapping.find c.toNat).bind (mapInRun c)

def mapText (cs : List Char) : Option (List Char) := do
  let parts ← cs.mapM mapChar
  some (normalize parts.flatten)

/-! ## Joiners -/

def isVirama (c : Char) : Bool :=
  combiningClass c = 9

/-- The joining type of the first character that is not transparent. -/
def nextJoining (cs : List Char) : JoiningType :=
  match cs.dropWhile fun c => joiningType c = .transparent with
  | [] => .none
  | c :: _ => joiningType c

/--
A joiner follows a virama; a non-joiner may also stand between characters that
would connect.  `before` holds the characters in front, the nearest one first.
-/
def joinersFit : (before : List Char) → List Char → Bool
  | _, [] => true
  | before, c :: rest =>
    let afterVirama :=
      match before with
      | p :: _ => isVirama p
      | [] => false
    let connects :=
      (nextJoining before == .left || nextJoining before == .dual)
        && (nextJoining rest == .right || nextJoining rest == .dual)
    let fits :=
      if c = '\u200D' then afterVirama
      else if c = '\u200C' then afterVirama || connects
      else true
    fits && joinersFit (c :: before) rest

/-! ## Directions -/

def isRightToLeft (k : BidiClass) : Bool :=
  k == .rightToLeft || k == .arabicLetter

def isNeutral : BidiClass → Bool
  | .europeanNumber => true
  | .europeanSeparator => true
  | .commonSeparator => true
  | .europeanTerminator => true
  | .otherNeutral => true
  | .boundaryNeutral => true
  | .nonspacingMark => true
  | _ => false

/-- The rule of RFC 5893 for one label. -/
def directionFits (label : List Char) : Bool :=
  let classes := label.map bidiClass
  match classes with
  | [] => true
  | first :: _ =>
    let last := (classes.reverse.dropWhile (· == .nonspacingMark)).head?
    if isRightToLeft first then
      classes.all (fun k => isRightToLeft k || k == .arabicNumber || isNeutral k)
        && (match last with
          | some k => isRightToLeft k || k == .europeanNumber || k == .arabicNumber
          | none => false)
        && !(classes.contains .europeanNumber && classes.contains .arabicNumber)
    else
      first == .leftToRight
        && classes.all (fun k => k == .leftToRight || isNeutral k)
        && (match last with
          | some k => k == .leftToRight || k == .europeanNumber
          | none => false)

/-! ## Labels -/

structure Label where
  text : List Char
  ascii : List Char

def aceStart : List Char := ['x', 'n', '-', '-']

def isAscii (cs : List Char) : Bool :=
  cs.all fun c => c.toNat < 128

/-- The checks on every label: no mark in front, joiners in place, nothing forbidden. -/
def isValid (text : List Char) : Bool :=
  (match text with
    | c :: _ => !isMark c
    | [] => true)
    && joinersFit [] text && !text.any isForbidden

/-- Reads a label of a mapped text; a coded label has to be the code of a mapped text. -/
def Label.of? (cs : List Char) : Option Label :=
  match Text.stripStart aceStart cs with
  | none =>
    if isValid cs then
      some ⟨cs, if isAscii cs then cs else aceStart ++ Punycode.encode cs⟩
    else none
  | some coded => do
    let text ← Punycode.decode? coded
    let stands := text.all fun c => mapChar c == some [c]
    if stands && normalize text == text && !isAscii text && !text.contains '.' && isValid text
    then some ⟨text, cs⟩
    else none

/-! ## Domains -/

/-- The labels of a domain; one label that runs from right to left binds them all to its rule. -/
def labels? (cs : List Char) : Option (List Label) := do
  let mapped ← mapText cs
  let labels ← (Text.pieces '.' mapped).mapM Label.of?
  let mixed := labels.any fun l => l.text.any fun c =>
    isRightToLeft (bidiClass c) || bidiClass c == .arabicNumber
  if mixed && !(labels.all fun l => directionFits l.text) then none else some labels

def convert? (cs : List Char) : Option (List Char) :=
  (labels? cs).map fun labels => Text.join '.' (labels.map (·.ascii))

/-- The ASCII form of a domain; it is its own ASCII form. -/
def toAscii? (cs : List Char) : Option (List Char) := do
  let ascii ← convert? cs
  if ascii.all isPlain && convert? ascii == some ascii then some ascii else none

end Domain
end Url
end SiteGuard
