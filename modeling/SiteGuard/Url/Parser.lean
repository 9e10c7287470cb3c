import SiteGuard.Url.Basic

/-!
# Reading URLs

The rules of the URL standard without a base.  Blanks and controls around the
text and line breaks and tabs inside of it are dropped.  The fragment and the
query are cut off first, since no earlier part can hold their marks.
-/

namespace SiteGuard
namespace Url

open Text

/-! ## Scheme -/

def isOuterBlank (c : Char) : Bool :=
  c.toNat ≤ 0x20

def isBreak (c : Char) : Bool :=
  c == '\t' || c == '\n' || c == '\r'

def clean (cs : List Char) : List Char :=
  let start := cs.dropWhile isOuterBlank
  let body := (start.reverse.dropWhile isOuterBlank).reverse
  body.filter fun c => !isBreak c

def isSchemeChar (c : Char) : Bool :=
  c.isAlphanum || c == '+' || c == '-' || c == '.'

def scheme? (cs : List Char) : Option (List Char × List Char) := do
  let (scheme, rest) ← cut ':' cs
  match scheme with
  | first :: _ => if first.isAlpha && scheme.all isSchemeChar then some (lower scheme, rest) else none
  | [] => none

/-! ## Authority -/

def isSlash (kind : Kind) (c : Char) : Bool :=
  c == '/' || (kind.isSpecial && c == '\\')

def splitAuthority (kind : Kind) (cs : List Char) : List Char × List Char :=
  (cs.takeWhile fun c => !isSlash kind c, cs.dropWhile fun c => !isSlash kind c)

/-- A user name and, if it is not empty, the password after the first colon. -/
def readUserinfo (cs : List Char) : List Char × Option (List Char) :=
  let encode := Percent.encode Percent.inUserinfo
  match cut ':' cs with
  | none => (encode cs, none)
  | some (user, []) => (encode user, none)
  | some (user, password) => (encode user, some (encode password))

/-- The text of a host and what follows its colon; a colon inside of brackets is part of the host. -/
def splitHost : (inside : Bool) → List Char → List Char × Option (List Char)
  | _, [] => ([], none)
  | inside, c :: rest =>
    if c = ':' ∧ !inside then ([], some rest)
    else
      let (host, port) := splitHost (if c = '[' then true else if c = ']' then false else inside) rest
      (c :: host, port)

/--
The port and the path text behind it.  The digits end where the authority ends,
or at a backslash.
-/
def readPort (scheme : List Char) (cs : List Char) : Except Fault (Option Nat × List Char) :=
  let digits := cs.takeWhile isDecimalDigit
  let rest := cs.dropWhile isDecimalDigit
  match rest.head? with
  | none | some '\\' =>
    if digits.isEmpty then .ok (none, rest)
    else
      match boundedNat? 65536 digits with
      | none => .error .invalidPort
      | some port => .ok (if defaultPort? scheme = some port then none else some port, rest)
  | some _ => .error .invalidPort

def readHost (kind : Kind) (cs : List Char) : Except Fault (Option Host) :=
  match kind with
  | .other => if cs.isEmpty then .ok none else (Host.parseVerbatim cs).map some
  | _ => if cs.isEmpty then .error .emptyHost else (Host.parse cs).map some

/--
The authority of a scheme other than `file`, from after its slashes on, and the
path text behind it.  `more` tells that a query or a fragment follows.
-/
def readAuthority (scheme : List Char) (more : Bool) (cs : List Char) :
    Except Fault (Authority × List Char) := do
  let kind := kindOf scheme
  let (text, path) := splitAuthority kind cs
  let (userinfo, hostPort) :=
    match cutLast '@' text with
    | none => (none, text)
    | some (userinfo, hostPort) => (some userinfo, hostPort)
  if userinfo = some [] ∧ hostPort = [] ∧ (path ≠ [] ∨ more) then throw .emptyHost
  let (user, password) := readUserinfo (userinfo.getD [])
  let (hostText, portText) := splitHost false hostPort
  let host ← readHost kind hostText
  match portText with
  | none =>
    if host.isNone ∧ (user ≠ [] ∨ password.isSome) then throw .emptyHost
    .ok (⟨user, password, host, none⟩, path)
  | some portText =>
    if host.isNone then throw .emptyHost
    let (port, rest) ← readPort scheme portText
    .ok (⟨user, password, host, port⟩, rest ++ path)

/-! ## Path -/

def isSingleDot (segment : List Char) : Bool :=
  [".", "%2e"].any fun s => s.toList == lower segment

def isDoubleDot (segment : List Char) : Bool :=
  ["..", ".%2e", "%2e.", "%2e%2e"].any fun s => s.toList == lower segment

def isDrive : List Char → Bool
  | [letter, mark] => letter.isAlpha && (mark == ':' || mark == '|')
  | _ => false

def isAnchored : List Char → Bool
  | letter :: mark :: rest =>
    isDrive [letter, mark] && (rest.isEmpty || rest.head? == some '\\')
  | _ => false

/-- Drops the last segment; `done` holds the segments from the last one to the first. -/
def parent : List (List Char) → List (List Char)
  | [] => []
  | last :: rest => if isAnchored last then last :: rest else rest

def driveForm (kind : Kind) (done : List (List Char)) (segment : List Char) : List Char :=
  match kind, done, segment with
  | .file, [], [letter, mark] => if isDrive segment then [letter, ':'] else [letter, mark]
  | _, _, _ => segment

/-- Takes the segments in order; a dot segment at the end leaves an empty segment. -/
def resolve (kind : Kind) (done : List (List Char)) : List (List Char) → List (List Char)
  | [] => done.reverse
  | segment :: rest =>
    if isDoubleDot segment then
      resolve kind (if rest.isEmpty then [] :: parent done else parent done) rest
    else if isSingleDot segment then resolve kind (if rest.isEmpty then [] :: done else done) rest
    else resolve kind (driveForm kind done segment :: done) rest

/-- The segments of a path text whose first slash has been taken off. -/
def segments (kind : Kind) (cs : List Char) : List (List Char) :=
  let split := cs.map fun c => if isSlash kind c then '/' else c
  resolve kind [] ((pieces '/' split).map (Percent.encode Percent.inPath))

/-- The path behind an authority; only a special scheme turns an empty one into a slash. -/
def pathAfterHost (kind : Kind) (cs : List Char) : Path :=
  match cs with
  | [] => .rooted (if kind.isSpecial then [[]] else [])
  | c :: rest => .rooted (segments kind (if isSlash kind c then rest else cs))

/-! ## Files -/

def withoutEmptyFront : List (List Char) → List (List Char)
  | [] :: next :: rest => withoutEmptyFront (next :: rest)
  | other => other

def fileUrl (scheme : List Char) (host : Option Host) (cs : List Char) : Url :=
  let parts := segments .file (match cs with | c :: rest => if isSlash .file c then rest else cs | [] => [])
  let host := if (parts.head?.map isDrive).getD false then none else host
  ⟨scheme, some ⟨[], none, host, none⟩, .rooted (withoutEmptyFront parts), none, none⟩

def readFileHost (cs : List Char) : Except Fault (Option Host) := do
  if cs.isEmpty then return none
  let host ← Host.parse cs
  return if host = .domain "localhost".toList then none else some host

def readFile (scheme : List Char) (cs : List Char) : Except Fault Url :=
  match cs with
  | a :: b :: rest =>
    if isSlash .file a && isSlash .file b then
      let (hostText, path) := splitAuthority .file rest
      if isDrive hostText then .ok (fileUrl scheme none rest)
      else (readFileHost hostText).map fun host => fileUrl scheme host path
    else .ok (fileUrl scheme none cs)
  | _ => .ok (fileUrl scheme none cs)

/-! ## Whole URLs -/

/-- A URL without query and fragment, from after the colon of its scheme on. -/
def readLocator (scheme : List Char) (more : Bool) (cs : List Char) : Except Fault Url :=
  let withAuthority (cs : List Char) : Except Fault Url :=
    (readAuthority scheme more cs).map fun (authority, path) =>
      ⟨scheme, some authority, pathAfterHost (kindOf scheme) path, none, none⟩
  match kindOf scheme with
  | .file => readFile scheme cs
  | .special => withAuthority (cs.dropWhile fun c => c == '/' || c == '\\')
  | .other =>
    match cs with
    | '/' :: '/' :: rest => withAuthority rest
    | '/' :: rest => .ok ⟨scheme, none, .rooted (segments .other rest), none, none⟩
    | _ => .ok ⟨scheme, none, .plain (Percent.encode Percent.isControl cs), none, none⟩

def cutMark (mark : Char) (cs : List Char) : List Char × Option (List Char) :=
  match cut mark cs with
  | none => (cs, none)
  | some (before, after) => (before, some after)

def parseChars (cs : List Char) : Except Fault Url :=
  match scheme? (clean cs) with
  | none => .error .noScheme
  | some (scheme, rest) =>
    let (rest, fragment) := cutMark '#' rest
    let (rest, query) := cutMark '?' rest
    let reserved := if (kindOf scheme).isSpecial then Percent.inSpecialQuery else Percent.inQuery
    (readLocator scheme (query.isSome || fragment.isSome) rest).map fun u =>
      { u with
        query := query.map (Percent.encode reserved)
        fragment := fragment.map (Percent.encode Percent.inFragment) }

def parse (s : String) : Except Fault Url :=
  parseChars s.toList

def isUrl (s : String) : Bool :=
  match parse s with
  | .ok _ => true
  | .error _ => false

end Url
end SiteGuard
