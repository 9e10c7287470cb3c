import SiteGuard.Text

/-!
# Media types

Which content types announce JSON: `application/json`, and application types
whose name ends in `+json`.  Parameters may follow after a semicolon.
-/

namespace SiteGuard
namespace Http
namespace MediaType

open Text

def isTokenChar (c : Char) : Bool :=
  c.isAlphanum
    || ['!', '#', '$', '%', '&', '\'', '*', '+', '-', '.', '^', '_', '\x60', '|', '~'].contains c

def isToken (cs : List Char) : Bool :=
  !cs.isEmpty && cs.all isTokenChar

def afterQuoted : List Char → Option (List Char)
  | [] => none
  | c :: rest => if c = '"' then some rest else afterQuoted rest

/-- A value is a token or stands in quotes; blanks may follow a quoted one. -/
def afterValue (cs : List Char) : Option (List Char) :=
  match cs with
  | '"' :: '"' :: _ => none
  | '"' :: rest => (afterQuoted rest).map fun rest => rest.dropWhile (· == ' ')
  | _ =>
    let value := cs.takeWhile isTokenChar
    if value.isEmpty then none else some (cs.drop value.length)

def parametersFit : (fuel : Nat) → List Char → Bool
  | 0, _ => false
  | _ + 1, [] => true
  | fuel + 1, cs =>
    match cut '=' (cs.dropWhile (· == ' ')) with
    | none => false
    | some (name, rest) =>
      isToken name &&
        match afterValue rest with
        | some [] => true
        | some (';' :: rest) => parametersFit fuel rest
        | _ => false

/-- A name without its suffix, and the suffix after the last plus sign. -/
def splitSuffix (cs : List Char) : List Char × Option (List Char) :=
  match cutLast '+' cs with
  | some (c :: name, suffix) => (c :: name, some suffix)
  | _ => (cs, none)

def isJson (s : String) : Bool :=
  let printable := s.toList.all fun c => c == '\t' || (0x20 ≤ c.toNat && c.toNat < 0x7F)
  match cut '/' s.toList with
  | none => false
  | some (kind, rest) =>
    let (name, parameters) :=
      match cut ';' rest with
      | some (name, parameters) => (name, parameters)
      | none => (rest, [])
    let (base, suffix) := splitSuffix (lower name)
    printable && lower kind == "application".toList && isToken name
      && (base == "json".toList || suffix == some "json".toList)
      && parametersFit (parameters.length + 1) parameters

end MediaType
end Http
end SiteGuard
