/-!
# JSON values

Numbers are whole when they fit a machine integer and keep their literal
otherwise.  Objects are lists of members, so the members of a text that names a
key twice are all there until `distinct` keeps the last one.
-/

namespace SiteGuard

inductive Number where
  | whole (n : Int)
  | real (literal : String)
  deriving DecidableEq, Repr

inductive Json where
  | null
  | bool (b : Bool)
  | number (n : Number)
  | text (s : String)
  | list (items : List Json)
  | object (members : List (String × Json))
  deriving Repr, Inhabited

namespace Json

/-! ## Members -/

def lookup (key : String) (members : List (String × Json)) : Option Json :=
  (members.reverse.find? fun m => m.1 == key).map (·.2)

def insert (members : List (String × α)) (key : String) (value : α) : List (String × α) :=
  match members with
  | [] => [(key, value)]
  | (k, v) :: rest => if k = key then (k, value) :: rest else (k, v) :: insert rest key value

def get? (key : String) : Json → Option Json
  | object members => lookup key members
  | _ => none

def text? : Json → Option String
  | text s => some s
  | _ => none

def bool? : Json → Option Bool
  | bool b => some b
  | _ => none

def int? : Json → Option Int
  | number (.whole n) => some n
  | _ => none

def list? : Json → Option (List Json)
  | list items => some items
  | _ => none

def int (n : Int) : Json :=
  number (.whole n)

def nat (n : Nat) : Json :=
  number (.whole n)

def option (f : α → Json) : Option α → Json
  | none => null
  | some a => f a

/-! ## Distinct keys -/

mutual

/-- Keeps the last value of each key, everywhere in a value. -/
def distinct : Json → Json
  | list items => list (distinctItems items)
  | object members => object (distinctMembers [] members)
  | other => other

def distinctItems : List Json → List Json
  | [] => []
  | item :: rest => distinct item :: distinctItems rest

def distinctMembers (seen : List (String × Json)) : List (String × Json) → List (String × Json)
  | [] => seen
  | (key, value) :: rest => distinctMembers (insert seen key (distinct value)) rest

end

/-! ## Compact text -/

def hexDigit (n : Nat) : Char :=
  if n < 10 then Char.ofNat (48 + n) else Char.ofNat (87 + n)

def writeChar (c : Char) (tail : List Char) : List Char :=
  if c = '"' then '\\' :: '"' :: tail
  else if c = '\\' then '\\' :: '\\' :: tail
  else if c.toNat = 8 then '\\' :: 'b' :: tail
  else if c.toNat = 12 then '\\' :: 'f' :: tail
  else if c = '\n' then '\\' :: 'n' :: tail
  else if c = '\r' then '\\' :: 'r' :: tail
  else if c = '\t' then '\\' :: 't' :: tail
  else if c.toNat < 32 then
    '\\' :: 'u' :: '0' :: '0' :: hexDigit (c.toNat / 16) :: hexDigit (c.toNat % 16) :: tail
  else c :: tail

def writeText (s : String) (tail : List Char) : List Char :=
  '"' :: s.toList.foldr writeChar ('"' :: tail)

/-- A number that is not a machine integer is written with a fraction or an exponent. -/
def writeNumber (n : Number) (tail : List Char) : List Char :=
  match n with
  | .whole n => (toString n).toList ++ tail
  | .real literal =>
    if literal.any fun c => c = '.' ∨ c = 'e' ∨ c = 'E' then literal.toList ++ tail
    else literal.toList ++ '.' :: '0' :: tail

mutual

/-- The text of a value without blanks, followed by the rest of a text. -/
def write : Json → List Char → List Char
  | null, tail => 'n' :: 'u' :: 'l' :: 'l' :: tail
  | bool true, tail => 't' :: 'r' :: 'u' :: 'e' :: tail
  | bool false, tail => 'f' :: 'a' :: 'l' :: 's' :: 'e' :: tail
  | number n, tail => writeNumber n tail
  | text s, tail => writeText s tail
  | list [], tail => '[' :: ']' :: tail
  | list (item :: rest), tail => '[' :: write item (writeItems rest tail)
  | object [], tail => '\x7b' :: '\x7d' :: tail
  | object ((key, value) :: rest), tail =>
    '\x7b' :: writeText key (':' :: write value (writeMembers rest tail))

def writeItems : List Json → List Char → List Char
  | [], tail => ']' :: tail
  | item :: rest, tail => ',' :: write item (writeItems rest tail)

def writeMembers : List (String × Json) → List Char → List Char
  | [], tail => '\x7d' :: tail
  | (key, value) :: rest, tail =>
    ',' :: writeText key (':' :: write value (writeMembers rest tail))

end

def render (j : Json) : String :=
  String.ofList (write j [])

end Json
end SiteGuard
