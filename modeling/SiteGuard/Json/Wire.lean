import SiteGuard.Calendar.Rfc3339
import SiteGuard.Json.Reader
import SiteGuard.Json.Shape

/-!
# Reading and writing by shape

`Shape.read` reads text from left to right and stops at the first problem;
`Shape.ofJson` reads a value that is already there; `Shape.toJson` writes.  A
type with a `Wire` instance is read and written through its shape.
-/

namespace SiteGuard
namespace Json

open Calendar

/-! ## From values -/

def indexOf? (name : String) (names : List String) : Option (Fin names.length) :=
  (List.finRange names.length).find? fun i => names.get i == name

def valuesOf (key : String) (members : List (String × Json)) : List Json :=
  members.filterMap fun m => if m.1 = key then some m.2 else none

mutual

def Shape.ofJson : (s : Shape) → Json → Option s.Val
  | .bool, .bool b => some b
  | .text, .text t => some t
  | .integer k, .number (.whole n) => k.ofInt? n
  | .instant, .text t => (Rfc3339.relaxed? t).map (·.instant)
  | .free, j => some j.distinct
  | .choice names, .text name => indexOf? name names
  | .choice names, .object [(name, .null)] => indexOf? name names
  | .nullable _, .null => some none
  | .nullable s, j => (s.ofJson j).map some
  | .list s, .list items => items.mapM s.ofJson
  | .dict s, .object members => members.mapM fun m => (s.ofJson m.2).map fun v => (m.1, v)
  | .record _ fields, .list items => fields.ofItems items
  | .record _ fields, .object members => fields.ofMembers members
  | .variant _ cases, .list (.text name :: items) => cases.ofItems name items
  | .variant tag cases, .object members =>
    match valuesOf tag members with
    | [.text name] => cases.ofMembers name (members.filter fun m => m.1 != tag)
    | _ => none
  | _, _ => none

/-- A record from its fields in order; those missing at the end count as absent. -/
def Row.ofItems : (r : Row) → List Json → Option r.Val
  | .done, [] => some ()
  | .done, _ :: _ => none
  | .field _ true s rest, item :: items => do
    let v ← s.ofJson item
    some (v, ← rest.ofItems items)
  | .field _ false s rest, item :: items => do
    let v ← s.ofJson item
    some (some v, ← rest.ofItems items)
  | .field _ true _ _, [] => none
  | .field _ false _ rest, [] => do some (none, ← rest.ofItems [])

/-- A record from the members of an object; a field may be given once, other keys are ignored. -/
def Row.ofMembers : (r : Row) → List (String × Json) → Option r.Val
  | .done, _ => some ()
  | .field key true s rest, members =>
    match valuesOf key members with
    | [j] => do
      let v ← s.ofJson j
      some (v, ← rest.ofMembers members)
    | _ => none
  | .field key false s rest, members =>
    match valuesOf key members with
    | [] => do some (none, ← rest.ofMembers members)
    | [j] => do
      let v ← s.ofJson j
      some (some v, ← rest.ofMembers members)
    | _ => none

def Cases.ofItems : (c : Cases) → String → List Json → Option c.Val
  | .none, _, _ => none
  | .case name fields rest, chosen, items =>
    if chosen = name then (fields.ofItems items).map .inl
    else (rest.ofItems chosen items).map .inr

def Cases.ofMembers : (c : Cases) → String → List (String × Json) → Option c.Val
  | .none, _, _ => none
  | .case name fields rest, chosen, members =>
    if chosen = name then (fields.ofMembers members).map .inl
    else (rest.ofMembers chosen members).map .inr

end

def Cases.hasName : Cases → String → Bool
  | .none, _ => false
  | .case name _ rest, chosen => chosen == name || rest.hasName chosen

/-! ## To values -/

mutual

def Shape.toJson : (s : Shape) → s.Val → Json
  | .bool, b => .bool b
  | .text, t => .text t
  | .integer k, v => .int (k.toInt v)
  | .instant, i => .text (Rfc3339.writeUtc i)
  | .free, j => j
  | .choice names, i => .text (names.get i)
  | .nullable _, none => .null
  | .nullable s, some v => s.toJson v
  | .list s, vs => .list (List.map s.toJson vs)
  | .dict s, vs => .object (List.map (fun m => (m.1, s.toJson m.2)) vs)
  | .record _ fields, v => .object (fields.toMembers v)
  | .variant tag cases, v => .object (cases.toMembers tag v)

/-- The members of a record in the order of its fields; an absent field has none. -/
def Row.toMembers : (r : Row) → r.Val → List (String × Json)
  | .done, _ => []
  | .field key true s rest, (v, vs) => (key, s.toJson v) :: rest.toMembers vs
  | .field key false s rest, (some v, vs) => (key, s.toJson v) :: rest.toMembers vs
  | .field _ false _ rest, (none, vs) => rest.toMembers vs

def Cases.toMembers (tag : String) : (c : Cases) → c.Val → List (String × Json)
  | .case name fields _, .inl v => (tag, .text name) :: fields.toMembers v
  | .case _ _ rest, .inr v => rest.toMembers tag v

end

/-! ## From text -/

/-- The elements of a list, or of an object, are read one level deeper. -/
def enter (depth : Nat) : Except Fault Nat :=
  if depth ≤ 1 then .error .malformed else .ok (depth - 1)

def readName (fuel : Nat) (cs : List Char) : Except Fault (String × List Char) :=
  match skipSpace cs with
  | '"' :: rest => readString fuel rest
  | [] => .error .truncated
  | _ => .error (mismatch fuel cs)

def orMismatch : Option α → Except Fault α
  | some a => .ok a
  | none => .error .mismatched

/-- One of some names, as a string or as the only key of an object that holds null. -/
def readChoice (fuel depth : Nat) (names : List String) : Reader (Fin names.length) := fun cs =>
  match skipSpace cs with
  | [] => .error .truncated
  | '"' :: rest => do
    let (name, rest) ← readString fuel rest
    .ok (← orMismatch (indexOf? name names), rest)
  | '\x7b' :: rest => do
    let _ ← enter depth
    let (name, rest) ← readName fuel rest
    let i ← orMismatch (indexOf? name names)
    let rest ← colon rest
    match skipSpace rest with
    | [] => .error .truncated
    | 'n' :: more => .ok (i, ← close '\x7d' (← expect ['u', 'l', 'l'] more))
    | _ => .error (mismatch fuel rest)
  | _ => .error .malformed

mutual

def Shape.read (fuel : Nat) : (s : Shape) → (depth : Nat) → Reader s.Val
  | .bool, _ => fun cs =>
    match skipSpace cs with
    | 't' :: rest => do .ok (true, ← expect ['r', 'u', 'e'] rest)
    | 'f' :: rest => do .ok (false, ← expect ['a', 'l', 's', 'e'] rest)
    | _ => .error (mismatch fuel cs)
  | .text, _ => readName fuel
  | .integer k, _ => fun cs =>
    match skipSpace cs with
    | [] => .error .truncated
    | c :: rest =>
      if c = '-' ∨ Text.isDecimalDigit c then do
        match ← readNumber (c :: rest) with
        | (.whole n, rest) => .ok (← orMismatch (k.ofInt? n), rest)
        | (.real _, _) => .error .mismatched
      else .error (mismatch fuel cs)
  | .instant, _ => fun cs => do
    let (t, rest) ← readName fuel cs
    .ok (← orMismatch ((Rfc3339.relaxed? t).map (·.instant)), rest)
  | .free, depth => fun cs => do
    let (j, rest) ← readValue fuel depth cs
    .ok (j.distinct, rest)
  | .choice names, depth => readChoice fuel depth names
  | .nullable s, depth => fun cs =>
    match skipSpace cs with
    | 'n' :: rest => do .ok (none, ← expect ['u', 'l', 'l'] rest)
    | rest => do
      let (v, rest) ← s.read fuel depth rest
      .ok (some v, rest)
  | .list s, depth => fun cs =>
    match skipSpace cs with
    | '[' :: rest => do readElements (s.read fuel (← enter depth)) fuel true rest
    | _ => .error (mismatch fuel cs)
  | .dict s, depth => fun cs =>
    match skipSpace cs with
    | '\x7b' :: rest => do
      let inner ← enter depth
      let (members, rest) ←
        readMembers fuel
          (fun key seen cs => do
            let (v, rest) ← s.read fuel inner (← colon cs)
            .ok ((key, v) :: seen, rest))
          fuel true [] rest
      .ok (members.reverse, rest)
    | _ => .error (mismatch fuel cs)
  | .record _ fields, depth => fun cs =>
    match skipSpace cs with
    | '[' :: rest => do
      let (v, rest) ← fields.readItems fuel (← enter depth) true rest
      .ok (v, ← close ']' rest)
    | '\x7b' :: rest => do
      let inner ← enter depth
      let (slots, rest) ←
        readMembers fuel (fields.readMember fuel inner) fuel true fields.noSlots rest
      .ok (← orMismatch (fields.ofSlots slots), rest)
    | _ => .error (mismatch fuel cs)
  | .variant tag cases, depth => fun cs =>
    match skipSpace cs with
    | '[' :: rest => do
      let inner ← enter depth
      match ← nextElement true rest with
      | (false, _) => .error .mismatched
      | (true, rest) =>
        let (name, rest) ← readName fuel rest
        let _ ← orMismatch (if cases.hasName name then some () else none)
        let (items, rest) ← readElements (readValue fuel inner) fuel false rest
        .ok (← orMismatch (cases.ofItems name items), rest)
    | '\x7b' :: rest => do
      let inner ← enter depth
      let ((chosen, members), rest) ←
        readMembers fuel
          (fun key (seen : Option String × List (String × Json)) cs => do
            if key = tag then
              match seen.1 with
              | some _ => .error .mismatched
              | none =>
                let (name, rest) ← readName fuel (← colon cs)
                let _ ← orMismatch (if cases.hasName name then some () else none)
                .ok ((some name, seen.2), rest)
            else
              let (v, rest) ← readValue fuel inner (← colon cs)
              .ok ((seen.1, (key, v) :: seen.2), rest))
          fuel true (none, []) rest
      let name ← orMismatch chosen
      .ok (← orMismatch (cases.ofMembers name members.reverse), rest)
    | _ => .error (mismatch fuel cs)

def Row.readItems (fuel : Nat) : (r : Row) → (depth : Nat) → (first : Bool) → Reader r.Val
  | .done, _, _ => fun cs => .ok ((), cs)
  | .field _ true s rest, depth, first => fun cs => do
    match ← nextElement first cs with
    | (false, _) => .error .mismatched
    | (true, cs) =>
      let (v, cs) ← s.read fuel depth cs
      let (vs, cs) ← rest.readItems fuel depth false cs
      .ok ((v, vs), cs)
  | .field _ false s rest, depth, first => fun cs => do
    match ← nextElement first cs with
    | (false, cs) =>
      let (vs, cs) ← rest.readItems fuel depth first cs
      .ok ((none, vs), cs)
    | (true, cs) =>
      let (v, cs) ← s.read fuel depth cs
      let (vs, cs) ← rest.readItems fuel depth false cs
      .ok ((some v, vs), cs)

/-- A member of a record, from after its key on; a field may be given once. -/
def Row.readMember (fuel : Nat) : (r : Row) → (depth : Nat) → String → r.Slots → Reader r.Slots
  | .done, _, _, _ => fun cs => do .ok ((), ← skipValue fuel (← colon cs))
  | .field key _ s rest, depth, k, (slot, slots) => fun cs =>
    if k = key then
      match slot with
      | some _ => .error .mismatched
      | none => do
        let (v, cs) ← s.read fuel depth (← colon cs)
        .ok ((some v, slots), cs)
    else do
      let (slots, cs) ← rest.readMember fuel depth k slots cs
      .ok ((slot, slots), cs)

end

/-! ## Types with a shape -/

class Wire (α : Type) where
  shape : Shape
  pack : α → shape.Val
  unpack : shape.Val → α

section

variable {α : Type} [Wire α]

def toJson (a : α) : Json :=
  (Wire.shape α).toJson (Wire.pack a)

def ofJson? (α : Type) [Wire α] (j : Json) : Option α :=
  ((Wire.shape α).ofJson j).map Wire.unpack

def encode (a : α) : String :=
  render (toJson a)

def decodeFirst (α : Type) [Wire α] (s : String) : Except Fault (α × List Char) := do
  let (v, rest) ← (Wire.shape α).read (s.length + 1) depthLimit s.toList
  .ok (Wire.unpack v, rest)

def decode (α : Type) [Wire α] (s : String) : Except Fault α := do
  finish (← decodeFirst α s)

end

end Json
end SiteGuard
