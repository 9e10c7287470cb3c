import SiteGuard.Json.Wire

/-!
# Complaints

Why a value is not one of a shape: what was found, and what was expected in its place.
The members of an object are looked at in the order of their keys, and a field that is
missing is noticed after all that are there.
-/

namespace SiteGuard
namespace Json

open Calendar

/-! ## What is complained about -/

inductive Found where
  | null
  | bool (b : Bool)
  | integer (n : Int)
  | real (literal : String)
  | text (t : String)
  | list
  | object
  deriving DecidableEq, Repr

def found : Json → Found
  | null => .null
  | bool b => .bool b
  | number (.whole n) => .integer n
  | number (.real literal) => .real literal
  | text t => .text t
  | list _ => .list
  | object _ => .object

inductive Complaint where
  | kind (found : Found) (expected : String)
  | value (found : Found) (expected : String)
  | length (n : Nat) (expected : String)
  | unknownName (name : String) (names : List String)
  | missingField (key : String)
  | repeatedField (key : String)
  | noInstant (text : String)
  deriving DecidableEq, Repr

/-! ## Wording -/

/-- How others print a text or a number, and what they say of a text that is no instant. -/
structure Wording where
  quoted : String → String
  real : String → String
  instant : String → String

def Found.phrase (w : Wording) : Found → String
  | null => "null"
  | bool b => "boolean `" ++ toString b ++ "`"
  | integer n => "integer `" ++ toString n ++ "`"
  | real literal => "floating point `" ++ w.real literal ++ "`"
  | text t => "string " ++ w.quoted t
  | list => "sequence"
  | object => "map"

def ticked (name : String) : String :=
  "`" ++ name ++ "`"

def alternatives : List String → String
  | [] => "there are no variants"
  | [a] => "expected " ++ ticked a
  | [a, b] => "expected " ++ ticked a ++ " or " ++ ticked b
  | names => "expected one of " ++ String.intercalate ", " (names.map ticked)

def Complaint.phrase (w : Wording) : Complaint → String
  | kind found expected => "invalid type: " ++ found.phrase w ++ ", expected " ++ expected
  | value found expected => "invalid value: " ++ found.phrase w ++ ", expected " ++ expected
  | length n expected => "invalid length " ++ toString n ++ ", expected " ++ expected
  | unknownName name names => "unknown variant " ++ ticked name ++ ", " ++ alternatives names
  | missingField key => "missing field " ++ ticked key
  | repeatedField key => "duplicate field " ++ ticked key
  | noInstant t => w.instant t

/-! ## What is expected -/

def IntKind.name : IntKind → String
  | byte => "u8"
  | word => "u32"
  | long => "i64"

def Shape.expected : Shape → String
  | .bool => "a boolean"
  | .text => "a string"
  | .integer k => k.name
  | .instant => "an RFC 3339 formatted date and time string"
  | .free => "any value"
  | .choice _ => "string or map"
  | .nullable s => s.expected
  | .list _ => "a sequence"
  | .dict _ => "a map"
  | .record title _ => "struct " ++ title
  | .variant _ _ => "internally tagged enum"

def Row.size : Row → Nat
  | .done => 0
  | .field _ _ _ rest => rest.size + 1

def Row.expected (title : String) (fields : Row) : String :=
  "struct " ++ title ++ " with " ++ toString fields.size
    ++ (if fields.size = 1 then " element" else " elements")

/-! ## Complaints about values -/

def earliest? (complaints : List (String × Complaint)) : Option Complaint :=
  (complaints.mergeSort fun a b => a.1 ≤ b.1).head?.map (·.2)

def unknownName? (name : String) (names : List String) : Option Complaint :=
  if (indexOf? name names).isSome then none else some (.unknownName name names)

def notUnit? : Json → Option Complaint
  | null => none
  | j => some (.kind j.found "unit")

def Row.miscounted? : Row → List (String × Json) → Option Complaint
  | .done, _ => none
  | .field key required _ rest, members =>
    match valuesOf key members with
    | [] => if required then some (.missingField key) else rest.miscounted? members
    | [_] => rest.miscounted? members
    | _ => some (.repeatedField key)

mutual

/-- What is wrong with a value.  One of several cases is only said not to be one of them. -/
def Shape.complaint? : Shape → Json → Option Complaint
  | .bool, .bool _ => none
  | .text, .text _ => none
  | .integer k, .number (.whole n) =>
    if (k.ofInt? n).isSome then none else some (.value (.integer n) k.name)
  | .instant, .text t => if (Rfc3339.relaxed? t).isSome then none else some (.noInstant t)
  | .free, _ => none
  | .choice names, .text name => unknownName? name names
  | .choice names, .object [(name, j)] => (unknownName? name names).or (notUnit? j)
  | .choice _, .object _ => some (.value .object "map with a single key")
  | .nullable _, .null => none
  | .nullable s, j => s.complaint? j
  | .list s, .list items => items.findSome? s.complaint?
  | .dict s, .object members =>
    earliest? (members.filterMap fun m => (s.complaint? m.2).map fun c => (m.1, c))
  | .record title fields, .list items =>
    (fields.itemsComplaint? (fields.expected title) 0 items).or
      (if fields.size < items.length then
        some (.length items.length "fewer elements in array")
      else none)
  | .record _ fields, .object members =>
    (earliest? (fields.complaints members)).or (fields.miscounted? members)
  | .variant tag cases, j =>
    if ((Shape.variant tag cases).ofJson j).isSome then none
    else some (.kind j.found (Shape.variant tag cases).expected)
  | s, j => some (.kind j.found s.expected)

/-- What is wrong with the first of some items, as fields in order from a given place on. -/
def Row.itemsComplaint? (expected : String) : Row → (place : Nat) → List Json → Option Complaint
  | .done, _, _ => none
  | .field _ _ s rest, place, item :: items =>
    (s.complaint? item).or (rest.itemsComplaint? expected (place + 1) items)
  | .field _ true _ _, place, [] => some (.length place expected)
  | .field _ false _ rest, place, [] => rest.itemsComplaint? expected (place + 1) []

def Row.complaints : Row → List (String × Json) → List (String × Complaint)
  | .done, _ => []
  | .field key _ s rest, members =>
    ((valuesOf key members).filterMap s.complaint?).map (fun c => (key, c))
      ++ rest.complaints members

end

/-- What is wrong with a value that does not decode. -/
def complaint (α : Type) [Wire α] (j : Json) : Complaint :=
  ((Wire.shape α).complaint? j).getD (.kind j.found (Wire.shape α).expected)

end Json
end SiteGuard
