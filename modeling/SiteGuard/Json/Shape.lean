import SiteGuard.Calendar.Instant
import SiteGuard.Json.Value

/-!
# Shapes

A shape says which JSON values a type is written as.  `Val` is the type of the
values of a shape, so reading and writing are total functions between text and
`Val`, and a domain type only has to say how it is packed into one.
-/

namespace SiteGuard
namespace Json

open Calendar

/-! ## Machine integers -/

inductive IntKind where
  | byte
  | word
  | long

namespace IntKind

def Val : IntKind → Type
  | byte => UInt8
  | word => UInt32
  | long => Int64

def ofInt? : (k : IntKind) → Int → Option k.Val
  | byte, n => if 0 ≤ n ∧ n < UInt8.size then some (UInt8.ofNat n.toNat) else none
  | word, n => if 0 ≤ n ∧ n < UInt32.size then some (UInt32.ofNat n.toNat) else none
  | long, n => if Int64.minValue.toInt ≤ n ∧ n ≤ Int64.maxValue.toInt then some (Int64.ofInt n) else none

def toInt : (k : IntKind) → k.Val → Int
  | byte, v => (UInt8.toNat v : Int)
  | word, v => (UInt32.toNat v : Int)
  | long, v => Int64.toInt v

end IntKind

/-! ## Shapes -/

mutual

inductive Shape where
  | bool
  | text
  | integer (k : IntKind)
  /-- An instant, as RFC 3339 text. -/
  | instant
  /-- Any value. -/
  | free
  /-- One of some names. -/
  | choice (names : List String)
  /-- A value or null. -/
  | nullable (s : Shape)
  | list (s : Shape)
  /-- An object whose keys are data. -/
  | dict (s : Shape)
  /-- An object of known fields; also read from the list of its fields in order. -/
  | record (title : String) (fields : Row)
  /-- An object whose member `tag` names the case that its other members belong to. -/
  | variant (tag : String) (cases : Cases)

inductive Row where
  | done
  | field (key : String) (required : Bool) (s : Shape) (rest : Row)

inductive Cases where
  | none
  | case (name : String) (fields : Row) (rest : Cases)

end

/-! ## Values of a shape -/

mutual

def Shape.Val : Shape → Type
  | .bool => Bool
  | .text => String
  | .integer k => k.Val
  | .instant => Instant
  | .free => Json
  | .choice names => Fin names.length
  | .nullable s => Option s.Val
  | .list s => List s.Val
  | .dict s => List (String × s.Val)
  | .record _ fields => fields.Val
  | .variant _ cases => cases.Val

def Row.Val : Row → Type
  | .done => Unit
  | .field _ true s rest => s.Val × rest.Val
  | .field _ false s rest => Option s.Val × rest.Val

def Cases.Val : Cases → Type
  | .none => Empty
  | .case _ fields rest => fields.Val ⊕ rest.Val

end

def Row.Slots : Row → Type
  | .done => Unit
  | .field _ _ s rest => Option s.Val × rest.Slots

def Row.noSlots : (r : Row) → r.Slots
  | .done => ()
  | .field _ _ _ rest => (none, rest.noSlots)

/-- The record of what was read; none if a required field is absent. -/
def Row.ofSlots : (r : Row) → r.Slots → Option r.Val
  | .done, _ => some ()
  | .field _ true _ rest, (slot, slots) => do
    let v ← slot
    some (v, ← rest.ofSlots slots)
  | .field _ false _ rest, (slot, slots) => do
    some (slot, ← rest.ofSlots slots)

end Json
end SiteGuard
