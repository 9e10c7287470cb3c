import SiteGuard.Directive
import SiteGuard.Directive.Wire
import SiteGuard.SortedMap

/-!
# Directive tables

The installed directives, in rows in the order of their keys.  A change removes
some rows and adds others as one step: if any part of it is refused, nothing has
happened.
-/

namespace SiteGuard

/-- Each row holds a directive, or a text that is none. -/
structure DirectiveTable where
  rows : SortedMap Int (Except String Directive)
  /-- Whether there is a table at all. -/
  present : Bool
  /-- Whether insertions, or deletions of a row that is there, are refused. -/
  refusesInsert : Bool
  refusesDelete : Bool

namespace DirectiveTable

def empty : DirectiveTable := ⟨SortedMap.empty, true, false, false⟩

/-! ## Rows -/

def keyOf (id : UInt32) : Int :=
  id.toNat

def put (t : DirectiveTable) (key : Int) (content : Except String Directive) : DirectiveTable :=
  { t with rows := t.rows.insert key content }

def names (ids : List UInt32) (key : Int) : Bool :=
  ids.any fun id => keyOf id == key

def erase (t : DirectiveTable) (ids : List UInt32) : DirectiveTable :=
  { t with rows := t.rows.filter fun key _ => !names ids key }

/-! ## Reading -/

def installed (t : DirectiveTable) : Except Failure (List Directive) :=
  if !t.present then .error (.storage .noTable)
  else
    match t.rows.entries.mapM (·.2) with
    | .ok ds => .ok ds
    | .error text => .error (.interception (.corruptRow text))

/-! ## Changing -/

def repeated? (seen : List UInt32) : List UInt32 → Option UInt32
  | [] => none
  | id :: rest => if seen.contains id then some id else repeated? (id :: seen) rest

def deletesRow (t : DirectiveTable) (ids : List UInt32) : Bool :=
  t.rows.keys.any (names ids)

/-- What the table refuses of a change; the deletions come before the insertions. -/
def refusal? (t : DirectiveTable) (remove : List UInt32) (add : List Directive) :
    Option InterceptionCause :=
  if !t.present then some .noTable
  else if t.refusesDelete && t.deletesRow remove then some .deletionRefused
  else if t.refusesInsert && !add.isEmpty then some .insertionRefused
  else none

/-- Removes and adds as one step; a number that is both removed and added is replaced. -/
def replace (t : DirectiveTable) (remove : List UInt32) (add : List Directive) :
    Except Failure DirectiveTable :=
  match repeated? [] (add.map (·.id)) with
  | some id => .error (.interception (.duplicateId id))
  | none =>
    match t.refusal? remove add with
    | some cause => .error (.interception cause)
    | none => .ok (add.foldl (fun t d => t.put (keyOf d.id) (.ok d)) (t.erase remove))

/-! ## Damage from outside -/

def reopen (t : DirectiveTable) : DirectiveTable :=
  { t with present := true }

def overwrite (t : DirectiveTable) (key : Int) (text : String) : Option DirectiveTable :=
  if t.present && !t.refusesInsert then
    some (t.put key ((Json.decode Directive text).mapError fun _ => text))
  else none

/-- From now on insertions, or deletions of rows that are there, are refused. -/
def blocked (t : DirectiveTable) (insertions deletions : Bool) : Option DirectiveTable :=
  if t.present then
    some
      { t with
        refusesInsert := t.refusesInsert || insertions
        refusesDelete := t.refusesDelete || deletions }
  else none

def unblocked (t : DirectiveTable) : DirectiveTable :=
  { t with refusesInsert := false, refusesDelete := false }

def drop (t : DirectiveTable) : Option DirectiveTable :=
  if t.present then some ⟨SortedMap.empty, false, false, false⟩ else none

end DirectiveTable
end SiteGuard
