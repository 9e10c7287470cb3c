import SiteGuard.Failure
import SiteGuard.Settings.Wire

/-!
# Merging

A shallow merge: each member of a patch replaces the field of the same name,
except for protected ones.  The result has to decode again.
-/

namespace SiteGuard
namespace Json

def overlay (isProtected : String → Bool) (base patch : List (String × Json)) :
    List (String × Json) :=
  patch.foldl (fun members m => if isProtected m.1 then members else insert members m.1 m.2) base

def merge {α : Type} [Wire α] (base : α) (patch : Json) (guarded : List String) :
    Except Failure α :=
  match patch, toJson base with
  | .object changes, .object members =>
    let merged : Json := .object (overlay guarded.contains members changes)
    match ofJson? α merged with
    | some a => .ok a
    | none => .error (.invalidSettings (.undecodable (complaint α merged)))
  | .object _, _ => .error (.invalidSettings .baseNotAnObject)
  | _, _ => .error (.invalidSettings .notAnObject)

end Json
end SiteGuard
