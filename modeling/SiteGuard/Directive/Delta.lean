import SiteGuard.Directive

/-!
# Deltas

What has to be removed from a table and added to it so that it holds the wanted
directives.
-/

namespace SiteGuard

structure Delta where
  remove : List UInt32
  add : List Directive
  deriving DecidableEq

namespace Delta

def isEmpty (d : Delta) : Bool :=
  d.remove.isEmpty && d.add.isEmpty

def between (installed wanted : List Directive) : Delta :=
  ⟨(installed.filter fun d => !wanted.contains d).map (·.id),
    wanted.filter fun d => !installed.contains d⟩

end Delta
end SiteGuard
