import SiteGuard.HostPattern
import SiteGuard.SortedMap

/-!
# Overrides

Hosts that are let through until an instant, in the order of the hosts.  An
override is live before its instant and no longer at it.
-/

namespace SiteGuard

open Calendar

abbrev Overrides : Type := SortedMap String Instant

namespace Overrides

/-! ## Time -/

def live (o : Overrides) (now : Instant) : Overrides :=
  o.filter fun _ till => now < till

/-- Grants an override; one that lasts longer stays. -/
def extend (o : Overrides) (host : String) (till : Instant) : Overrides :=
  o.insert host
    (match o.get? host with
      | some known => Instant.latest till known
      | none => till)

/-! ## Normal form -/

/-- The overrides under the hosts that their keys name; the first key that names none is returned. -/
def normalize (o : Overrides) : Except String Overrides :=
  o.entries.foldlM
    (fun done e =>
      match HostPattern.hostname? e.1 with
      | none => .error e.1
      | some host => .ok (done.extend host e.2))
    SortedMap.empty

end Overrides
end SiteGuard
