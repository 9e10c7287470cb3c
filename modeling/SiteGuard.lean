import SiteGuard.Main
import SiteGuard.Proofs.Actor.Grace
import SiteGuard.Proofs.Directive.Wire
import SiteGuard.Proofs.Engine.Atomicity
import SiteGuard.Proofs.Engine.Dangling
import SiteGuard.Proofs.Engine.Gate
import SiteGuard.Proofs.Engine.NormalForm
import SiteGuard.Proofs.Engine.Opening
import SiteGuard.Proofs.Engine.Order
import SiteGuard.Proofs.Engine.Validity
import SiteGuard.Proofs.Store.Medium
import SiteGuard.Proofs.Engine.Numbering
import SiteGuard.Proofs.Digest.Base64
import SiteGuard.Proofs.Engine.Owner
import SiteGuard.Proofs.Json.Size
import SiteGuard.Proofs.Settings.Twin
import SiteGuard.Proofs.Engine.Secrecy
import SiteGuard.Proofs.Text.Utf8
import SiteGuard.Proofs.Engine.Removal
import SiteGuard.Proofs.Actor.Idle
import SiteGuard.Proofs.Http.Deletion
import SiteGuard.Proofs.Directive.Winner
import SiteGuard.Proofs.HostPattern.Labels
import SiteGuard.Proofs.Directive.Transaction
import SiteGuard.Proofs.Overrides.Latest
import SiteGuard.Proofs.Merge.Laws
import SiteGuard.Proofs.Engine.Grants
import SiteGuard.Proofs.Directive.Location
import SiteGuard.Proofs.Plan.Minutes
import SiteGuard.Proofs.Engine.Editing
import SiteGuard.Proofs.Engine.Sites
import SiteGuard.Proofs.Engine.Transfer
import SiteGuard.Proofs.Schedule
import SiteGuard.Proofs.Actor.Alarm
