import EntityStore.Text.Blank
import EntityStore.Text.Quoted
import EntityStore.Number.Decimal
import EntityStore.Failure
import EntityStore.Value.Key
import EntityStore.Value.Codec
import EntityStore.Model.Declaration
import EntityStore.Model.Convention
import EntityStore.Catalog.Violation
import EntityStore.Catalog.Relation
import EntityStore.Catalog.Manifest
import EntityStore.Config.Reader
import EntityStore.Engine.Refusal
import EntityStore.Number.Leading
import EntityStore.Sql.StatementReader
import EntityStore.Store.Registry
import EntityStore.Proofs.Update.Parting
import EntityStore.Proofs.Mapper.Change
import EntityStore.Proofs.Number.Order
import EntityStore.Proofs.Store.Bringing
import EntityStore.Proofs.Registry.Evolution
import EntityStore.Proofs.Registry.Saving
import EntityStore.Proofs.Registry.RoundTrip
import EntityStore.Proofs.Registry.Unfolding
import EntityStore.Proofs.Catalog.Acceptance
import EntityStore.Proofs.Migration.Coverage
import EntityStore.Proofs.Update.Memory
import EntityStore.Proofs.Catalog.Safety
import EntityStore.Proofs.Migration.Plain
import EntityStore.Proofs.Mapper.Reliance
import EntityStore.Proofs.Mapper.Skipping
import EntityStore.Proofs.Registry.Reached
import EntityStore.Proofs.Value.Normal
import EntityStore.Proofs.Catalog.Coherence
import EntityStore.Proofs.Lifecycle.Naming
import EntityStore.Proofs.Mapper.Enduring
import EntityStore.Proofs.Registry.Relating
import EntityStore.Proofs.Catalog.Resolution
import EntityStore.Proofs.Session.Secrecy
import EntityStore.Proofs.Session.Bracketing
import EntityStore.Proofs.Model.Convention
import EntityStore.Proofs.Mapper.Listing
import EntityStore.Proofs.Registry.Fetching
import EntityStore.Proofs.Registry.Summing
import EntityStore.Proofs.Catalog.Text
