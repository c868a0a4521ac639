import CatalogMigration.Main
import CatalogMigration.Proofs.Catalog.Independence
import CatalogMigration.Proofs.Catalog.Locality
import CatalogMigration.Proofs.Catalog.Overlap
import CatalogMigration.Proofs.Catalog.Recovery
import CatalogMigration.Proofs.Catalog.Repeat
import CatalogMigration.Proofs.Client.Life
import CatalogMigration.Proofs.Config.Diagnostics
import CatalogMigration.Proofs.Config.Secrets
import CatalogMigration.Proofs.Config.Texts
import CatalogMigration.Proofs.Config.Unknown
import CatalogMigration.Proofs.Numeral.Digits
import CatalogMigration.Proofs.Rest.Base
import CatalogMigration.Proofs.Rest.Credential
import CatalogMigration.Proofs.Rest.Deletion
import CatalogMigration.Proofs.Rest.Mirror
import CatalogMigration.Proofs.Rest.Namespace
import CatalogMigration.Proofs.Rest.Outage
import CatalogMigration.Proofs.Rest.StoredRows
import CatalogMigration.Proofs.Rest.StoredSchema
import CatalogMigration.Proofs.Settings.Reader
import CatalogMigration.Proofs.Settings.Table
import CatalogMigration.Proofs.Table.Acceptance
import CatalogMigration.Proofs.Table.Aligned
import CatalogMigration.Proofs.Table.Cells
import CatalogMigration.Proofs.Table.Sorted
import CatalogMigration.Proofs.Text.Parts
import CatalogMigration.Proofs.Url.Canonical
import CatalogMigration.Proofs.Url.Domain.Letters
import CatalogMigration.Proofs.Url.Domain.Names
import CatalogMigration.Proofs.Url.Encoded
import CatalogMigration.Proofs.Url.Numeric
import CatalogMigration.Proofs.Url.Reread
import CatalogMigration.Proofs.Versions.Listed
import CatalogMigration.Proofs.Versions.Renderings
import CatalogMigration.Proofs.Workload.Read
