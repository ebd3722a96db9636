import AccessSync.Cache
import AccessSync.Catalog
import AccessSync.Catalog.Application
import AccessSync.Catalog.Group
import AccessSync.Catalog.ManagedIdentity
import AccessSync.Catalog.ResourceGroup
import AccessSync.Catalog.Role
import AccessSync.Catalog.Storage
import AccessSync.Catalog.Subscription
import AccessSync.Catalog.User
import AccessSync.CommandLine
import AccessSync.Configuration
import AccessSync.Connector
import AccessSync.Credential
import AccessSync.Cursor.Basic
import AccessSync.Decimal.Shortest
import AccessSync.Directory.Client
import AccessSync.Directory.Principal
import AccessSync.Directory.Url
import AccessSync.Enumeration
import AccessSync.Fault
import AccessSync.GrantPolicy
import AccessSync.Identifier
import AccessSync.Journal
import AccessSync.Json.Reader
import AccessSync.Json.Writer
import AccessSync.Log.Format
import AccessSync.Log.Settings
import AccessSync.Management.Client
import AccessSync.Management.Record
import AccessSync.Moment
import AccessSync.Moment.Pattern
import AccessSync.Page
import AccessSync.Program
import AccessSync.Rehearsal.Script
import AccessSync.Rehearsal.Transcript
import AccessSync.Resource.Basic
import AccessSync.RoleActions
import AccessSync.RoleIndex
import AccessSync.Run
import AccessSync.Session
import AccessSync.Sync.Document
import AccessSync.Sync.Outcome
import AccessSync.Sync.Waves
import AccessSync.Text.Blank
import AccessSync.Text.Case
import AccessSync.Text.Digit
import AccessSync.Text.Printable
import AccessSync.Text.Quoted
import AccessSync.Text.Sigma
import AccessSync.Text.Split
import AccessSync.Text.Template
import AccessSync.Value.Basic
import AccessSync.Value.Entry
import AccessSync.Value.Literal
import AccessSync.Value.Number
import AccessSync.Value.Stamp
import AccessSync.World
import AccessSync.Yaml.Block
import AccessSync.Yaml.Document
import AccessSync.Yaml.Form
import AccessSync.Yaml.Node
import AccessSync.Yaml.Property
import AccessSync.Yaml.Scalar
import AccessSync.Yaml.Tag
import AccessSync.Yaml.Token
import AccessSync.Main
import AccessSync.Proofs.Returns
import AccessSync.Proofs.Agreement
import AccessSync.Proofs.Ends
import AccessSync.Proofs.Json.Texts
import AccessSync.Proofs.Json.RoundTrip
import AccessSync.Proofs.Cursor.RoundTrip
import AccessSync.Proofs.Enumeration.Chain
import AccessSync.Proofs.Enumeration.Drain
import AccessSync.Proofs.Enumeration.Frame
import AccessSync.Proofs.Enumeration.Retry
import AccessSync.Proofs.Enumeration.Agreement
import AccessSync.Proofs.Enumeration.Absent
import AccessSync.Proofs.Ensures
import AccessSync.Proofs.Cache
import AccessSync.Proofs.RoleIndex
import AccessSync.Proofs.Management.Listing
import AccessSync.Proofs.Management.Agreement
import AccessSync.Proofs.Enumeration.Yield
import AccessSync.Proofs.Enumeration.Marker
import AccessSync.Proofs.Directory.Agreement
import AccessSync.Proofs.Directory.Frame
import AccessSync.Proofs.Directory.Stateless
import AccessSync.Proofs.Catalog.Grants
import AccessSync.Proofs.Catalog.Applications
import AccessSync.Proofs.Catalog.Agreement
import AccessSync.Proofs.Catalog.RoleRecords
import AccessSync.Proofs.Catalog.Storage
import AccessSync.Proofs.Catalog.Deleted
import AccessSync.Proofs.Catalog.Memberships
import AccessSync.Proofs.Catalog.Memory
import AccessSync.Proofs.Catalog.IndexEntries
import AccessSync.Proofs.Catalog.Learnt
import AccessSync.Proofs.Catalog.Provenance
import AccessSync.Proofs.Sync.Outcome
import AccessSync.Proofs.Sync.Integrity
import AccessSync.Proofs.Catalog.Coherence
import AccessSync.Proofs.Sync.Interleaving
import AccessSync.Proofs.Sync.Independence
import AccessSync.Proofs.RoleActions
import AccessSync.Proofs.Catalog.Signal
import AccessSync.Proofs.Sync.Signal
import AccessSync.Proofs.Sync.Calls
import AccessSync.Proofs.Catalog.Listed
import AccessSync.Proofs.Sync.Walk
import AccessSync.Proofs.Sync.Completion
import AccessSync.Proofs.Management.Errors
import AccessSync.Proofs.Catalog.Cancelled
import AccessSync.Proofs.Enumeration.Conclusion
import AccessSync.Proofs.Enumeration.Offset
import AccessSync.Proofs.Enumeration.PageSize
import AccessSync.Proofs.Catalog.PageSize
import AccessSync.Proofs.Identifier
import AccessSync.Proofs.Entries
import AccessSync.Proofs.Document
import AccessSync.Proofs.Configuration.Settings
import AccessSync.Proofs.Configuration.Validation
import AccessSync.Proofs.Configuration.Loading
import AccessSync.Proofs.Configuration.Precedence
import AccessSync.Proofs.Log.Settings
import AccessSync.Proofs.Program
import AccessSync.Proofs.Catalog.Holders
import AccessSync.Proofs.GrantPolicy
import AccessSync.Proofs.Catalog.Expansions
import AccessSync.Proofs.Catalog.Emitted
import AccessSync.Proofs.Catalog.Provisioning
import AccessSync.Proofs.Directory.Lookups
import AccessSync.Proofs.Directory.Addresses
import AccessSync.Proofs.Directory.Attempts
import AccessSync.Proofs.Directory.Resolution
import AccessSync.Proofs.Catalog.IndexDrains
import AccessSync.Proofs.Catalog.Revocation
import AccessSync.Proofs.Directory.Accounts
import AccessSync.Proofs.Directory.Issues
import AccessSync.Proofs.Directory.Tokens
import AccessSync.Proofs.Permissions
import AccessSync.Proofs.Catalog.Identifiers
import AccessSync.Proofs.Catalog.Tallies
import AccessSync.Proofs.Catalog.Aborted
import AccessSync.Proofs.Catalog.Markers
import AccessSync.Proofs.Json.Ascii
import AccessSync.Proofs.Cursor.Unambiguous
import AccessSync.Proofs.Cache.FiniteMap
import AccessSync.Proofs.Catalog.Refusals
import AccessSync.Proofs.Catalog.References
import AccessSync.Proofs.Catalog.Idempotence
