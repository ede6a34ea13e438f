import Mosp.Security.FixedWindow
import Mosp.Security.InFlight
import Mosp.Security.Limiters
import Mosp.Security.RateLimit
import Mosp.Concurrency.Alone
import Mosp.Concurrency.Answers
import Mosp.Concurrency.Contract
import Mosp.Concurrency.Pool
import Mosp.Concurrency.Program
import Mosp.Concurrency.Soundness
import Mosp.Data.Aead
import Mosp.Data.Base64
import Mosp.Data.Batch
import Mosp.Data.Csv
import Mosp.Data.IpAddress
import Mosp.Data.Json
import Mosp.Data.Like
import Mosp.Data.OrderedMap
import Mosp.Data.Page
import Mosp.Data.Paging
import Mosp.Data.Split
import Mosp.Data.Table
import Mosp.Data.Weights
import Mosp.Sql.Alone
import Mosp.Sql.Atomic
import Mosp.Sql.Constraint
import Mosp.Sql.Isolation
import Mosp.Sql.Protocol
import Mosp.Sql.ReadCommitted
import Mosp.Sql.Runs
import Mosp.Sql.Statement
import Mosp.Sql.Transaction
import Mosp.Database.Constraints
import Mosp.Database.Rows
import Mosp.Database.Schema
import Mosp.Auth.Credentials
import Mosp.Auth.Lifecycle
import Mosp.Auth.PasswordHasher
import Mosp.Auth.Revocation
import Mosp.Auth.Rotation
import Mosp.Auth.Schema
import Mosp.Auth.SessionServices
import Mosp.Auth.SessionTransactions
import Mosp.Auth.Sessions
import Mosp.Auth.TokenChains
import Mosp.Services.ActivityLogs
import Mosp.Services.Command
import Mosp.Services.Explorer
import Mosp.Services.FolderGrants
import Mosp.Services.Migrations
import Mosp.Services.Objects
import Mosp.Services.Placement
import Mosp.Services.Upload
import Mosp.Services.Usage
import Mosp.Services.UsageReport
import Mosp.Worker.Lifecycle
import Mosp.Worker.MigrationReconciliation
import Mosp.Worker.Scheduling
import Mosp.Worker.UploadReconciliation
import Mosp.Provider.CredentialCipher
import Mosp.Provider.Endpoint
import Mosp.Provider.Envelopes
import Mosp.Provider.KeyProvider
import Mosp.Provider.PrivateAddresses
import Mosp.Provider.SpelledPrefixes
import Mosp.Platform.Replacement
import Mosp.Platform.Schema
import Mosp.Platform.Settings
import Mosp.Platform.Versions
import Mosp.Health.Schema
import Mosp.Health.Services
import Mosp.Health.Vouching
import Mosp.System.Alone
import Mosp.System.Answers
import Mosp.System.Constraints
import Mosp.System.Exchanges
import Mosp.System.Machine
import Mosp.System.Outcomes
import Mosp.System.Requests
import Mosp.Access.Folders
import Mosp.Access.Grants
import Mosp.Access.Listing
import Mosp.Access.Segments
import Mosp.Placement.Selection
import Mosp.Policies.Namespaces
import Mosp.Policies.Replacement
import Mosp.Policies.Schema
import Mosp.Organizations.Authorization
import Mosp.Organizations.Changes
import Mosp.Organizations.Routes
import Mosp.Organizations.Schema
import Mosp.Organizations.Services
import Mosp.Organizations.Transactions
import Mosp.Index.Accounting
import Mosp.Index.Catalog
import Mosp.Index.CompletionCommit
import Mosp.Index.Consistency
import Mosp.Index.Lookups
import Mosp.Index.MigrationTransactions
import Mosp.Index.ObjectTransactions
import Mosp.Index.Progress
import Mosp.Index.SessionTransactions
import Mosp.Index.Switching
import Mosp.Index.Usage
import Mosp.Conduct.Contract
import Mosp.Conduct.Custody
import Mosp.Conduct.Deletes
import Mosp.Conduct.Migrations
import Mosp.Conduct.Persistence
import Mosp.Conduct.Progress
import Mosp.Conduct.Quiet
import Mosp.Conduct.Reading
import Mosp.Conduct.Removal
import Mosp.Conduct.Rules
import Mosp.Conduct.Scene
import Mosp.Conduct.Services
import Mosp.Conduct.Sessions
import Mosp.Conduct.Transactions
import Mosp.Conduct.Uploads
import Mosp.Conduct.Worker
import Mosp.Guarantees.Access
import Mosp.Guarantees.Answers
import Mosp.Guarantees.CredentialEnvelopes
import Mosp.Guarantees.Credentials
import Mosp.Guarantees.Cutover
import Mosp.Guarantees.Endpoints
import Mosp.Guarantees.Folders
import Mosp.Guarantees.Health
import Mosp.Guarantees.Index
import Mosp.Guarantees.Multipart
import Mosp.Guarantees.Objects
import Mosp.Guarantees.Organizations
import Mosp.Guarantees.Pages
import Mosp.Guarantees.Passwords
import Mosp.Guarantees.Placement
import Mosp.Guarantees.Policies
import Mosp.Guarantees.Processes
import Mosp.Guarantees.PublicEndpoints
import Mosp.Guarantees.RateLimits
import Mosp.Guarantees.Revocation
import Mosp.Guarantees.Scheduling
import Mosp.Guarantees.Sessions
import Mosp.Guarantees.Settings
import Mosp.Guarantees.Usage
import Mosp.Guarantees.UsageReports
