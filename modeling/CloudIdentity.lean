import CloudIdentity.Aws.Call
import CloudIdentity.Aws.Classification
import CloudIdentity.Aws.Configuration
import CloudIdentity.Aws.Connection
import CloudIdentity.Aws.PolicyText
import CloudIdentity.Aws.Principal
import CloudIdentity.Aws.Response
import CloudIdentity.Aws.Roles
import CloudIdentity.Client.Argument
import CloudIdentity.Client.Gate
import CloudIdentity.Client.Opening
import CloudIdentity.Client.Operations
import CloudIdentity.Configuration.Environment
import CloudIdentity.Configuration.Override
import CloudIdentity.Decimal.Binary64
import CloudIdentity.Decimal.Shortest
import CloudIdentity.Decimal.Text
import CloudIdentity.Document.Access
import CloudIdentity.Document.Display
import CloudIdentity.Document.Equality
import CloudIdentity.Document.Reader
import CloudIdentity.Document.Stored
import CloudIdentity.Document.Value
import CloudIdentity.Document.Writer
import CloudIdentity.Failure.ApiStatus
import CloudIdentity.Failure.Basic
import CloudIdentity.Failure.Kind
import CloudIdentity.Failure.LocalFault
import CloudIdentity.Failure.Reported
import CloudIdentity.Gcp.Accounts
import CloudIdentity.Gcp.Call
import CloudIdentity.Gcp.Classification
import CloudIdentity.Gcp.Configuration
import CloudIdentity.Gcp.Connection
import CloudIdentity.Gcp.Name
import CloudIdentity.Gcp.Policy
import CloudIdentity.Identity.Request
import CloudIdentity.Identity.Trust
import CloudIdentity.InMemory.Aws
import CloudIdentity.InMemory.Gcp
import CloudIdentity.InMemory.Recording
import CloudIdentity.InMemory.Script
import CloudIdentity.InMemory.Session
import CloudIdentity.Journal.Entry
import CloudIdentity.Journal.Level
import CloudIdentity.Journal.Logger
import CloudIdentity.Journal.Timestamp
import CloudIdentity.Policy.Document
import CloudIdentity.Service.Adapter
import CloudIdentity.Service.Program
import CloudIdentity.Text.Affix
import CloudIdentity.Text.Blank
import CloudIdentity.Text.Numeral
import CloudIdentity.Text.Percent
import CloudIdentity.Text.Quoted
import CloudIdentity.Text.Utf8
import CloudIdentity.Text.Visible
import CloudIdentity.Validation.Checked
import CloudIdentity.Validation.Complaint
import CloudIdentity.Validation.Schema
import CloudIdentity.Proofs.Gcp.Edits
import CloudIdentity.Proofs.Service.Interleaving
import CloudIdentity.Proofs.Gcp.Concurrency
import CloudIdentity.Proofs.Aws.Convergence
import CloudIdentity.Proofs.Client.Failures
import CloudIdentity.Proofs.Gcp.PolicyStore
import CloudIdentity.Proofs.Gcp.Conditions
import CloudIdentity.Proofs.Validation.Acceptance
import CloudIdentity.Proofs.Client.Invocation
import CloudIdentity.Proofs.Service.Discipline
import CloudIdentity.Proofs.Client.Discipline
import CloudIdentity.Proofs.Aws.InlineStore
import CloudIdentity.Proofs.Gcp.AccountStore
import CloudIdentity.Proofs.Gcp.Convergence
import CloudIdentity.Proofs.Aws.Trust
import CloudIdentity.Proofs.Client.Observation
import CloudIdentity.Proofs.Gcp.Naming
import CloudIdentity.Proofs.Document.Comparison
import CloudIdentity.Proofs.Aws.InlineTranslation
import CloudIdentity.Proofs.Service.Custody
import CloudIdentity.Proofs.Client.Lifetime
import CloudIdentity.Proofs.Client.Release
import CloudIdentity.Proofs.Document.Printable
import CloudIdentity.Proofs.Document.Serialization
import CloudIdentity.Proofs.Document.Difference
import CloudIdentity.Proofs.Client.Surfacing
import CloudIdentity.Proofs.Aws.Encodability
import CloudIdentity.Proofs.Client.Existing
import CloudIdentity.Proofs.Document.Equivalence
import CloudIdentity.Proofs.Client.Ignored
import CloudIdentity.Proofs.Configuration.Reading
import CloudIdentity.Proofs.Aws.Keys
import CloudIdentity.Proofs.Gcp.Credentials
import CloudIdentity.Proofs.Client.SessionOverride
import CloudIdentity.Proofs.Validation.Idempotence
import CloudIdentity.Proofs.Journal.Line
import CloudIdentity.Proofs.Journal.Handlers
import CloudIdentity.Proofs.Gcp.Addressing
import CloudIdentity.Proofs.Aws.Blame
import CloudIdentity.Proofs.Client.Recounting
import CloudIdentity.Proofs.Client.Logging
