import OpenClawService.UseCases.Approval
import OpenClawService.UseCases.OAuth
import OpenClawService.UseCases.Teams
import OpenClawService.Interleaving.OwnedLock
import OpenClawService.Locking.Protocol
import OpenClawService.Locking.Ownership
import OpenClawService.Rotation.Protocol
import OpenClawService.Rotation.Programs
import OpenClawService.Locking.Critical
import OpenClawService.Rotation.Safety
import OpenClawService.Authorization.Protocol
import OpenClawService.Authorization.Invariant
import OpenClawService.Authorization.Steps
import OpenClawService.Authorization.Safety
import OpenClawService.Approvals.Protocol
import OpenClawService.Approvals.Lifecycle
import OpenClawService.Approvals.Decisions
import OpenClawService.Connection.Unauthorized
import OpenClawService.Connection.Retry
import OpenClawService.Connection.Keeper
import OpenClawService.Connection.Request
import OpenClawService.Invoices.Protocol
import OpenClawService.Invoices.Programs
import OpenClawService.Invoices.Invariant
import OpenClawService.Invoices.Safety
import OpenClawService.Idempotency.Requests
import OpenClawService.Idempotency.Protocol
import OpenClawService.Idempotency.Answers
import OpenClawService.Idempotency.Once
import OpenClawService.Connection.Graph
import OpenClawService.Credentials.Protocol
import OpenClawService.Credentials.Programs
import OpenClawService.Credentials.Jobs
import OpenClawService.Credentials.Safety
import OpenClawService.Contention.Protocol
import OpenClawService.Contention.Steps
import OpenClawService.Contention.Programs
import OpenClawService.Contention.Calls
import OpenClawService.Grants.Protocol
import OpenClawService.Grants.History
import OpenClawService.Grants.Revocation
import OpenClawService.Grants.Lineage
import OpenClawService.Grants.Refreshable
import OpenClawService.Tenancy.Usable
import OpenClawService.Tenancy.Safety
import OpenClawService.Approvals.Records
import OpenClawService.Approvals.Shapes
import OpenClawService.Approvals.Registration
import OpenClawService.Approvals.Announcements
import OpenClawService.Idempotency.Bills
import OpenClawService.Interleaving.Deletion
import OpenClawService.Isolation.Agreement
import OpenClawService.Isolation.Protocol
import OpenClawService.Isolation.Programs
import OpenClawService.Isolation.Safety
import OpenClawService.Text.Percent
import OpenClawService.Text.Url
import OpenClawService.Text.Literal
import OpenClawService.Text.Markup
import OpenClawService.Text.Lines
import OpenClawService.Embedding.Outbound
import OpenClawService.Embedding.Filters
import OpenClawService.Embedding.Forms
import OpenClawService.Embedding.Messages
import OpenClawService.Storage.Solo
import OpenClawService.Storage.SaveLoad
import OpenClawService.Approvals.Resolution
import OpenClawService.Adapters.Envelopes
import OpenClawService.Exchanges.Passes
import OpenClawService.Exchanges.Refusals
import OpenClawService.Exchanges.Delivery
import OpenClawService.Acquisition.Rereads
import OpenClawService.Acquisition.Safety
import OpenClawService.Storage.JsonText
import OpenClawService.Storage.Keys
import OpenClawService.Storage.Sources
import OpenClawService.Api.Authority
import OpenClawService.Api.Replies
import OpenClawService.Keyspace.Refinement
import OpenClawService.Budgets.Routes
import OpenClawService.Replays.Safety
import OpenClawService.Embedding.Cards
import OpenClawService.Soundness.Safety
