import CatalogueEditor.Decimal.Shortest
import CatalogueEditor.Text.Quote
import CatalogueEditor.Catalogue.View
import CatalogueEditor.Endpoint.Operation
import CatalogueEditor.Session.Steps
import CatalogueEditor.Markup.Fragment
import CatalogueEditor.Json.Numeral
import CatalogueEditor.Json.Quoted
import CatalogueEditor.Json.Compound
import CatalogueEditor.Json.Ignored
import CatalogueEditor.Json.Tagged
import CatalogueEditor.Snapshot.Outcome
import CatalogueEditor.Snapshot.Request
import CatalogueEditor.Editor.Opening
import CatalogueEditor.Endpoint.Client
import CatalogueEditor.Session.Online
import CatalogueEditor.Proofs.ViewUpdates
import CatalogueEditor.Proofs.StepEffect
import CatalogueEditor.Proofs.SessionRun
import CatalogueEditor.Proofs.RowLocks
import CatalogueEditor.Proofs.SingleDialog
import CatalogueEditor.Proofs.EndpointAgreement
import CatalogueEditor.Proofs.RowCustody
import CatalogueEditor.Proofs.Completion
import CatalogueEditor.Proofs.StoredMessages
import CatalogueEditor.Proofs.SentCalls
import CatalogueEditor.Proofs.CheckedContent
import CatalogueEditor.Proofs.RunHistory
import CatalogueEditor.Proofs.Requests
import CatalogueEditor.Proofs.ScreenUpdates
import CatalogueEditor.Proofs.Rendering
import CatalogueEditor.Proofs.DeletePrompt
import CatalogueEditor.Proofs.StepPlan
import CatalogueEditor.Proofs.Independence
import CatalogueEditor.Proofs.Redirects
import CatalogueEditor.Proofs.FormDelivery
import CatalogueEditor.Proofs.Markup.Cuts
import CatalogueEditor.Proofs.Markup.References
import CatalogueEditor.Proofs.Markup.Attributes
import CatalogueEditor.Proofs.Markup.Names
import CatalogueEditor.Proofs.Markup.Tags
import CatalogueEditor.Proofs.Markup.Pieces
import CatalogueEditor.Proofs.Markup.Grammar
import CatalogueEditor.Proofs.Markup.Acceptance
import CatalogueEditor.Proofs.Markup.Composition
import CatalogueEditor.Proofs.Markup.Trees
import CatalogueEditor.Proofs.Markup.Conformance
import CatalogueEditor.Proofs.Markup.Positions
import CatalogueEditor.Proofs.DialogStates
import CatalogueEditor.Proofs.Traffic
import CatalogueEditor.Proofs.Indifference
import CatalogueEditor.Proofs.FormRoundTrip
import CatalogueEditor.Proofs.PostedForms
import CatalogueEditor.Proofs.DomainControls
import CatalogueEditor.Proofs.WebAddress
import CatalogueEditor.Proofs.EndpointAddress
import CatalogueEditor.Proofs.Inquiries
import CatalogueEditor.Proofs.Repetition
import CatalogueEditor.Proofs.Refusals
import CatalogueEditor.Proofs.OutcomeFeedback
import CatalogueEditor.Proofs.Json.Reading
import CatalogueEditor.Proofs.Json.Scalars
import CatalogueEditor.Proofs.Json.Values
import CatalogueEditor.Proofs.Snapshots
import CatalogueEditor.Proofs.InsertionOrder
import CatalogueEditor.Proofs.RestoredViews
import CatalogueEditor.Proofs.PageAddress
import CatalogueEditor.Proofs.Markup.Quotations
import CatalogueEditor.Proofs.CallLog
import CatalogueEditor.Proofs.SessionLog
import CatalogueEditor.Proofs.LogBounds
import CatalogueEditor.Proofs.Seeding
import CatalogueEditor.Proofs.LastWriters
import CatalogueEditor.Proofs.EditorOpening
import CatalogueEditor.Proofs.CountedAttempts
import CatalogueEditor.Proofs.LogSummaries
