import Inspection.Http
import Inspection.Json.Printer
import Inspection.Main
import Inspection.Proofs.Binary64
import Inspection.Proofs.Filter.Grammar
import Inspection.Proofs.Filter.Verdict
import Inspection.Proofs.Filter.Criteria
import Inspection.Proofs.Arn
import Inspection.Proofs.Filed
import Inspection.Proofs.Session.Effect
import Inspection.Proofs.Session.Coherence
import Inspection.Proofs.Session.Invocation
import Inspection.Proofs.Http.Handling
import Inspection.Proofs.Http.Refusal
import Inspection.Proofs.Http.Standalone
import Inspection.Proofs.Filter.Blame
import Inspection.Proofs.Session.Chronology
import Inspection.Proofs.Store.Selection
import Inspection.Proofs.Session.Listings
import Inspection.Proofs.Paging
import Inspection.Proofs.Session.Growth
import Inspection.Proofs.Store.Listing
import Inspection.Proofs.Session.Browsing
import Inspection.Proofs.Decoding
import Inspection.Proofs.Request
import Inspection.Proofs.Session.Description
import Inspection.Proofs.Session.Permanence
import Inspection.Proofs.Store.Malformed
import Inspection.Proofs.Session.Durations
import Inspection.Proofs.Session.Subscriptions
import Inspection.Proofs.Session.Copies
import Inspection.Proofs.Session.RoundTrip
import Inspection.Proofs.ByteOrder
import Inspection.Proofs.Http.Regions
import Inspection.Proofs.Http.Reset
import Inspection.Proofs.Session.Mistyped
import Inspection.Proofs.Calendar
import Inspection.Proofs.Decimal
import Inspection.Proofs.Filter.Seconds
import Inspection.Proofs.Store.Pages
import Inspection.Proofs.Session.Acceptance
import Inspection.Proofs.Session.Naming
import Inspection.Proofs.Text
import Inspection.Proofs.Http.Credential
import Inspection.Proofs.Session.Dependence
import Inspection.Proofs.Session.Commutation
