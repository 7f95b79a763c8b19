import GrokEvents.Main
import GrokEvents.Json.Reader
import GrokEvents.Proofs.AccessLog.RoundTrip
import GrokEvents.Proofs.Service.Transparency
import GrokEvents.Proofs.Expr.Naming
import GrokEvents.Proofs.Event.Pruning
import GrokEvents.Proofs.Event.Schema
import GrokEvents.Proofs.Filter.Provenance
import GrokEvents.Proofs.Event.Mapping
import GrokEvents.Proofs.AccessLog.Client
import GrokEvents.Proofs.CommandLine.Agreement
import GrokEvents.Proofs.Service.Secrecy
import GrokEvents.Proofs.Grok.Plain
import GrokEvents.Proofs.Filter.Framing
import GrokEvents.Proofs.Event.Coherence
import GrokEvents.Proofs.Grok.Inert
import GrokEvents.Proofs.Grok.Budget
import GrokEvents.Proofs.Filter.Extraction
import GrokEvents.Proofs.Event.Explained
import GrokEvents.Proofs.Grok.Circular
import GrokEvents.Proofs.Grok.Untyped
import GrokEvents.Proofs.Grok.Openers
import GrokEvents.Proofs.Expr.Dropping
import GrokEvents.Proofs.Grok.Untagged
import GrokEvents.Proofs.Grok.Acceptance
import GrokEvents.Proofs.Grok.Merging
import GrokEvents.Proofs.Settings
import GrokEvents.Proofs.Time.Printed
import GrokEvents.Proofs.Event.Integer
import GrokEvents.Proofs.Event.Leaves
import GrokEvents.Proofs.Service.Recency
import GrokEvents.Proofs.Event.Items
