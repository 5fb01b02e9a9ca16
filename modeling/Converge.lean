import Converge.Binary64
import Converge.Binary64.Layout
import Converge.Binary64.Shortest
import Converge.CommandLine.Arguments
import Converge.CommandLine.Help
import Converge.CommandLine.Report
import Converge.CommandLine.Session
import Converge.CommandLine.Verb
import Converge.Config
import Converge.Connector.Configuration
import Converge.Connector.Provider
import Converge.Context
import Converge.Credentials
import Converge.Decode
import Converge.Decode.Document
import Converge.Decode.Dynamic
import Converge.Decode.Text
import Converge.Diagnostic
import Converge.Dictionary
import Converge.Encode
import Converge.Failure
import Converge.Http.Address
import Converge.Http.Client
import Converge.Http.Message
import Converge.Http.Route
import Converge.Json
import Converge.Json.Fault
import Converge.Json.Numeral
import Converge.Json.Printer
import Converge.Json.Reading
import Converge.Json.Token
import Converge.Main
import Converge.Membership
import Converge.Proofs.Binary64.Worth
import Converge.Proofs.Connector.Configuration
import Converge.Proofs.Connector.Placeholder
import Converge.Proofs.Connector.Provider
import Converge.Proofs.Connector.Reading
import Converge.Proofs.Connector.Secrecy
import Converge.Proofs.Context
import Converge.Proofs.Context.History
import Converge.Proofs.Credentials
import Converge.Proofs.Decode
import Converge.Proofs.Decode.Agreement
import Converge.Proofs.Decode.Members
import Converge.Proofs.Decode.Text
import Converge.Proofs.Dictionary
import Converge.Proofs.Encode
import Converge.Proofs.Failure
import Converge.Proofs.Http.Address
import Converge.Proofs.Http.Outcome
import Converge.Proofs.Http.Route
import Converge.Proofs.Json.Reading
import Converge.Proofs.Membership
import Converge.Proofs.Membership.Reconciliation
import Converge.Proofs.Query
import Converge.Proofs.Query.Fault
import Converge.Proofs.Remote.Course
import Converge.Proofs.Remote.Exchange
import Converge.Proofs.Remote.Gate
import Converge.Proofs.Remote.Interruption
import Converge.Proofs.Remote.Keeping
import Converge.Proofs.Resource.Adoption
import Converge.Proofs.Resource.Bounds
import Converge.Proofs.Resource.Change
import Converge.Proofs.Resource.Convergence
import Converge.Proofs.Resource.Creation
import Converge.Proofs.Resource.Drift
import Converge.Proofs.Resource.Encoding
import Converge.Proofs.Resource.Gated
import Converge.Proofs.Resource.History
import Converge.Proofs.Resource.Identity
import Converge.Proofs.Resource.Interruption
import Converge.Proofs.Resource.Kept
import Converge.Proofs.Resource.Ledger
import Converge.Proofs.Resource.LedgerDrift
import Converge.Proofs.Resource.LedgerGrammar
import Converge.Proofs.Resource.LedgerSchema
import Converge.Proofs.Resource.PartialUpdate
import Converge.Proofs.Resource.PaymentsConnector
import Converge.Proofs.Resource.PaymentsPool
import Converge.Proofs.Resource.Planning
import Converge.Proofs.Resource.ProviderKept
import Converge.Proofs.Resource.Refresh
import Converge.Proofs.Resource.Reload
import Converge.Proofs.Resource.Rereading
import Converge.Proofs.Resource.Roundtrip
import Converge.Proofs.Resource.Secrecy
import Converge.Proofs.Resource.Validation
import Converge.Proofs.Resource.Webhook
import Converge.Proofs.Resource.WebhookSettlement
import Converge.Proofs.Setup
import Converge.Proofs.Text.Percent
import Converge.Proofs.Value
import Converge.Proofs.Value.NormalForm
import Converge.Proofs.Value.Numbers
import Converge.Proofs.Value.Sorted
import Converge.Proofs.Yaml.Document
import Converge.Query
import Converge.Remote.Call
import Converge.Remote.Memory
import Converge.Remote.Program
import Converge.Remote.Rehearsal
import Converge.Remote.Run
import Converge.Resource
import Converge.Resource.Documents
import Converge.Resource.Kind
import Converge.Resource.Ledger
import Converge.Resource.LedgerSchema
import Converge.Resource.PaymentsConnector
import Converge.Resource.PaymentsPool
import Converge.Resource.ReconciliationPolicy
import Converge.Resource.Webhook
import Converge.Setup
import Converge.Stack.Envelope
import Converge.Stack.Ledger
import Converge.Stack.Module
import Converge.Stack.Policy
import Converge.Stack.Pool
import Converge.Stack.Webhook
import Converge.Text.Blank
import Converge.Text.Duration
import Converge.Text.Percent
import Converge.Text.Printable
import Converge.Text.Quoted
import Converge.Text.Shown
import Converge.Timestamp
import Converge.Value
import Converge.Value.Shown
import Converge.Yaml.Document
import Converge.Yaml.Node
import Converge.Yaml.Place
import Converge.Yaml.Resolution
import Converge.Yaml.Source
import Converge.Yaml.Token
import Converge.Yaml.Token.Reading
import Converge.Yaml.Token.Scalar
import Converge.Yaml.Token.Tag
