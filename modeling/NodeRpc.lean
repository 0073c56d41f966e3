import NodeRpc.Catalog.Accounts
import NodeRpc.Catalog.Build
import NodeRpc.Catalog.Chain
import NodeRpc.Catalog.ChainSocket
import NodeRpc.Catalog.Lookup
import NodeRpc.Catalog.NodeControl
import NodeRpc.Catalog.Notices
import NodeRpc.Catalog.Standard
import NodeRpc.Catalog.Types
import NodeRpc.Catalog.Wallet
import NodeRpc.Catalog.WalletSocket
import NodeRpc.Command.Basic
import NodeRpc.Command.Error
import NodeRpc.Command.Flags
import NodeRpc.Envelope.Id
import NodeRpc.Envelope.Message
import NodeRpc.Json.Basic
import NodeRpc.Json.Raw
import NodeRpc.Json.Reader
import NodeRpc.Json.Writer
import NodeRpc.Logging.Config
import NodeRpc.Logging.Directive
import NodeRpc.Logging.Event
import NodeRpc.Logging.Filter
import NodeRpc.Number.Binary
import NodeRpc.Number.Decimal
import NodeRpc.Number.Integer
import NodeRpc.Registry.Basic
import NodeRpc.Registry.Codec
import NodeRpc.Registry.Help
import NodeRpc.Schema.Basic
import NodeRpc.Schema.Codec
import NodeRpc.Schema.Error
import NodeRpc.Schema.Reader
import NodeRpc.Schema.SortedMap
import NodeRpc.Schema.Union
import NodeRpc.Text.Classes
import NodeRpc.Text.Hex
import NodeRpc.Text.Lowercase
import NodeRpc.Text.Quoted
import NodeRpc.Text.Shown
import NodeRpc.Text.Utf8
import NodeRpc.Proofs.Number.Rounding
import NodeRpc.Proofs.Schema.Unions
import NodeRpc.Proofs.Schema.Leaves
import NodeRpc.Proofs.Schema.RoundTrip
import NodeRpc.Proofs.Registry.Runs
import NodeRpc.Proofs.Registry.Requests
import NodeRpc.Proofs.Command.Entries
import NodeRpc.Proofs.Command.Rows
import NodeRpc.Proofs.Catalog.Tables
import NodeRpc.Proofs.Catalog.RoundTrip
import NodeRpc.Proofs.Command.Arguments
import NodeRpc.Proofs.Catalog.Arguments
import NodeRpc.Proofs.Command.Decoding
import NodeRpc.Proofs.Registry.History
import NodeRpc.Proofs.Registry.Refusals
import NodeRpc.Proofs.Command.Coercion
import NodeRpc.Proofs.Registry.Construction
import NodeRpc.Proofs.Registry.Interchange
import NodeRpc.Proofs.Registry.Admission
import NodeRpc.Proofs.Registry.Building
import NodeRpc.Proofs.Registry.Order
import NodeRpc.Proofs.Schema.Acceptance
import NodeRpc.Proofs.Json.Grammar
import NodeRpc.Proofs.Json.Numbers
import NodeRpc.Proofs.Schema.Readers
import NodeRpc.Proofs.Schema.Reading
import NodeRpc.Proofs.Envelope.Ids
import NodeRpc.Proofs.Envelope.Requests
import NodeRpc.Proofs.Envelope.Responses
import NodeRpc.Proofs.Number.Truncation
import NodeRpc.Proofs.Schema.Shapes
import NodeRpc.Proofs.Schema.Canonical
import NodeRpc.Proofs.Catalog.Options
import NodeRpc.Proofs.Number.Precision
import NodeRpc.Proofs.Number.Operations
import NodeRpc.Proofs.Schema.Outputs
import NodeRpc.Proofs.Catalog.Payments
import NodeRpc.Proofs.Registry.Layout
import NodeRpc.Proofs.Registry.Reports
import NodeRpc.Proofs.Command.Flags
