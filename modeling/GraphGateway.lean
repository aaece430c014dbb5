import GraphGateway.Main
import GraphGateway.Files.Tree
import GraphGateway.Json.Codec
import GraphGateway.Protocol.Stream
import GraphGateway.Native.Database
import GraphGateway.Proofs.Exchange
import GraphGateway.Proofs.Catalog.Inquiry
import GraphGateway.Proofs.Sorting
import GraphGateway.Proofs.Catalog.Literal
import GraphGateway.Proofs.Catalog.Completeness
import GraphGateway.Proofs.Protocol.Reply
import GraphGateway.Proofs.Text.Utf8
import GraphGateway.Proofs.Protocol.Validation
import GraphGateway.Proofs.Protocol.Params
import GraphGateway.Proofs.Protocol.Refusal
import GraphGateway.Proofs.Protocol.FailureLevel
import GraphGateway.Proofs.Protocol.Access
import GraphGateway.Proofs.Json.Printed
import GraphGateway.Proofs.Protocol.Independence
import GraphGateway.Proofs.Protocol.Framing
import GraphGateway.Proofs.Catalog.Rearrangement
import GraphGateway.Proofs.Catalog.Content
import GraphGateway.Proofs.Protocol.SchemaText
import GraphGateway.Proofs.Startup.Order
import GraphGateway.Proofs.Engine.Cursors
import GraphGateway.Proofs.Process
import GraphGateway.Proofs.Catalog.Transport
import GraphGateway.Proofs.Json.Indented
import GraphGateway.Proofs.Protocol.PromptText
import GraphGateway.Proofs.Protocol.Succession
import GraphGateway.Proofs.Protocol.Traffic
import GraphGateway.Proofs.Protocol.Interruption
import GraphGateway.Proofs.Startup.Seeding
import GraphGateway.Proofs.Json.Numeral
import GraphGateway.Proofs.Json.Verbatim
import GraphGateway.Proofs.Protocol.QueryText
import GraphGateway.Proofs.Number.Widening
import GraphGateway.Proofs.Native.Places
import GraphGateway.Proofs.Startup.ReadOnly
import GraphGateway.Proofs.Startup.Ending
import GraphGateway.Proofs.CommandLine.Launch
import GraphGateway.Proofs.CommandLine.Agreement
import GraphGateway.Proofs.Startup.Splitting
import GraphGateway.Proofs.Catalog.Probe
import GraphGateway.Proofs.Json.Grammar
import GraphGateway.Proofs.Json.Record
import GraphGateway.Proofs.Protocol.Envelope
import GraphGateway.Proofs.Config.Environment
import GraphGateway.Proofs.CommandLine.Layers
import GraphGateway.Proofs.Protocol.Restatement
import GraphGateway.Proofs.CanonicalForm
import GraphGateway.Proofs.Config.Reloading
