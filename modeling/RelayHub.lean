import RelayHub.Action
import RelayHub.Bytes
import RelayHub.Config.Address
import RelayHub.Config.HubConfig
import RelayHub.Config.Load
import RelayHub.Config.Validate
import RelayHub.Crypto.Block
import RelayHub.Crypto.Curve
import RelayHub.Crypto.Nonce
import RelayHub.Crypto.Sha256
import RelayHub.Crypto.Signature
import RelayHub.Crypto.Sm3
import RelayHub.DomainName.Basic
import RelayHub.DomainName.Direction
import RelayHub.DomainName.DirectionTable
import RelayHub.DomainName.Joining
import RelayHub.DomainName.JoiningTable
import RelayHub.DomainName.Mapping
import RelayHub.DomainName.MappingTable
import RelayHub.DomainName.Punycode
import RelayHub.Files.Path
import RelayHub.Files.Tree
import RelayHub.Http.Gateway
import RelayHub.Http.HubServer
import RelayHub.Http.Peer
import RelayHub.Hub.Client
import RelayHub.Hub.Connectors
import RelayHub.Hub.Error
import RelayHub.Hub.Executor
import RelayHub.Hub.Registry
import RelayHub.Hub.Service
import RelayHub.Hub.Transport
import RelayHub.Json.Codec
import RelayHub.Json.Fault
import RelayHub.Json.Record
import RelayHub.Json.Scan
import RelayHub.Lab.Handler
import RelayHub.Lab.Line
import RelayHub.Lab.World
import RelayHub.Ledger.Basic
import RelayHub.Ledger.Block
import RelayHub.Ledger.Contracts
import RelayHub.Ledger.Extract
import RelayHub.Ledger.Memory
import RelayHub.Main
import RelayHub.Message.Contract
import RelayHub.Message.Request
import RelayHub.Net.Host
import RelayHub.Net.HostAddress
import RelayHub.Net.Percent
import RelayHub.Net.Url
import RelayHub.Net.UrlPath
import RelayHub.Node.Run
import RelayHub.Node.Setup
import RelayHub.Node.Start
import RelayHub.Numeric.Binary64
import RelayHub.Numeric.Power
import RelayHub.Proofs.Action
import RelayHub.Proofs.Bytes
import RelayHub.Proofs.Config.Overrides
import RelayHub.Proofs.Config.Validate
import RelayHub.Proofs.Files.Directory
import RelayHub.Proofs.Files.Orderly
import RelayHub.Proofs.Files.Path
import RelayHub.Proofs.Files.Walk
import RelayHub.Proofs.Http.Gateway
import RelayHub.Proofs.Http.Transport
import RelayHub.Proofs.Hub.Agreement
import RelayHub.Proofs.Hub.Answer
import RelayHub.Proofs.Hub.Authentic
import RelayHub.Proofs.Hub.Client
import RelayHub.Proofs.Hub.Delivery
import RelayHub.Proofs.Hub.Executor
import RelayHub.Proofs.Hub.Notes
import RelayHub.Proofs.Hub.Origin
import RelayHub.Proofs.Hub.Outcome
import RelayHub.Proofs.Hub.Redial
import RelayHub.Proofs.Hub.Registry
import RelayHub.Proofs.Json.Codec
import RelayHub.Proofs.Json.Number
import RelayHub.Proofs.Json.Record
import RelayHub.Proofs.Json.Text
import RelayHub.Proofs.Json.Written
import RelayHub.Proofs.Ledger.Books
import RelayHub.Proofs.Ledger.Grammar
import RelayHub.Proofs.Ledger.InOrder
import RelayHub.Proofs.Ledger.Memory
import RelayHub.Proofs.Ledger.Moves
import RelayHub.Proofs.Ledger.Registered
import RelayHub.Proofs.Message.Contract
import RelayHub.Proofs.Message.Wire
import RelayHub.Proofs.Net.Percent
import RelayHub.Proofs.Net.Url
import RelayHub.Proofs.Net.UrlPath
import RelayHub.Proofs.Node.Setup
import RelayHub.Proofs.Node.Stores
import RelayHub.Proofs.Relay.Agreement
import RelayHub.Proofs.Relay.Asked
import RelayHub.Proofs.Relay.Course
import RelayHub.Proofs.Relay.Fetching
import RelayHub.Proofs.Relay.History
import RelayHub.Proofs.Relay.Landed
import RelayHub.Proofs.Relay.Links
import RelayHub.Proofs.Relay.Lives
import RelayHub.Proofs.Relay.Once
import RelayHub.Proofs.Relay.Prefix
import RelayHub.Proofs.Relay.Results
import RelayHub.Proofs.Relay.Stopping
import RelayHub.Proofs.Relay.Tally
import RelayHub.Proofs.Relay.Transparent
import RelayHub.Proofs.Relay.Unsigned
import RelayHub.Proofs.Relay.Verified
import RelayHub.Proofs.Retry.Backoff
import RelayHub.Proofs.Retry.Disturbance
import RelayHub.Proofs.Retry.Journal
import RelayHub.Proofs.Retry.Law
import RelayHub.Proofs.Retry.Layers
import RelayHub.Proofs.Store.Apart
import RelayHub.Proofs.Store.Archive
import RelayHub.Proofs.Store.Beside
import RelayHub.Proofs.Store.ByteMap
import RelayHub.Proofs.Store.Calls
import RelayHub.Proofs.Store.Chain
import RelayHub.Proofs.Store.Durable
import RelayHub.Proofs.Store.Faithful
import RelayHub.Proofs.Store.Format
import RelayHub.Proofs.Store.Invariant
import RelayHub.Proofs.Store.Key
import RelayHub.Proofs.Store.Layout
import RelayHub.Proofs.Store.Lookup
import RelayHub.Proofs.Store.Order
import RelayHub.Proofs.Store.Record
import RelayHub.Proofs.Store.Reopened
import RelayHub.Proofs.Store.Seen
import RelayHub.Proofs.Store.Stored
import RelayHub.Proofs.Store.WriteOnce
import RelayHub.Proofs.Text.Cut
import RelayHub.Proofs.Text.Hex
import RelayHub.Proofs.Text.Strict
import RelayHub.Proofs.Text.Utf8
import RelayHub.Proofs.Trust.Binding
import RelayHub.Proofs.Trust.Signing
import RelayHub.Proofs.Trust.Store
import RelayHub.Proofs.Word
import RelayHub.Relay.Cursor
import RelayHub.Relay.Error
import RelayHub.Relay.Loop
import RelayHub.Relay.Operation
import RelayHub.Relay.Process
import RelayHub.Relay.Stats
import RelayHub.Retry.Backoff
import RelayHub.Retry.Script
import RelayHub.Store.Backend
import RelayHub.Store.BlockStore
import RelayHub.Store.ByteMap
import RelayHub.Store.File
import RelayHub.Store.Key
import RelayHub.Store.Layout
import RelayHub.Store.Memory
import RelayHub.Store.Record
import RelayHub.Text.Blank
import RelayHub.Text.CodeTable
import RelayHub.Text.Composition
import RelayHub.Text.CompositionTable
import RelayHub.Text.Cut
import RelayHub.Text.Digits
import RelayHub.Text.Hex
import RelayHub.Text.Quoted
import RelayHub.Text.Reader
import RelayHub.Text.Unseen
import RelayHub.Text.Utf8
import RelayHub.Toml.Document
import RelayHub.Toml.Scalar
import RelayHub.Toml.Value
import RelayHub.Trust.Error
import RelayHub.Trust.Key
import RelayHub.Trust.Store
