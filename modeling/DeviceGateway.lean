import DeviceGateway.Bytes
import DeviceGateway.Charset
import DeviceGateway.Cli.Help
import DeviceGateway.Cli.Launch
import DeviceGateway.Cli.Options
import DeviceGateway.Cli.Serving
import DeviceGateway.Config.Basic
import DeviceGateway.Config.Layers
import DeviceGateway.Config.Load
import DeviceGateway.Config.Substitution
import DeviceGateway.Config.Tree
import DeviceGateway.Connection.Error
import DeviceGateway.Connection.Id
import DeviceGateway.Credentials
import DeviceGateway.Crypto.Argon2
import DeviceGateway.Crypto.Blake2b
import DeviceGateway.Crypto.PasswordHash
import DeviceGateway.Duration
import DeviceGateway.Gateway.Basic
import DeviceGateway.Gateway.Exchange
import DeviceGateway.Gateway.Round
import DeviceGateway.Gateway.Turn
import DeviceGateway.Handler
import DeviceGateway.Inbound.Message
import DeviceGateway.Inbound.Queue
import DeviceGateway.Inbound.Worker
import DeviceGateway.Index
import DeviceGateway.Journal
import DeviceGateway.Log
import DeviceGateway.Main
import DeviceGateway.Net.Address
import DeviceGateway.Number.Binary64
import DeviceGateway.Outbound.Message
import DeviceGateway.Outbound.Publisher
import DeviceGateway.Outbound.Table
import DeviceGateway.Packet.Basic
import DeviceGateway.Packet.Decode
import DeviceGateway.Packet.Layout
import DeviceGateway.Packet.Stream
import DeviceGateway.Reaction
import DeviceGateway.Script
import DeviceGateway.Session.Basic
import DeviceGateway.Session.Presence
import DeviceGateway.Session.Registry
import DeviceGateway.Settings
import DeviceGateway.Startup
import DeviceGateway.Text.Base64
import DeviceGateway.Text.Blank
import DeviceGateway.Text.Digits
import DeviceGateway.Text.Quoted
import DeviceGateway.Text.Unprintable
import DeviceGateway.Text.Utf8
import DeviceGateway.Tls.Der
import DeviceGateway.Tls.Key
import DeviceGateway.Tls.Material
import DeviceGateway.Tls.Pem
import DeviceGateway.Toml.Document
import DeviceGateway.Toml.Scalar
import DeviceGateway.Toml.Table
import DeviceGateway.Toml.Value
import DeviceGateway.Wire.Error
import DeviceGateway.Wire.Field
import DeviceGateway.Wire.VarInt
import DeviceGateway.Proofs.Session.Indices
import DeviceGateway.Proofs.Session.Transitions
import DeviceGateway.Proofs.Session.History
import DeviceGateway.Proofs.Session.Lifetime
import DeviceGateway.Proofs.Session.Brackets
import DeviceGateway.Proofs.Outbound.Frames
import DeviceGateway.Proofs.Text.Utf8
import DeviceGateway.Proofs.Text.Lossy
import DeviceGateway.Proofs.Charset
import DeviceGateway.Proofs.Config.Substitution
import DeviceGateway.Proofs.Wire.VarInt
import DeviceGateway.Proofs.Wire.Cursor
import DeviceGateway.Proofs.Wire.Groups
import DeviceGateway.Proofs.Packet.Reads
import DeviceGateway.Proofs.Packet.Body
import DeviceGateway.Proofs.Packet.Cursor
import DeviceGateway.Proofs.Packet.Frame
import DeviceGateway.Proofs.Packet.Framing
import DeviceGateway.Proofs.Packet.Sizes
import DeviceGateway.Proofs.Packet.Header
import DeviceGateway.Proofs.Packet.RoundTrip
import DeviceGateway.Proofs.Packet.Stream
import DeviceGateway.Proofs.Inbound.Queue
import DeviceGateway.Proofs.Inbound.Shift
import DeviceGateway.Proofs.Gateway.Handling
import DeviceGateway.Proofs.Gateway.Reading
import DeviceGateway.Proofs.Gateway.Links
import DeviceGateway.Proofs.Gateway.Course
import DeviceGateway.Proofs.Gateway.Occasions
import DeviceGateway.Proofs.Gateway.Replies
import DeviceGateway.Proofs.Gateway.Admission
import DeviceGateway.Proofs.Gateway.Delivery
import DeviceGateway.Proofs.Outbound.Reception
import DeviceGateway.Proofs.Outbound.Routing
import DeviceGateway.Proofs.Gateway.Echo
import DeviceGateway.Proofs.Gateway.Reconnects
import DeviceGateway.Proofs.Gateway.Isolation
import DeviceGateway.Proofs.Panics
import DeviceGateway.Proofs.Gateway.Containment
import DeviceGateway.Proofs.Credentials
import DeviceGateway.Proofs.Settings
import DeviceGateway.Proofs.Tls
import DeviceGateway.Proofs.Config.Validation
