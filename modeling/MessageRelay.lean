import MessageRelay.Action
import MessageRelay.Bytes
import MessageRelay.Client.Call
import MessageRelay.Client.Reception
import MessageRelay.Connection.Incoming
import MessageRelay.Connection.Intake
import MessageRelay.Connection.Outbox
import MessageRelay.Crc32
import MessageRelay.Json.Decode
import MessageRelay.Json.Reader
import MessageRelay.Json.Value
import MessageRelay.Json.Writer
import MessageRelay.Log.Line
import MessageRelay.Log.Notice
import MessageRelay.Log.Threshold
import MessageRelay.Main
import MessageRelay.Network.IpAddress
import MessageRelay.Protocol.ClientId
import MessageRelay.Protocol.Codes
import MessageRelay.Protocol.Field
import MessageRelay.Protocol.Framing
import MessageRelay.Protocol.Headers
import MessageRelay.Protocol.Request
import MessageRelay.Protocol.Response
import MessageRelay.Protocol.Sizes
import MessageRelay.Protocol.WireError
import MessageRelay.Service.Dispatch
import MessageRelay.Service.Handler
import MessageRelay.Service.Multiplexer
import MessageRelay.Startup.CommandLine
import MessageRelay.Startup.Launch
import MessageRelay.Startup.Layers
import MessageRelay.Startup.Settings
import MessageRelay.Startup.SettingsDocument
import MessageRelay.Startup.WorkFolder
import MessageRelay.Store.Backend
import MessageRelay.Store.DataFolder
import MessageRelay.Store.Directory
import MessageRelay.Store.Durable
import MessageRelay.Store.Journal
import MessageRelay.Store.JsonForm
import MessageRelay.Store.Mailbox
import MessageRelay.Store.Record
import MessageRelay.Store.Rehearsal
import MessageRelay.Store.RelayStore
import MessageRelay.Store.StoreError
import MessageRelay.Store.Volatile
import MessageRelay.Table
import MessageRelay.Text.Blank
import MessageRelay.Text.Decimal
import MessageRelay.Text.DefaultIgnorable
import MessageRelay.Text.GraphemeExtend
import MessageRelay.Text.Quoted
import MessageRelay.Text.Unprintable
import MessageRelay.Text.Utf8
import MessageRelay.Timestamp
import MessageRelay.Timestamp.Clock
import MessageRelay.Timestamp.Rfc3339
import MessageRelay.Yaml.BlockScalar
import MessageRelay.Yaml.Cursor
import MessageRelay.Yaml.Node
import MessageRelay.Yaml.Node.Parser
import MessageRelay.Yaml.Scalar
import MessageRelay.Yaml.Token
import MessageRelay.Yaml.Token.Directive
import MessageRelay.Yaml.Token.Lexer
import MessageRelay.Proofs.Connection.Reassembly
import MessageRelay.Proofs.ActionSimulation
import MessageRelay.Proofs.Service.DispatchSimulation
import MessageRelay.Proofs.Store.MailboxOrder
import MessageRelay.Proofs.Service.Visit
import MessageRelay.Proofs.Service.Delivery
import MessageRelay.Proofs.Text.DecimalRoundTrip
import MessageRelay.Proofs.Timestamp.TextRoundTrip
import MessageRelay.Proofs.Json.DecodeRoundTrip
import MessageRelay.Proofs.Store.StoredForms
import MessageRelay.Proofs.Store.DirectoryOrder
import MessageRelay.Proofs.Store.JournalReplay
import MessageRelay.Proofs.Store.StoreCall
import MessageRelay.Proofs.Store.CallEffect
import MessageRelay.Proofs.Store.Recovery
import MessageRelay.Proofs.Store.CrashConsistency
import MessageRelay.Proofs.Store.PlainCalls
import MessageRelay.Proofs.Store.Refinement
import MessageRelay.Proofs.Protocol.Packets
import MessageRelay.Proofs.Protocol.ResponseRoundTrip
import MessageRelay.Proofs.Client.Receiving
import MessageRelay.Proofs.Connection.Sending
import MessageRelay.Proofs.Service.Preparation
import MessageRelay.Proofs.Service.OneResponse
import MessageRelay.Proofs.Store.EitherKind
import MessageRelay.Proofs.Service.Handling
import MessageRelay.Proofs.Service.Refusal
import MessageRelay.Proofs.Service.ReadRequest
import MessageRelay.Proofs.Service.Registration
import MessageRelay.Proofs.Store.Roll
import MessageRelay.Proofs.Store.JournalGrammar
import MessageRelay.Proofs.Store.Opening
import MessageRelay.Proofs.Store.DirectoryOnDisk
import MessageRelay.Proofs.Service.Turns
import MessageRelay.Proofs.Service.PlainNames
import MessageRelay.Proofs.Client.Mirroring
import MessageRelay.Proofs.Checksum
import MessageRelay.Proofs.Store.ChangedByte
import MessageRelay.Proofs.Store.MailboxCoherence
import MessageRelay.Proofs.Service.Collection
import MessageRelay.Proofs.Protocol.FieldReading
import MessageRelay.Proofs.Protocol.BodyGrammar
import MessageRelay.Proofs.Store.LoadedDirectory
import MessageRelay.Proofs.Store.OpenedFolder
import MessageRelay.Proofs.Protocol.ListPayload
import MessageRelay.Proofs.Service.Listing
import MessageRelay.Proofs.Service.WholeListing
import MessageRelay.Proofs.Connection.Readings
import MessageRelay.Proofs.Connection.Demands
import MessageRelay.Proofs.Connection.ImmaterialBytes
import MessageRelay.Proofs.Service.Indifference
import MessageRelay.Proofs.Protocol.PacketLayout
import MessageRelay.Proofs.Connection.Writes
import MessageRelay.Proofs.Startup.Sources
import MessageRelay.Proofs.Startup.Environment
import MessageRelay.Proofs.Startup.Precedence
import MessageRelay.Proofs.Log.Colours
import MessageRelay.Proofs.Log.LineText
