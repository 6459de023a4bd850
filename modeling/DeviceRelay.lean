import DeviceRelay.Broker.Request
import DeviceRelay.Main
import DeviceRelay.Proofs.Body
import DeviceRelay.Proofs.Content
import DeviceRelay.Proofs.Envelope
import DeviceRelay.Proofs.Message
import DeviceRelay.Proofs.Presence
import DeviceRelay.Proofs.Record.Assignment
import DeviceRelay.Proofs.Problem
import DeviceRelay.Proofs.Schema.Member
import DeviceRelay.Proofs.Schema.Conformance
import DeviceRelay.Proofs.Decoding
import DeviceRelay.Proofs.Schema.Edit
import DeviceRelay.Proofs.Tolerance
import DeviceRelay.Proofs.FirstFault
import DeviceRelay.Proofs.Precedence
import DeviceRelay.Proofs.Independence
import DeviceRelay.Proofs.Dictionary
import DeviceRelay.Proofs.Value.Parts
import DeviceRelay.Proofs.ErrorReport
import DeviceRelay.Proofs.Http.Boundary
import DeviceRelay.Proofs.Message.Integers
import DeviceRelay.Proofs.Replay
import DeviceRelay.Proofs.Service.Accounting
import DeviceRelay.Proofs.Descriptor.File
import DeviceRelay.Proofs.Registry
import DeviceRelay.Proofs.Separation
import DeviceRelay.Proofs.Reencoding
import DeviceRelay.Proofs.Notification
import DeviceRelay.Proofs.ResponseCode
import DeviceRelay.Proofs.NullMetrics
import DeviceRelay.Proofs.DateOrder
import DeviceRelay.Proofs.Lists
import DeviceRelay.Proofs.Undecodable
import DeviceRelay.Proofs.Descriptor.Isolation
import DeviceRelay.Proofs.Command.Coherence
import DeviceRelay.Proofs.ItemIdentity
import DeviceRelay.Proofs.SigningRequest
import DeviceRelay.Proofs.Publication
import DeviceRelay.Proofs.Value.Published
import DeviceRelay.Proofs.Broker.Backoff
import DeviceRelay.Proofs.Value.Hexed
import DeviceRelay.Proofs.Dispatch
import DeviceRelay.Proofs.Lifecycle
