import DeviceRelay.Descriptor
import DeviceRelay.Envelope.Fault
import DeviceRelay.Text.Segments

/-!
# Reply channels

The topic of a reply is a row of segments,

    control prefix / account / client id / NAME-VERSION / verb / request id / more …

where the descriptor gives the separator, the prefix and the verb. The request id and what follows it
may be missing. The application's version is what stands behind the last dash, so a name may hold
dashes and a version may not.
-/

namespace DeviceRelay

/-- The parts of a reply topic. -/
structure ReplyChannel where
  account : String
  clientId : String
  appName : String
  appVersion : String
  verb : String
  requestId : Option String
  semanticParts : List String
  deriving Repr, DecidableEq

namespace ReplyChannel

/-- A name and a version on both sides of the last dash, neither empty. -/
def application? (segment : String) : Option (String × String) :=
  match Text.cutLast? '-' segment.toList with
  | none => none
  | some (name, version) =>
    if name.isEmpty ∨ version.isEmpty then none
    else some (String.ofList name, String.ofList version)

/-- The channel of a reply topic. -/
def read (topic : String) (d : Descriptor) : Except EnvelopeFault ReplyChannel :=
  match Text.split d.topicSeparator topic with
  | start :: account :: clientId :: app :: verb :: rest =>
    if start ≠ d.controlPrefix then .error (.wrongStart topic d.controlPrefix)
    else if verb ≠ d.replyVerb then .error (.notReply topic d.replyVerb)
    else if account = "" ∨ clientId = "" then .error (.emptyOwner topic)
    else match application? app with
      | none => .error (.badApplication app)
      | some (name, version) =>
        .ok ⟨account, clientId, name, version, verb, rest.head?, rest.tail⟩
  | _ => .error (.tooFewSegments topic)

/-- A channel as a record. -/
def dump (c : ReplyChannel) : Json :=
  .obj [("account", .str c.account), ("client_id", .str c.clientId), ("app_name", .str c.appName),
    ("app_version", .str c.appVersion), ("verb", .str c.verb),
    ("request_id", .ofText? c.requestId), ("semantic_parts", .arr (c.semanticParts.map .str))]

end ReplyChannel

end DeviceRelay
