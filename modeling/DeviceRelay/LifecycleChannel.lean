import DeviceRelay.Descriptor
import DeviceRelay.Envelope.Fault
import DeviceRelay.Text.Segments

/-!
# Lifecycle channels

A broker tells on a device's behalf what became of it. The topic has exactly five segments,

    control prefix / account / client id / MQTT / phase

and no application or request.
-/

namespace DeviceRelay

/-- What became of a device. -/
inductive LifecyclePhase where
  | missing
  deriving Repr, DecidableEq

/-- The name of a phase. -/
def LifecyclePhase.text : LifecyclePhase → String
  | .missing => "MISSING"

/-- The parts of a lifecycle topic. -/
structure LifecycleChannel where
  account : String
  clientId : String
  phase : LifecyclePhase
  deriving Repr, DecidableEq

namespace LifecycleChannel

/-- The segment that stands for the broker. -/
def brokerSegment : String := "MQTT"

/-- The channel of a lifecycle topic of a phase. -/
def read (topic : String) (d : Descriptor) (phase : LifecyclePhase) :
    Except EnvelopeFault LifecycleChannel :=
  match Text.split d.topicSeparator topic with
  | [start, account, clientId, app, verb] =>
    if start ≠ d.controlPrefix then .error (.wrongLifecycleStart topic d.controlPrefix)
    else if app ≠ brokerSegment ∨ verb ≠ phase.text then .error (.notNotification topic phase.text)
    else if account = "" ∨ clientId = "" then .error (.emptyLifecycleOwner topic)
    else .ok ⟨account, clientId, phase⟩
  | _ => .error (.notFiveSegments topic)

/-- A channel as a record. -/
def dump (c : LifecycleChannel) : Json :=
  .obj [("account", .str c.account), ("client_id", .str c.clientId), ("phase", .str c.phase.text)]

end LifecycleChannel

end DeviceRelay
