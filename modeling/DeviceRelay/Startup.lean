import DeviceRelay.Broker.Connection
import DeviceRelay.Broker.Options
import DeviceRelay.Descriptor.File
import DeviceRelay.Service
import DeviceRelay.Settings

/-!
# Starting up

The registry is built first, then the broker is connected, and then the server runs until it ends or
breaks off. However it ends, the publisher is closed behind it. What happens outside (the attempts to
connect and the sleep behind each, the end of the server, the publications that are left) comes in as values.
-/

namespace DeviceRelay

/-- What the server is started with. -/
structure Launch where
  host : String
  port : Int
  logLevel : String
  deriving Repr, DecidableEq

/-- How a run of the program goes. -/
structure Startup where
  result : Except Failure Unit
  /-- What the server was started with, if it was. -/
  launches : List Launch
  /-- The options of each attempt to connect. -/
  connections : List (Dictionary Value)
  log : List LogEntry

namespace Startup

/-- The registry that the settings ask for; `file` is what stands under the name that they give. An empty
name is none. -/
def registry (settings : Settings) (file : DescriptorFile) : Except Failure Registry :=
  Registry.withFile settings.charset
    ((settings.descriptorsFile.filter fun name => name != "").map fun _ => file)

/-- The service that the settings ask for. -/
def service (settings : Settings) (file : DescriptorFile) : Except Failure Service :=
  (registry settings file).map fun r =>
    .ofTable (.full r) (some (.ofTopics settings.topics none none))

/-- What the settings start the server with. -/
def launch (settings : Settings) : Launch :=
  ⟨settings.host, settings.port, Text.lower settings.logLevel⟩

/-- A run with settings. -/
def run (settings : Settings) (file : DescriptorFile) (attempts : Nat → Broker.Attempt Unit)
    (sleep : Nat → Broker.Delay → Except Failure Unit) (server : Launch → Except Failure Unit)
    (remaining : Int) : Startup :=
  match service settings file with
  | .error failure => ⟨.error failure, [], [], []⟩
  | .ok _ =>
    let link := Broker.Connection.establish attempts sleep Broker.Connection.standardDelay
      Broker.Connection.standardLimit
    let options := List.replicate link.attempts (Broker.options settings.brokerAddress .empty)
    match link.result with
    | .error failure => ⟨.error failure, [], options, link.log⟩
    | .ok _ =>
      ⟨server (launch settings), [launch settings], options, link.log ++ Publisher.close remaining⟩

end Startup

end DeviceRelay
