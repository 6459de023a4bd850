import DeviceRelay.ErrorReport
import DeviceRelay.Publisher
import DeviceRelay.Text.LetterCase
import DeviceRelay.Text.Numeral

/-!
# Settings

The service is set up by variables of its environment. Each has a default, and a variable that is set to
an empty text is set. The port has to be an integer; the level of the log is taken in capitals.
-/

namespace DeviceRelay

/-- The settings of the service. -/
structure Settings where
  /-- A file of descriptors that are asked before the packaged ones. -/
  descriptorsFile : Option String
  charset : String
  brokerAddress : String
  topics : Publisher
  host : String
  port : Int
  logLevel : String
  deriving Repr, DecidableEq

namespace Settings

/-- Read the settings from an environment. -/
def read (environment : String → Option String) : Except Text.NumeralFault Settings := do
  let port ← Text.readInteger ((environment "API_PORT").getD "8080")
  .ok { descriptorsFile := environment "PROTOCOL_DESCRIPTORS_FILE"
        charset := (environment "DEFAULT_CHARSET").getD "utf-8"
        brokerAddress := (environment "KAFKA_BOOTSTRAP_SERVERS").getD "localhost:9092"
        topics :=
          ⟨(environment "KAFKA_TRANSLATED_TOPIC").getD Publisher.standard.translatedTopic,
            (environment "KAFKA_ERROR_TOPIC").getD Publisher.standard.errorTopic⟩
        host := (environment "API_HOST").getD "0.0.0.0"
        port := port
        logLevel := Text.upper ((environment "LOG_LEVEL").getD "INFO") }

/-- The settings as a record. -/
def dump (s : Settings) : Json :=
  .obj [("PROTOCOL_DESCRIPTORS_FILE", .ofText? s.descriptorsFile),
    ("DEFAULT_CHARSET", .str s.charset), ("KAFKA_BOOTSTRAP_SERVERS", .str s.brokerAddress),
    ("KAFKA_TRANSLATED_TOPIC", .str s.topics.translatedTopic),
    ("KAFKA_ERROR_TOPIC", .str s.topics.errorTopic), ("API_HOST", .str s.host),
    ("API_PORT", .int s.port), ("LOG_LEVEL", .str s.logLevel),
    ("SERVICE_NAME", .str ErrorReport.serviceName)]

end Settings

end DeviceRelay
