import DeviceRelay.Value

/-!
# Options of a connection to the broker

A connection is made under named options. All but the address of the broker have a default that a caller
may replace, and a caller may add options of its own.
-/

namespace DeviceRelay.Broker

/-- The option that holds the address of the broker. -/
def addressOption : String := "bootstrap.servers"

/-- The options that are set unless a caller replaces them. -/
def standardOptions : Dictionary Value :=
  .ofList [(addressOption, .text ""), ("acks", .text "all"), ("retries", .int 10),
    ("request.timeout.ms", .int 120000), ("delivery.timeout.ms", .int 300000),
    ("socket.keepalive.enable", .bool true), ("security.protocol", .text "PLAINTEXT"),
    ("client.id", .text "kura_translator_producer"), ("statistics.interval.ms", .int 0)]

/-- The options of a connection to an address. The address cannot be replaced. -/
def options (address : String) (replaced : Dictionary Value) : Dictionary Value :=
  (Dictionary.ofList (standardOptions.entries ++ replaced.entries)).put addressOption (.text address)

end DeviceRelay.Broker
