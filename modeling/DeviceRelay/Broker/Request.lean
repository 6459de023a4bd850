import DeviceRelay.Broker.Connection
import DeviceRelay.Broker.Options

/-!
# Asking for a connection

Whoever asks for a connection gives the address of the broker and settings by name. Two names are not
options of the connection: they set how many attempts there may be and how long the first delay is. These
two may also be given apart. A name that is given twice makes the whole fail before the first attempt, and
so does a number of attempts that is none.
-/

namespace DeviceRelay.Broker

/-- The part through which a connection is asked for. -/
inductive Entrance where
  /-- The part that connects. -/
  | connector
  /-- The part that publishes. -/
  | publisher
  deriving Repr, DecidableEq

namespace Entrance

/-- The name of an entrance. -/
def name : Entrance → String
  | .connector => "create_kafka_producer()"
  | .publisher => "TranslatorKafkaProducer.create()"

/-- The name of an entrance with the part that it belongs to. -/
def fullName : Entrance → String
  | .connector => "kura_translator.mq.kafka_helpers." ++ name .connector
  | .publisher => "kura_translator.mq.kafka_producer." ++ name .publisher

/-- The names that are settled before any setting is. -/
def taken : Entrance → List String
  | .connector => ["bootstrap_servers"]
  | .publisher => ["cls", "bootstrap_servers"]

end Entrance

/-- How a connection is asked for. -/
structure Request where
  entrance : Entrance
  address : String
  /-- The settings that are given apart. -/
  apart : Dictionary Value
  settings : Dictionary Value

namespace Request

/-- The name that sets the number of attempts. -/
def limitName : String := "max_attempts"

/-- The name that sets the first delay. -/
def delayName : String := "base_delay"

/-- What is said of the first name that is given twice. -/
def repeated? (r : Request) : Option String :=
  match r.settings.names.find? fun name => r.apart.has name with
  | some name =>
    some (r.entrance.fullName ++ " got multiple values for keyword argument '" ++ name ++ "'")
  | none => (r.settings.names.find? fun name => r.entrance.taken.contains name).map fun name =>
    r.entrance.name ++ " got multiple values for argument '" ++ name ++ "'"

/-- The value of a setting, wherever it is given. -/
def get? (r : Request) (name : String) : Option Value := (r.apart.get? name).or (r.settings.get? name)

/-- What is said of a number of attempts that is none. -/
def notCount : Value → String
  | .text _ => "can only concatenate str (not \"int\") to str"
  | .list _ => "can only concatenate list (not \"int\") to list"
  | .float _ => "'float' object cannot be interpreted as an integer"
  | v => s!"unsupported operand type(s) for +: '{v.kindName}' and 'int'"

/-- The number of attempts. A number below one allows none. -/
def limit (r : Request) : Except String Nat :=
  match r.get? limitName with
  | none => .ok Connection.standardLimit
  | some (.int n) => .ok n.toNat
  | some (.bool b) => .ok b.toNat
  | some v => .error (notCount v)

/-- The first delay. -/
def delay (r : Request) : Delay := (r.get? delayName).getD Connection.standardDelay

/-- The options of the connection. -/
def options (r : Request) : Dictionary Value :=
  Broker.options r.address <| r.settings.filterNames fun name => name ≠ limitName ∧ name ≠ delayName

/-- What comes of the request. -/
def establish {α : Type} (r : Request) (outcome : Nat → Attempt α) (sleep : Nat → Delay → Except Failure Unit) :
    Connection α :=
  let refused (message : String) : Connection α := ⟨.error (.unexpected "TypeError" message), 0, [], []⟩
  match r.repeated?, r.limit with
  | some message, _ => refused message
  | none, .error message => refused message
  | none, .ok limit => Connection.establish outcome sleep r.delay limit

end Request

end DeviceRelay.Broker
