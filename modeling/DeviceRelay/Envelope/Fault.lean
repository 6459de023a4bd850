import DeviceRelay.Value.Text

/-!
# What can be wrong with an envelope

Before the body of a message is looked at, its connector has to be known, its topic has to have the
form that the connector uses, and its response code has to be one of four. Each constructor names the
rule that is broken and holds what its text mentions.
-/

namespace DeviceRelay

/-- The first broken rule of an envelope. -/
inductive EnvelopeFault where
  | unknownConnector (name : String)
  | unsupportedEncoding (connector encoding : String)
  | tooFewSegments (topic : String)
  /-- The first segment of a reply topic is not the control prefix. -/
  | wrongStart (topic expected : String)
  /-- The fifth segment is not the verb of replies. -/
  | notReply (topic verb : String)
  /-- The account or the client id of a reply topic is empty. -/
  | emptyOwner (topic : String)
  /-- The application's segment is not a name, a dash and a version. -/
  | badApplication (segment : String)
  | notFiveSegments (topic : String)
  /-- The first segment of a lifecycle topic is not the control prefix. -/
  | wrongLifecycleStart (topic expected : String)
  | notNotification (topic phase : String)
  /-- The account or the client id of a lifecycle topic is empty. -/
  | emptyLifecycleOwner (topic : String)
  /-- A truth value in the place of a response code. -/
  | codeNotNumber (value : Value)
  | codeNotInteger (value : Value)
  | unsupportedCode (number : Int)
  deriving Repr

/-- The text of an envelope fault. -/
def EnvelopeFault.message : EnvelopeFault → String
  | .unknownConnector name => s!"No protocol descriptor for connector '{name}'"
  | .unsupportedEncoding connector encoding =>
    s!"Connector '{connector}' uses unsupported body encoding '{encoding}'"
  | .tooFewSegments topic => s!"Reply topic '{topic}' has too few segments"
  | .wrongStart topic expected => s!"Reply topic '{topic}' does not start with '{expected}'"
  | .notReply topic verb => s!"Topic '{topic}' is not a reply (expected '{verb}')"
  | .emptyOwner topic => s!"Reply topic '{topic}' has an empty account or client id"
  | .badApplication segment => s!"Application segment '{segment}' is not in APP-VERSION form"
  | .notFiveSegments topic => s!"Lifecycle topic '{topic}' must have exactly 5 segments"
  | .wrongLifecycleStart topic expected =>
    s!"Lifecycle topic '{topic}' does not start with '{expected}'"
  | .notNotification topic phase => s!"Topic '{topic}' is not a {phase} notification"
  | .emptyLifecycleOwner topic => s!"Lifecycle topic '{topic}' has an empty account or client id"
  | .codeNotNumber value => s!"Response code " ++ value.shown ++ " is not a number"
  | .codeNotInteger value => s!"Response code " ++ value.shown ++ " is not an integer"
  | .unsupportedCode number => s!"Unsupported response code: {number}"

end DeviceRelay
