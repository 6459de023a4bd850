import DeviceRelay.Http.Boundary
import DeviceRelay.Json.Writer
import DeviceRelay.Startup
import Std.Time.DateTime.Timestamp

/-!
# The program

The program sets itself up from its environment and answers requests. Each line of standard input is a
request: a JSON object with the members `method`, `path` and `content`. For each, standard output gets a
line with the answer, behind one line for each publication. The log goes to standard error. Without a line
on standard input the program ends.
-/

namespace DeviceRelay.Program

/-- The time. -/
def now : IO Timestamp := do
  let t ← Std.Time.Timestamp.now
  return .utc (t.toNanosecondsSinceUnixEpoch.val.fdiv 1000)

/-- An identifier that nobody else has: thirty-two hexadecimal digits. -/
def identifier : IO String := do
  let bytes ← IO.getRandomBytes 16
  return Hex.encode bytes.toList

/-- The variables of the environment that settings are read from. -/
def variableNames : List String :=
  ["PROTOCOL_DESCRIPTORS_FILE", "DEFAULT_CHARSET", "KAFKA_BOOTSTRAP_SERVERS", "KAFKA_TRANSLATED_TOPIC",
    "KAFKA_ERROR_TOPIC", "API_HOST", "API_PORT", "LOG_LEVEL"]

/-- The environment, as far as settings are read from it. -/
def environment : IO (Dictionary String) := do
  let entries ← variableNames.filterMapM fun name => do
    return (← IO.getEnv name).map fun value => (name, value)
  return .ofList entries

/-- A file as it is found. -/
def file (name : String) : IO DescriptorFile := do
  try
    return .octets (← IO.FS.readBinFile name).toList
  catch _ =>
    return .missing

/-- A member of a request. -/
def member (members : List (String × Json)) (name otherwise : String) : String :=
  match Json.last? name members with
  | some (.str s) => s
  | _ => otherwise

/-- The request that a line spells. -/
def requestOf (line : String) : Option Http.Request :=
  match Json.read ⟨none, none, none⟩ line.toList with
  | .ok (.obj members) =>
    some ⟨member members "method" "GET", member members "path" "/",
      Charset.Utf8.ofText (member members "content" "")⟩
  | _ => none

/-- A publication as a line. -/
def publicationLine (p : Publication) : String :=
  (Json.obj [("topic", .str p.topic), ("key", .ofText? (p.key.bind Charset.Utf8.toText?)),
    ("value", .ofText? (Charset.Utf8.toText? p.content))]).write Json.compact

/-- A response as a line. -/
def responseLine (r : Http.Response) : String :=
  (Json.obj [("status", .int r.status), ("body", r.body)]).write Json.compact

/-- An entry of the log as a line. -/
def entryLine (e : LogEntry) : String := e.source ++ " - " ++ e.level.text ++ " - " ++ e.text

/-- Answer a request. -/
def serve (s : Service) (r : Http.Request) : IO Unit := do
  let outcome := Http.answer s ⟨← now, ← identifier, .taken none⟩ r
  outcome.log.forM fun e => IO.eprintln (entryLine e)
  outcome.publications.forM fun p => IO.println (publicationLine p)
  IO.println (responseLine outcome.result)

/-- Answer the requests on the lines of a stream until it ends. -/
partial def serveAll (s : Service) (input : IO.FS.Stream) : IO Unit := do
  let line ← input.getLine
  unless line.isEmpty do
    match requestOf line with
    | some r => serve s r
    | none => IO.eprintln "not a request"
    serveAll s input

/-- Set up and answer until the requests end. -/
def run : IO UInt32 := do
  let env ← environment
  match Settings.read env.get? with
  | .error fault =>
    IO.eprintln fault.message
    return 1
  | .ok settings =>
    let extra ← file (settings.descriptorsFile.getD "")
    match Startup.service settings extra with
    | .error failure =>
      IO.eprintln failure.message
      return 1
    | .ok s =>
      serveAll s (← IO.getStdin)
      return 0

end DeviceRelay.Program

def main : IO UInt32 := DeviceRelay.Program.run
