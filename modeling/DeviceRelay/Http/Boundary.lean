import DeviceRelay.Http.Response
import DeviceRelay.Http.Route
import DeviceRelay.Service
import DeviceRelay.Text.LetterCase

/-!
# The HTTP boundary

Each request has an answer. The route is chosen first, the content is read afterwards, and only a content
that is a submission reaches the service. Each failure of the service is logged in full with its trace
before the response is made, because the response keeps most of it back.
-/

namespace DeviceRelay.Http

/-- A request. -/
structure Request where
  method : String
  target : String
  content : Bytes
  deriving Repr, DecidableEq

/-- The name under which the service presents itself. -/
def title : String := "Kura Translator"

/-- The version of the service. -/
def version : String := "0.1.0"

/-- The part that turns failures into responses. -/
def logSource : String := "kura_translator.api.exception_mappers"

/-- A failure that no one foresees, with the path at which it occurs. -/
def unforeseenText (path : List Char) (message : String) : String :=
  "Unhandled exception on POST " ++ Path.shown path ++ ": " ++ message

/-- A failure in full. -/
def failureText (path : List Char) : Failure → String
  | .rejected cause raw =>
    (Failure.rejected cause raw).message ++ " (connector=" ++ raw.connectorName ++ ", body=" ++
      raw.bodyHex.getD "None" ++ ")"
  | .broker reason => unforeseenText path reason
  | .unexpected _ message => unforeseenText path message
  | f => f.message

/-- The response to a failure, behind its entry in the log. -/
def refuse (path : List Char) (f : Failure) : Outcome Response :=
  .logged [.failure logSource (failureText path f)] (.ofFailure f)

/-- The response to a result of the service. -/
def respond (path : List Char) : Except Failure Message → Outcome Response
  | .error f => refuse path f
  | .ok m =>
    match m.dump with
    | .error fault => refuse path (.ofRecord fault)
    | .ok record =>
      let response := Response.ofRecord record
      if response.body.isWritable then .pure response
      else refuse path (.unexpected "ValueError" Text.unwritableMessage)

/-- The answer to a submission. -/
def submit (s : Service) (moment : Moment) (path : List Char) (category : String) (content : Bytes) :
    Outcome Response :=
  match Submission.read content with
  | .error .unreadable => .pure .unreadable
  | .error (.invalid problems) => .pure (.invalid problems)
  | .error .unreportable => refuse path (.unexpected "ValueError" Outward.notFinite)
  | .ok submission =>
    (s.process moment category (submission.raw moment.now)).andThen (respond path)

/-- The answer to a request that may have any content. -/
def serve (s : Service) (moment : Moment) (method : String) (r : Request) : Outcome Response :=
  match Route.ofTarget? r.target with
  | none => .pure .notFound
  | some (path, route) =>
    if !route.methods.contains method then .pure .methodNotAllowed
    else match route with
      | .health => .pure (.ofHealth moment.now s.categories)
      | .translate category => submit s moment path category r.content
      | .page => .pure (.bare 200)

/-- The answer to a request. The name of a method counts in capitals, and an answer to HEAD has no
content. -/
def answer (s : Service) (moment : Moment) (r : Request) : Outcome Response :=
  let method := Text.upper r.method
  let answered := serve s moment method r
  if method = "HEAD" then answered.map fun response => .bare response.status else answered

end DeviceRelay.Http
