import DeviceRelay.Failure
import DeviceRelay.Http.Submission
import DeviceRelay.Message

/-!
# Responses

A response has a status and a JSON body. A failure answers with the status, a text and the code of the
failure. The text of a category that nobody translates is told; what else goes wrong stays inside, so that
the body of a response with status 500 depends on the code alone.
-/

namespace DeviceRelay.Http

/-- What a request is answered with. -/
structure Response where
  status : Nat
  body : Json

namespace Response

/-- A response that says one thing. -/
def detail (status : Nat) (content : Json) : Response := ⟨status, .obj [("detail", content)]⟩

/-- No route has the path. -/
def notFound : Response := detail 404 (.str "Not Found")

/-- The route does not take the method. -/
def methodNotAllowed : Response := detail 405 (.str "Method Not Allowed")

/-- The content of the request is read no further. -/
def unreadable : Response := detail 400 (.str "There was an error parsing the body")

/-- The content of the request is no submission. -/
def invalid (problems : List Problem) : Response := detail 422 (.arr (problems.map Problem.toJson))

/-- A response with nothing in it that is JSON. -/
def bare (status : Nat) : Response := ⟨status, .null⟩

/-! ### Failures -/

/-- What is said of failures that stay inside. -/
def internalMessage : String := "An internal server error occurred"

/-- The body of a failure. -/
def failureBody (status : Nat) (message : String) (code : Option String) : Json :=
  .obj [("type", .str "exceptionInfo"), ("httpErrorCode", .int status), ("message", .str message),
    ("errorCode", .ofText? code)]

/-- The status of a failure. -/
def statusOf : Failure → Nat
  | .notFound _ => 404
  | _ => 500

/-- What is told of a failure. -/
def messageOf : Failure → String
  | .notFound category => (Failure.notFound category).message
  | _ => internalMessage

/-- The response to a failure. -/
def ofFailure (f : Failure) : Response :=
  ⟨statusOf f, failureBody (statusOf f) (messageOf f) f.code?⟩

/-! ### Messages -/

/-- The response to a message that was translated, from its record. -/
def ofRecord (record : Json) : Response := ⟨200, Outward.ofJson record⟩

/-- How the service is: the time and what it translates. -/
def ofHealth (now : Timestamp) (categories : List String) : Response :=
  ⟨200, .obj [("status", .str "healthy"), ("timestamp", .str now.isoText),
    ("categories", .arr (categories.map .str))]⟩

end Response

end DeviceRelay.Http
