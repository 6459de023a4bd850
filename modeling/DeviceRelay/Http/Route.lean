import DeviceRelay.Http.Path

/-!
# Routes

The service answers under two paths: one tells how it is, the other takes a raw message of the category
that its last segment names. Beside them there are pages about the service. A path that is known but for
slashes at its end is asked for again without them.
-/

namespace DeviceRelay.Http

/-- What a path leads to. -/
inductive Route where
  | health
  | translate (category : String)
  /-- A page about the service. -/
  | page
  deriving Repr, DecidableEq

namespace Route

/-- The path of the health route. -/
def healthPath : List Char := "/health".toList

/-- The paths of pages. -/
def pagePaths : List (List Char) :=
  ["/openapi.json", "/docs", "/docs/oauth2-redirect", "/redoc"].map String.toList

/-- What a path that names a category begins with. -/
def translateStart : List Char := "/translate/".toList

/-- The category that a path names: one segment that is not empty. -/
def category? (path : List Char) : Option String :=
  if translateStart.isPrefixOf path then
    let segment := path.drop translateStart.length
    if segment.isEmpty || segment.contains '/' then none else some (String.ofList segment)
  else none

/-- The path without one line break behind it. -/
def withoutBreak (path : List Char) : List Char :=
  if path.getLast? = some '\n' then path.dropLast else path

/-- The route of a path as it stands. A line break behind a path that is known is passed over. -/
def direct? (path : List Char) : Option Route :=
  if withoutBreak path = healthPath then some .health
  else if pagePaths.contains (withoutBreak path) then some .page
  else (category? path).map .translate

/-- The path that is asked for in the end, and its route; there may be so many steps on the way. -/
def follow? : Nat → List Char → Option (List Char × Route)
  | 0, _ => none
  | steps + 1, path =>
    match direct? path with
    | some route => some (path, route)
    | none =>
      let shorter := Path.withoutSlashes path
      if (direct? shorter).isSome then follow? steps (Path.ofTarget (Path.escaped shorter)) else none

/-- How often a path may be asked for again. -/
def stepLimit : Nat := 20

/-- The path that a target leads to, and its route. -/
def ofTarget? (target : String) : Option (List Char × Route) :=
  follow? (stepLimit + 1) (Path.ofTarget target.toList)

/-- The methods that a route takes. -/
def methods : Route → List String
  | .health => ["GET"]
  | .translate _ => ["POST"]
  | .page => ["GET", "HEAD"]

end Route

end DeviceRelay.Http
