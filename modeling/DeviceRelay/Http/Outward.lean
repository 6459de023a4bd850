import DeviceRelay.Json

/-!
# What leaves the service

A response is JSON text, so the numbers in it are finite. Members of some names never leave, whatever they
hold.
-/

namespace DeviceRelay.Http.Outward

/-- What the names of members begin with that never leave. -/
def reservedStart : List Char := "_sa".toList

/-- Whether a member of the name may leave. -/
def leaves (name : String) : Bool := !reservedStart.isPrefixOf name.toList

mutual

/-- A value without the members that never leave, at any depth. -/
def ofJson : Json → Json
  | .arr items => .arr (ofItems items)
  | .obj members => .obj (ofMembers members)
  | j => j

/-- Items without the members that never leave. -/
def ofItems : List Json → List Json
  | [] => []
  | item :: rest => ofJson item :: ofItems rest

/-- The members that may leave. -/
def ofMembers : List (String × Json) → List (String × Json)
  | [] => []
  | (name, v) :: rest =>
    if leaves name then (name, ofJson v) :: ofMembers rest else ofMembers rest

end

mutual

/-- Whether all numbers that may leave are finite. -/
def isFinite : Json → Bool
  | .float x => x.isFinite
  | .arr items => areFinite items
  | .obj members => membersFinite members
  | _ => true

/-- Whether all numbers of items are finite. -/
def areFinite : List Json → Bool
  | [] => true
  | item :: rest => isFinite item && areFinite rest

/-- Whether all numbers of members that may leave are finite. -/
def membersFinite : List (String × Json) → Bool
  | [] => true
  | (name, v) :: rest => (!leaves name || isFinite v) && membersFinite rest

end

/-- What is said of a response with a number that is not finite. -/
def notFinite : String := "Out of range float values are not JSON compliant"

end DeviceRelay.Http.Outward
