import DeviceRelay.Bytes

/-!
# The broker

Other services learn of messages and errors through a broker: it takes publications, each under a topic,
and hands them on. What it makes of a publication is not for this library to say, so it comes in from
outside as a `Reception`. A publication that was taken may still be lost on the way, which the broker
reports afterwards; asking for such reports may go wrong too.
-/

namespace DeviceRelay

/-- What the broker is asked to hand on. -/
structure Publication where
  topic : String
  content : Bytes
  key : Option Bytes
  deriving Repr, DecidableEq

/-- Why talking to the broker breaks off. -/
inductive Breakdown where
  /-- The broker refuses. -/
  | refused (reason : String)
  /-- For a reason of some other kind. -/
  | broken (kind reason : String)
  deriving Repr, DecidableEq

/-- What becomes of a publication that is handed to the broker. -/
inductive Reception where
  /-- The broker takes it; if it is lost afterwards, the reason comes with it. -/
  | taken (lost : Option String)
  /-- Handing it over breaks off, and the broker does not have it. -/
  | untaken (breakdown : Breakdown)
  /-- The broker has it, and asking for its reports breaks off. -/
  | unsettled (breakdown : Breakdown)
  deriving Repr, DecidableEq

namespace Reception

/-- The broker refuses the publication. -/
def refused (reason : String) : Reception := .untaken (.refused reason)

/-- Handing the publication over breaks off, for a reason of some other kind. -/
def broken (kind reason : String) : Reception := .untaken (.broken kind reason)

/-- Whether the broker has the publication. -/
def holds : Reception → Bool
  | .untaken _ => false
  | .taken _ | .unsettled _ => true

end Reception

end DeviceRelay
