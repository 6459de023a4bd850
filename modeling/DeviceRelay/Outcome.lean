import DeviceRelay.Broker
import DeviceRelay.Failure
import DeviceRelay.Log

/-!
# Outcomes

An activity ends with a result and leaves a trail: the publications that the broker took, the entries of
the log, and how many identifiers of reports were used up. When one activity follows another, the trails
follow one another too. `inTurn` runs a whole row of activities, each of which is told how many identifiers
were used up before it.
-/

namespace DeviceRelay

/-- A result and the trail that leads to it. -/
structure Outcome (α : Type) where
  result : α
  publications : List Publication
  log : List LogEntry
  /-- How many identifiers were used up. -/
  identifiers : Nat

namespace Outcome

variable {α β : Type}

/-- A result without a trail. -/
def pure (result : α) : Outcome α := ⟨result, [], [], 0⟩

/-- A result behind some entries of the log. -/
def logged (entries : List LogEntry) (result : α) : Outcome α := ⟨result, [], entries, 0⟩

/-- Another result with the same trail. -/
def map (f : α → β) (o : Outcome α) : Outcome β :=
  ⟨f o.result, o.publications, o.log, o.identifiers⟩

/-- An activity that depends on the result of another, behind it. -/
def andThen (o : Outcome α) (f : α → Outcome β) : Outcome β :=
  let next := f o.result
  ⟨next.result, o.publications ++ next.publications, o.log ++ next.log,
    o.identifiers + next.identifiers⟩

/-- The same activity, with one more identifier used up. -/
def usingIdentifier (o : Outcome α) : Outcome α := { o with identifiers := o.identifiers + 1 }

/-- Activities one after another, `used` identifiers having been used up before the first. -/
def inTurn (activity : Nat → α → Outcome β) (used : Nat) : List α → List (Outcome β)
  | [] => []
  | a :: rest =>
    let o := activity used a
    o :: inTurn activity (used + o.identifiers) rest

end Outcome

end DeviceRelay
