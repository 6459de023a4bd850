import DeviceRelay.Broker.Delay
import DeviceRelay.Log

/-!
# Connecting to the broker

A broker that refuses a connection is asked again, up to a number of attempts, with a delay in between
that doubles from attempt to attempt until it has grown sixty-four-fold. Any other failure ends the matter
at once, and so does a delay that cannot double, be announced or be slept through. The outcome of each attempt
comes in from outside, as a function of its number, and so does what comes of sleeping behind it.

    attempt 1 ──refused──▶ delay d ──▶ attempt 2 ──refused──▶ delay 2d ──▶ attempt 3 ──▶ …
-/

namespace DeviceRelay.Broker

/-- What comes of an attempt. -/
inductive Attempt (α : Type) where
  | connected (link : α)
  /-- The broker refuses. -/
  | refused (reason : String)
  /-- The attempt breaks off, for a reason of some other kind. -/
  | broken (kind reason : String)

/-- What comes of all attempts, and how they went. -/
structure Connection (α : Type) where
  /-- A link, or why there is none; without any attempt there is neither. -/
  result : Except Failure (Option α)
  attempts : Nat
  /-- The delays that were slept through. -/
  delays : List Delay
  log : List LogEntry

namespace Connection

variable {α : Type}

/-- The part that connects. -/
def logSource : String := "kura_translator.mq.kafka_helpers"

/-- What is logged of a refusal after which the broker is asked again. -/
def retryEntry (attempt : Nat) (reason : String) : LogEntry :=
  .error logSource s!"Kafka error creating producer (attempt {attempt}): {reason}"

/-- What is logged of the last refusal. -/
def surrenderEntry (attempt : Nat) (reason : String) : LogEntry :=
  .error logSource s!"Giving up creating Kafka Producer after {attempt} attempts: {reason}"

/-- How often the delay has doubled before the one that follows an attempt. -/
def doublings (attempt : Nat) : Nat := min (attempt - 1) 6

/-- One attempt more, with a delay before those that follow it. -/
def retried (delay : Delay) (entry : LogEntry) (later : Connection α) : Connection α :=
  ⟨later.result, later.attempts + 1, delay :: later.delays, entry :: later.log⟩

/-- The attempts from a number on, of which so many are left. -/
def attemptsFrom (outcome : Nat → Attempt α) (sleep : Nat → Delay → Except Failure Unit) (base : Delay)
    (attempt : Nat) : Nat → Connection α
  | 0 => ⟨.ok none, 0, [], []⟩
  | left + 1 =>
    match outcome attempt with
    | .connected link => ⟨.ok (some link), 1, [], []⟩
    | .broken kind reason => ⟨.error (.unexpected kind reason), 1, [], []⟩
    | .refused reason =>
      if left = 0 then ⟨.error (.broker reason), 1, [], [surrenderEntry attempt reason]⟩
      else match Delay.doubled (doublings attempt) base with
        | .error failure => ⟨.error failure, 1, [], []⟩
        | .ok delay =>
          let entry := retryEntry attempt reason
          match delay.waitOut (sleep attempt) with
          | .error failure => ⟨.error failure, 1, [], [entry]⟩
          | .ok () => retried delay entry (attemptsFrom outcome sleep base (attempt + 1) left)

/-- Connect with so many attempts at most. -/
def establish (outcome : Nat → Attempt α) (sleep : Nat → Delay → Except Failure Unit) (base : Delay) (limit : Nat) :
    Connection α :=
  attemptsFrom outcome sleep base 1 limit

/-- The number of attempts, if no other is set. -/
def standardLimit : Nat := 5

/-- The first delay, if no other is set. -/
def standardDelay : Delay := .int 1

end Connection

end DeviceRelay.Broker
