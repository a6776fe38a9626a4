import RecordEngine.Failure
import RecordEngine.Document.Reader
/-!
The configuration of an engine.
-/

set_option autoImplicit false

namespace RecordEngine

/-- How often a save that lost a race is tried again, and how long it waits. -/
structure RetryPolicy where
  /-- Attempts in total, the first one included. -/
  maxAttempts : UInt32 := 3
  /-- The wait grows by this many milliseconds for each failed attempt. -/
  backoffStep : UInt64 := 5
  /-- The longest wait, in milliseconds. -/
  maxBackoff : UInt64 := 250
  deriving DecidableEq, Repr

/-- The configuration of an engine. -/
structure Config where
  /-- Passes of the handlers over one record before an operation fails. -/
  maxPasses : UInt32 := 100
  /-- Whether a new record without an identifier is given one. -/
  assignMissingIds : Bool := false
  retry : RetryPolicy := {}
  deriving DecidableEq, Repr

/-- A counter of 32 bits. -/
def Document.asWord32? (d : Document) : Option UInt32 :=
  (d.asNatBelow? UInt32.size).map UInt32.ofNat

/-- A counter of 64 bits. -/
def Document.asWord64? (d : Document) : Option UInt64 :=
  (d.asNatBelow? UInt64.size).map UInt64.ofNat

namespace RetryPolicy

/-- The wait after the failure of an attempt, counted from 1, in milliseconds. The product stops
at the greatest number of 64 bits before it is compared with the longest wait. -/
def backoff (policy : RetryPolicy) (attempt : Nat) : Nat :=
  min (min (policy.backoffStep.toNat * attempt) (UInt64.size - 1)) policy.maxBackoff.toNat

def document (policy : RetryPolicy) : Document :=
  .object
    [("max_attempts", .integer policy.maxAttempts.toNat),
     ("backoff_step_ms", .integer policy.backoffStep.toNat),
     ("max_backoff_ms", .integer policy.maxBackoff.toNat)]

def ofDocument? (d : Document) : Option RetryPolicy := do
  match ← d.fields? ["max_attempts", "backoff_step_ms", "max_backoff_ms"] with
  | [attempts, step, longest] =>
    let maxAttempts ← Document.orDefault Document.asWord32? 3 attempts
    let backoffStep ← Document.orDefault Document.asWord64? 5 step
    let maxBackoff ← Document.orDefault Document.asWord64? 250 longest
    return { maxAttempts, backoffStep, maxBackoff }
  | _ => none

end RetryPolicy

namespace Config

def document (config : Config) : Document :=
  .object
    [("max_passes", .integer config.maxPasses.toNat),
     ("assign_missing_ids", .boolean config.assignMissingIds),
     ("retry", config.retry.document)]

def ofDocument? (d : Document) : Option Config := do
  match ← d.fields? ["max_passes", "assign_missing_ids", "retry"] with
  | [passes, assign, retry] =>
    let maxPasses ← Document.orDefault Document.asWord32? 100 passes
    let assignMissingIds ← Document.orDefault Document.asBoolean? false assign
    let retry ← Document.orDefault RetryPolicy.ofDocument? {} retry
    return { maxPasses, assignMissingIds, retry }
  | _ => none

/-- The configuration a text holds. -/
def read? (text : String) : Option Config := (Document.read text).bind ofDocument?

/-- Refuses limits that let nothing happen at all. -/
def check (config : Config) : Except Failure Unit :=
  if config.maxPasses = 0 then .error (.validation "max_passes must be at least 1")
  else if config.retry.maxAttempts = 0 then
    .error (.validation "retry.max_attempts must be at least 1")
  else .ok ()

end Config

end RecordEngine
