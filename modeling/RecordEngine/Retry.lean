import RecordEngine.Session
/-!
Saving until nobody interferes.

Every attempt has a session of its own. One that loses a race is rolled back and, after a wait that
grows with the number of the attempt, tried again as often as the policy allows; any other failure
is final at once.
-/

set_option autoImplicit false

namespace RecordEngine

namespace Engine

variable {β σ : Type} {E : EntityType}

/-- The result of a save with retries. -/
structure RetryOutcome (E : EntityType) where
  result : Except Failure (Record E)
  /-- The waits between the attempts, in milliseconds. -/
  waits : List Nat

/-- Ends the session of an attempt: a success is committed, and a failure rolled back, whatever
becomes of that. -/
def endAttempt (engine : Engine β σ) (session : Session) (result : Except Failure (Record E)) :
    WorldM β σ (Record E) := fun w =>
  match result with
  | .ok record => ((engine.commit session).run w).map (·.map fun _ => record) id
  | .error failure => (.error failure, engine.abandon session w)

/-- One attempt in the session opened for it. -/
def attempt (engine : Engine β σ) (session : Session) (id : String) (change : Transform σ E) :
    WorldM β σ (Record E) := fun w =>
  let (result, s) := (Session.findAndModify engine id change).run ⟨w, session⟩
  engine.endAttempt s.session result s.world

/-- Attempt number `number`, after which `left` more are allowed. -/
def attempts (engine : Engine β σ) (actor : Actor) (options : Options) (id : String)
    (change : Transform σ E) (number : Nat) (left : Nat) (w : World β σ) :
    RetryOutcome E × World β σ :=
  match (engine.begin actor options).run w with
  | (.error failure, w) => (⟨.error failure, []⟩, w)
  | (.ok session, w) =>
    match (engine.attempt session id change).run w with
    | (.ok record, w) => (⟨.ok record, []⟩, w)
    | (.error failure, w) =>
      if failure.retryable then
        match left with
        | 0 => (⟨.error failure, []⟩, w)
        | left + 1 =>
          let (outcome, w) := engine.attempts actor options id change (number + 1) left w
          ({ outcome with waits := engine.config.retry.backoff number :: outcome.waits }, w)
      else (⟨.error failure, []⟩, w)

/-- Loads a record, changes it, saves and commits, with retries. -/
def saveWithRetry (engine : Engine β σ) (actor : Actor) (options : Options) (id : String)
    (change : Transform σ E) (w : World β σ) : RetryOutcome E × World β σ :=
  engine.attempts actor options id change 1 (engine.config.retry.maxAttempts.toNat - 1) w

end Engine

end RecordEngine
