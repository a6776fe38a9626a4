import RecordEngine.Backend
import RecordEngine.Registry
import RecordEngine.Trace
/-!
Engines, the world they act on, and sessions.

An engine is what stays the same: handlers, backend and configuration. The world is what its
operations change, and a session is what the operations of one transaction share. An operation of a
session takes both and gives both back, also when it fails.
-/

set_option autoImplicit false

namespace RecordEngine

/-- An engine over a backend state `β`, in a host program of state `σ`. -/
structure Engine (β σ : Type) where
  registry : Registry σ
  backend : Backend β
  config : Config
  /-- How deep operations may nest through deferred work. -/
  nesting : Nat

/-- An endless supply of things that are taken one after another. -/
abbrev Supply (α : Type) := Nat → α

/-- What is taken next. -/
def Supply.next {α : Type} (supply : Supply α) : α := supply 0

/-- What there is after that. -/
def Supply.rest {α : Type} (supply : Supply α) : Supply α := fun n => supply (n + 1)

/-- What the operations of an engine change. Nothing is assumed of the times that the clock will
tell, and of the identifiers that will be made up no more than that none is empty. -/
structure World (β σ : Type) where
  backend : β
  trace : TraceSink
  /-- The times that the clock will tell. -/
  clock : Supply Instant
  /-- The identifiers that will be made up. -/
  ids : Supply { id : String // id ≠ "" }
  host : σ

/-- What the operations of one transaction share. -/
structure Session where
  tx : TxId
  actor : Actor
  options : Options
  overrides : Overrides
  history : History

/-- A session and the world around it. -/
structure Scope (β σ : Type) where
  world : World β σ
  session : Session

/-- An operation on the world. -/
abbrev WorldM (β σ : Type) := ExceptT Failure (StateM (World β σ))

/-- An operation in a session. -/
abbrev SessionM (β σ : Type) := ExceptT Failure (StateM (Scope β σ))

namespace Engine

variable {β σ : Type}

/-- An engine, if its configuration allows anything to happen. -/
def build (registry : Registry σ) (backend : Backend β) (config : Config) (nesting : Nat) :
    Except Failure (Engine β σ) := do
  config.check
  return { registry, backend, config, nesting }

/-- The configuration as descriptions show it. -/
def describeConfig (config : Config) : String :=
  Text.structured "EngineConfig"
    [("max_passes", toString config.maxPasses.toNat),
     ("assign_missing_ids", if config.assignMissingIds then "true" else "false"),
     ("retry", Text.structured "RetryPolicy"
       [("max_attempts", toString config.retry.maxAttempts.toNat),
        ("backoff_step_ms", toString config.retry.backoffStep.toNat),
        ("max_backoff_ms", toString config.retry.maxBackoff.toNat)])]

/-- The engine as descriptions show it. -/
def describe (engine : Engine β σ) : String :=
  Text.structured "Engine"
    [("registry", engine.registry.describe), ("config", describeConfig engine.config)]

end Engine

namespace WorldM

variable {β σ : Type}

/-- An operation of the backend; its failure is reported for the given stage. -/
def call (engine : Engine β σ) (stage : Stage) (c : Call) : WorldM β σ c.Answer := fun w =>
  let (answer, backend) := engine.backend.call c w.backend
  (answer.mapError (.persistence stage.label), { w with backend })

end WorldM

namespace SessionM

variable {β σ α : Type}

/-- An operation on the world, from within a session. -/
def ofWorld (action : WorldM β σ α) : SessionM β σ α := fun s =>
  let (result, world) := action.run s.world
  (result, { s with world })

/-- A result that needs no state. -/
def ofExcept (result : Except Failure α) : SessionM β σ α := fun s => (result, s)

/-- What the state tells, without changing it. -/
def read (f : Scope β σ → α) : SessionM β σ α := fun s => (.ok (f s), s)

/-- An operation of the backend; its failure is reported for the given stage. -/
def call (engine : Engine β σ) (stage : Stage) (c : Call) : SessionM β σ c.Answer :=
  ofWorld (WorldM.call engine stage c)

/-- Announces a write. -/
def announce (engine : Engine β σ) (notice : Notice) : SessionM β σ Unit := fun s =>
  let (answer, backend) := engine.backend.announce notice s.world.backend
  (answer.mapError (.persistence Stage.notify.label), { s with world := { s.world with backend } })

/-- The time of a stamp. -/
def now : SessionM β σ Instant := fun s =>
  (.ok s.world.clock.next, { s with world := { s.world with clock := s.world.clock.rest } })

/-- An identifier for a record that has none. -/
def newId : SessionM β σ String := fun s =>
  (.ok s.world.ids.next, { s with world := { s.world with ids := s.world.ids.rest } })

/-- Records an event. -/
def traceEvent (event : TraceEvent) : SessionM β σ Unit := fun s =>
  (.ok (), { s with world := { s.world with trace := s.world.trace.add event } })

/-- Runs an operation inside a span, which is left however the operation ends. -/
def withSpan (event : TraceEvent) (action : SessionM β σ α) : SessionM β σ α := fun s =>
  let (span, trace) := s.world.trace.enter event
  let (result, s) := action.run { s with world := { s.world with trace } }
  (result, { s with world := { s.world with trace := s.world.trace.exit span } })

/-- Whether the skip list selects a handler, using up what works only once. -/
def consumeSkip (entity handler id : String) : SessionM β σ Bool := fun s =>
  let (found, skip) := s.session.overrides.skip.consume entity handler id
  (.ok found, { s with session.overrides.skip := skip })

/-- Whether the force list selects a handler that has not run yet; one that has run is not looked up
and uses up nothing. -/
def consumeForce (entity handler id : String) : SessionM β σ Bool := fun s =>
  if s.session.history.contains entity handler id then (.ok false, s)
  else
    let (found, force) := s.session.overrides.force.consume entity handler id
    (.ok found, { s with session.overrides.force := force })

/-- Notes that a handler runs. -/
def noteRun (entity handler id : String) : SessionM β σ Unit := fun s =>
  (.ok (), { s with session.history := s.session.history.record entity handler id })

end SessionM

end RecordEngine
