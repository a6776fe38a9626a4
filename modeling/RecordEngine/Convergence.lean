import RecordEngine.Engine
/-!
Running the handlers until they have nothing more to change.

A pass looks at what the proposed record differs in from the record as the last pass began with it,
and dispatches every handler that reacts to one of these fields or is forced. When a pass begins
with nothing changed the record has converged.
-/

set_option autoImplicit false

namespace RecordEngine

variable {β σ : Type} {E : EntityType}

/-- Carries out what a handler asks for; its deferred work joins the queue. -/
def HandlerProgram.run (engine : Engine β σ) :
    HandlerProgram σ E → DeferredWork σ → SessionM β σ (Record E × DeferredWork σ)
  | .done result, queue => SessionM.ofExcept (result.map fun record => (record, queue))
  | .call c next, queue => fun s =>
    let (answer, backend) := engine.backend.call c s.world.backend
    (next answer).run engine queue { s with world := { s.world with backend } }
  | .defer label action next, queue => next.run engine (queue.push label action)
  | .host change next, queue => fun s =>
    (next s.world.host).run engine queue
      { s with world := { s.world with host := change s.world.host } }

namespace Convergence

/-- Whether some handler that has not run on the record yet is forced. -/
def forcePending (engine : Engine β σ) (E : EntityType) (session : Session) (id : String) : Bool :=
  (engine.registry.handlers E).any fun handler =>
    !session.history.contains E.name handler.name id &&
      session.overrides.force.accepts E.name handler.name id

/-- Calls a handler and records what it changed. It must not change the identifier. -/
def invoke (engine : Engine β σ) (handler : Handler σ E) (id : String) (pass : Nat)
    (before proposed : Record E) (queue : DeferredWork σ) :
    SessionM β σ (Record E × DeferredWork σ) := do
  SessionM.noteRun E.name handler.name id
  let cx ← SessionM.read fun s =>
    { tx := s.session.tx, actor := s.session.actor, options := s.session.options, pass }
  let (after, queue) ← ((handler.function cx before proposed).run engine queue).adapt
    (Failure.handler handler.qualifiedName id)
  SessionM.traceEvent
    (.callbackComplete E.name handler.name id ⟨0, 0⟩ (ChangeSet.between proposed after))
  if after.id ≠ id then
    throw (.validation ("handler " ++ handler.qualifiedName ++ " changed the identifier of " ++
      E.name ++ " '" ++ id ++ "'"))
  return (after, queue)

/-- Dispatches one handler, if the changed fields or the force list call for it. A handler that is
skipped is traced but not called, unless it is forced as well. -/
def dispatch (engine : Engine β σ) (handler : Handler σ E) (id : String) (pass : Nat)
    (mask : FieldMask) (before proposed : Record E) (queue : DeferredWork σ) :
    SessionM β σ (Record E × DeferredWork σ) := do
  let triggered := handler.triggeredBy mask
  let skipped ← SessionM.consumeSkip E.name handler.name id
  let forced ← SessionM.consumeForce E.name handler.name id
  if triggered.isEmpty && !forced then
    return (proposed, queue)
  SessionM.withSpan
    (.callback E.name handler.name id skipped forced
      (ChangeSet.ofMask triggered (some before) proposed)) do
    if skipped && !forced then
      return (proposed, queue)
    invoke engine handler id pass before proposed queue

/-- Dispatches handlers one after another, each on the record the one before it left. -/
def dispatchAll (engine : Engine β σ) (id : String) (pass : Nat) (mask : FieldMask)
    (before : Record E) :
    List (Handler σ E) → Record E → DeferredWork σ → SessionM β σ (Record E × DeferredWork σ)
  | [], proposed, queue => return (proposed, queue)
  | handler :: rest, proposed, queue => do
    let (proposed, queue) ← dispatch engine handler id pass mask before proposed queue
    dispatchAll engine id pass mask before rest proposed queue

/-- The result of a run that converged. -/
structure Outcome (σ : Type) (E : EntityType) where
  /-- The passes that dispatched handlers. -/
  passes : Nat
  record : Record E
  queue : DeferredWork σ

/-- Passes number `pass + 1` and on, of which `left` more are allowed. `baseline` is the record as
the last pass began with it; `forced` asks for a pass even if nothing changed. -/
def runFrom (engine : Engine β σ) (id : String) (pass : Nat) (baseline proposed : Record E)
    (queue : DeferredWork σ) (forced : Bool) (left : Nat) : SessionM β σ (Outcome σ E) :=
  let mask := FieldMask.diff baseline proposed
  if mask.isEmpty && !forced then
    return { passes := pass, record := proposed, queue }
  else
    match left with
    | 0 => throw (.iterationLimit E.name id engine.config.maxPasses.toNat)
    | left + 1 => do
      let (after, queue) ← SessionM.withSpan (.iteration E.name id (pass + 1))
        (dispatchAll engine id (pass + 1) mask baseline (engine.registry.handlers E) proposed
          queue)
      runFrom engine id (pass + 1) proposed after queue false left

/-- Runs the handlers over a proposed record, starting from the difference to `baseline`. With
`forceFirst` the first pass takes place even if there is none, so that forced handlers get their
turn. -/
def run (engine : Engine β σ) (baseline proposed : Record E) (forceFirst : Bool) :
    SessionM β σ (Outcome σ E) :=
  runFrom engine proposed.id 0 baseline proposed .empty forceFirst engine.config.maxPasses.toNat

end Convergence

end RecordEngine
