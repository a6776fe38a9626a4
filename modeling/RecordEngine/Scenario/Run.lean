import RecordEngine.Scenario.Script
/-!
Scenarios: an engine, scripted handlers, faults, and the steps of several sessions in turn.

A scenario is run from an empty store. Its steps go on after failures; each leaves a result and what
scripts said meanwhile.
-/

set_option autoImplicit false

namespace RecordEngine

namespace Scenario

/-- A handler written as actions. -/
structure HandlerScript where
  entity : EntityType
  name : String
  trigger : Option (List String)
  actions : List HandlerAction

/-- A step of a scenario. -/
inductive Step where
  /-- Opens a session; options that cannot be read are missing. -/
  | begin (session : String) (actor : Actor) (options : Option Options)
  | inSession (session : String) (step : SessionStep)
  | commit (session : String)
  | rollback (session : String)
  /-- Lets go of a session, which rolls it back. -/
  | drop (session : String)
  /-- Loses a session, whose transaction stays open. -/
  | lose (session : String)
  | handlers
  | retry (E : EntityType) (id : String) (edits : List Edit) (actor : Actor)
      (options : Option Options) (keepAs : Option String)
  | seed (E : EntityType) (draft : Draft)
  | seedRow (table id : String) (row : Row)
  /-- Opens a transaction, past the faults or, `viaEngine`, subject to them. -/
  | txBegin (tx : String) (viaEngine : Bool)
  | txCommit (tx : String)
  | txRollback (tx : String)
  | txFetch (tx table id : String)
  | txInsert (tx table id : String) (row : Row)
  | txUpdate (tx table id : String) (fields : List (Nat × Value))
  | txAudit (tx entity id : String) (actor : Actor)
  | committed (table id : String)
  | count (table : String)
  | active
  | audits
  | subscribe
  | notices
  | trace
  | describe

/-- The result of a step that succeeded. -/
inductive Answer where
  | value (value : StepValue)
  | number (n : Nat)
  | text (s : String)
  | handlers (names : List String) (length : Nat) (isEmpty : Bool)
  | retried (calls : Nat) (result : Except Failure Row)
  | audits (records : List AuditRecord)
  | notices (receptions : Option (List Reception))
  | trace (entries : List TraceEntry) (openSpans : Nat)

/-- The result of a step. -/
inductive Result where
  | answered (answer : Answer)
  | failed (failure : Failure)
  /-- A document of the step could not be read. -/
  | unreadable

def Result.ofExcept : Except Failure Answer → Result
  | .ok answer => .answered answer
  | .error failure => .failed failure

/-- A scenario. -/
structure Setup where
  handlers : List HandlerScript
  /-- The document of the configuration, if it is not the default one. -/
  config : Option Document
  faults : List Fault
  /-- Whether nobody listens to notices and reads the trace. -/
  quiet : Bool
  capacity : Nat
  subscribed : Bool
  steps : List Step

abbrev ScriptEngine := Engine (Faulty Memory) ScriptHost

abbrev ScriptWorld := World (Faulty Memory) ScriptHost

/-- What a scenario goes through. -/
structure State where
  world : ScriptWorld
  sessions : Keyed String Session
  /-- The transaction last opened under each name, for a session or by itself. -/
  transactions : Keyed String TxId
  receiver : Option Receiver

/-- The first stamps fall into the year 2020. -/
def firstStamp : Nat := 1577836800 * Instant.billion

/-- The identifier number `n`: thirty-two digits in base sixteen of the random form, of which the
last twelve count. -/
def idOfNumber (n : Nat) : String :=
  let digits := Nat.toDigits 16 (n % Nat.pow 16 12)
  "00000000-0000-4000-8000-" ++
    String.ofList (List.replicate (12 - digits.length) '0' ++ digits)

theorem idOfNumber_ne (n : Nat) : idOfNumber n ≠ "" :=
  fun h => absurd (String.append_eq_empty_iff.1 h).1 (by decide)

/-- The levels to which deferred work may nest in a scenario. -/
def nestingLimit : Nat := 1000

/-- Why a scenario could not be set up. -/
inductive SetupFailure where
  | failed (failure : Failure)
  | unreadable

/-- The engine of a scenario. -/
def Setup.engine (setup : Setup) : Except SetupFailure ScriptEngine := do
  let registry ← (setup.handlers.foldlM (fun (registry : Registry ScriptHost) script =>
    registry.register script.entity script.name script.trigger (handlerFunction script.actions))
    .empty).mapError .failed
  let config ← match setup.config with
    | none => .ok {}
    | some d => match Config.ofDocument? d with
      | some config => .ok config
      | none => .error .unreadable
  (Engine.build registry Backend.memory.faulty config nestingLimit).mapError .failed

/-- The state a scenario starts from. -/
def Setup.start (setup : Setup) : State :=
  let channel := Channel.create setup.capacity
  { world :=
      { backend := ⟨.empty (if setup.quiet then none else some channel), setup.faults⟩
        trace := if setup.quiet then .numbering 0 else .recorder .empty
        clock := fun n => .ofNanos (firstStamp + n)
        ids := fun n => ⟨idOfNumber n, idOfNumber_ne n⟩
        host := .empty }
    sessions := .empty
    transactions := .empty
    receiver := if setup.subscribed then some channel.subscribe else none }

namespace State

def store (s : State) : Store := s.world.backend.inner.store

def withStore (s : State) (store : Store) : State :=
  { s with world := { s.world with
      backend := { s.world.backend with inner := { s.world.backend.inner with store } } } }

/-- The state with the entries of the log taken out. -/
def takeLog (s : State) : List LogEntry × State :=
  (s.world.host.log, { s with world := { s.world with host := { s.world.host with log := [] } } })

/-- Carries out a store operation past the faults. -/
def call (s : State) (c : Call) : Except Failure c.Answer × State :=
  let (answer, store) := s.store.step c
  (answer, s.withStore store)

/-- Inserts a row in a transaction of its own, which is rolled back if the row is refused. -/
def insertCommitted (s : State) (key : RowKey) (row : Row) : Except Failure Unit × State :=
  match s.call .begin with
  | (.error failure, s) => (.error failure, s)
  | (.ok tx, s) =>
    match s.call (.insert tx key row) with
    | (.error failure, s) => (.error failure, (s.call (.rollback tx)).2)
    | (.ok (), s) => s.call (.commit tx)

/-- The transaction under a name: that of a live session before any other. -/
def transaction? (s : State) (name : String) : Option TxId :=
  match s.sessions.get? name with
  | some session => some session.tx
  | none => s.transactions.get? name

end State

def unknownName (name : String) : Failure := .execution ("nothing is called " ++ name)

/-- Runs an operation on the world that answers nothing but success. -/
def runWorld (s : State) (action : WorldM (Faulty Memory) ScriptHost Unit) : Result × State :=
  let (result, world) := action.run s.world
  (.ofExcept (result.map fun () => .value .ok), { s with world })

/-- Runs a step that ends a session. -/
def ending (s : State) (name : String) (finish : Session → State → Result × State) :
    Result × State :=
  match s.sessions.get? name with
  | none => (.failed (unknownName name), s)
  | some session => finish session { s with sessions := s.sessions.erase name }

/-- Runs a store operation on a named transaction, past the faults. -/
def onTransaction (s : State) (name : String) (c : TxId → Call)
    (answer : (tx : TxId) → (c tx).Answer → Answer) : Result × State :=
  match s.transaction? name with
  | none => (.failed (unknownName name), s)
  | some tx =>
    let (result, s) := s.call (c tx)
    (.ofExcept (result.map (answer tx)), s)

/-- Puts a session under a name, and its transaction, which keeps the name when the session is gone;
a session that had the name is let go. -/
def install (engine : ScriptEngine) (s : State) (name : String) (session : Session) : State :=
  let s := match s.sessions.get? name with
    | some old => { s with world := engine.abandon old s.world }
    | none => s
  { s with
    sessions := s.sessions.put name session
    transactions := s.transactions.put name session.tx }

/-- Runs one step. -/
def runStep (engine : ScriptEngine) (s : State) : Step → Result × State
  | .begin name actor options =>
    match options with
    | none => (.unreadable, s)
    | some options =>
      match (engine.begin actor options).run s.world with
      | (.error failure, world) => (.failed failure, { s with world })
      | (.ok session, world) =>
        (.answered (.value .ok), install engine { s with world } name session)
  | .inSession name step =>
    match s.sessions.get? name with
    | none => (.failed (unknownName name), s)
    | some session =>
      let (result, scope) := (Session.perform engine step.work).run ⟨s.world, session⟩
      (.ofExcept (result.map .value),
        { s with world := scope.world, sessions := s.sessions.put name scope.session })
  | .commit name => ending s name fun session s => runWorld s (engine.commit session)
  | .rollback name => ending s name fun session s => runWorld s (engine.rollback session)
  | .drop name => ending s name fun session s =>
    let s := { s with world := engine.abandon session s.world }
    (.answered (.number s.store.activeCount), s)
  | .lose name => ending s name fun _ s => (.answered (.number s.store.activeCount), s)
  | .handlers =>
    (.answered (.handlers engine.registry.names engine.registry.length engine.registry.isEmpty), s)
  | .retry E id edits actor options keepAs =>
    match options with
    | none => (.unreadable, s)
    | some options =>
      let world := { s.world with host := { s.world.host with transforms := 0 } }
      let (outcome, world) := engine.saveWithRetry (E := E) actor options
        (world.host.resolveId id) (counted (editTransform edits)) world
      let world := match outcome.result with
        | .ok record => { world with host := world.host.keep keepAs record }
        | .error _ => world
      (.answered (.retried world.host.transforms (outcome.result.map (·.toRow))),
        { s with world })
  | .seed E draft =>
    match draft.build E s.world.host with
    | .error failure => (.failed failure, s)
    | .ok record =>
      let (result, s) := s.insertCommitted ⟨E.name, record.id⟩ record.toRow
      (.ofExcept (result.map fun () => .value .ok), s)
  | .seedRow table id row =>
    let (result, s) := s.insertCommitted ⟨table, id⟩ row
    (.ofExcept (result.map fun () => .value .ok), s)
  | .txBegin name viaEngine =>
    let (result, s) :=
      if viaEngine then
        let (result, backend) := engine.backend.call .begin s.world.backend
        (result, { s with world := { s.world with backend } })
      else s.call .begin
    match result with
    | .ok tx =>
      (.answered (.text tx.text), { s with transactions := s.transactions.put name tx })
    | .error failure => (.failed failure, s)
  | .txCommit name => onTransaction s name .commit fun _ _ => .value .ok
  | .txRollback name => onTransaction s name .rollback fun _ _ => .value .ok
  | .txFetch name table id =>
    onTransaction s name (.fetch · ⟨table, id⟩) fun _ row => .value (.foundRow row)
  | .txInsert name table id row =>
    onTransaction s name (.insert · ⟨table, id⟩ row) fun _ _ => .value .ok
  | .txUpdate name table id fields =>
    onTransaction s name (.update · ⟨table, id⟩ fields) fun _ _ => .value .ok
  | .txAudit name entity id actor =>
    let record : AuditRecord :=
      { actor := actor.id, effective := actor.effective, action := .update, entity, id,
        changes := .empty }
    onTransaction s name (.audit · record) fun _ _ => .value .ok
  | .committed table id =>
    (.answered (.value (.foundRow
      (s.store.committedRow? ⟨table, s.world.host.resolveId id⟩))), s)
  | .count table => (.answered (.number (s.store.rowCount table)), s)
  | .active => (.answered (.number s.store.activeCount), s)
  | .audits => (.answered (.audits s.store.audits), s)
  | .subscribe =>
    let receiver := match s.world.backend.inner.channel with
      | some channel => channel.subscribe
      | none => ⟨0⟩
    (.answered (.value .ok), { s with receiver := some receiver })
  | .notices =>
    match s.receiver, s.world.backend.inner.channel with
    | none, _ => (.answered (.notices none), s)
    | some _, none => (.answered (.notices (some [])), s)
    | some receiver, some channel =>
      let (receptions, receiver) := channel.receiveAll receiver
      (.answered (.notices (some receptions)), { s with receiver := some receiver })
  | .trace =>
    let log := s.world.trace.log
    (.answered (.trace log.entries log.openSpans),
      { s with world := { s.world with trace := s.world.trace.clear } })
  | .describe => (.answered (.text engine.describe), s)

/-- Runs steps in order, each with what scripts said meanwhile. -/
def runSteps (engine : ScriptEngine) : List Step → State → List (Result × List LogEntry)
  | [], _ => []
  | step :: rest, s =>
    let (result, s) := runStep engine s step
    let (log, s) := s.takeLog
    (result, log) :: runSteps engine rest s

/-- Runs a scenario. -/
def Setup.run (setup : Setup) : Except SetupFailure (List (Result × List LogEntry)) := do
  let engine ← setup.engine
  return runSteps engine setup.steps setup.start

end Scenario

end RecordEngine
