import RecordEngine.Convergence
/-!
The operations of a session: create, save and what is built from them.

A create always writes; a save writes when the handlers leave a settable field changed. A write is
staged in the store, announced and audited, in this order, and then the deferred work of the
operation runs, which may create and save in the same session. How deep that nests is bounded by
the engine; an operation nested deeper is refused like any other that cannot be carried out.
-/

set_option autoImplicit false

namespace RecordEngine

/-- Create and save, as work in a session gets at them. -/
structure Operations (β σ : Type) where
  create : (E : EntityType) → Record E → SessionM β σ (Record E)
  save : (E : EntityType) → Record E → SessionM β σ (Record E)

namespace Session

variable {β σ : Type} {E : EntityType}

/-- A session on a transaction just opened. -/
def start (tx : TxId) (actor : Actor) (options : Options) : Session where
  tx
  actor
  options
  overrides := .ofLists options.skip options.force
  history := .empty

/-- A record as the transaction of the session sees it. -/
def fetch (engine : Engine β σ) (E : EntityType) (id : String) :
    SessionM β σ (Option (Record E)) := do
  let tx ← SessionM.read (·.session.tx)
  match ← SessionM.call engine .fetch (.fetch tx ⟨E.name, id⟩) with
  | none => return none
  | some row => SessionM.ofExcept ((Record.ofRow E row).map some)

/-- A record that has to be there. -/
def load (engine : Engine β σ) (E : EntityType) (id : String) : SessionM β σ (Record E) := do
  match ← fetch engine E id with
  | some record => return record
  | none => throw (.notFound E.name id)

def missingId (E : EntityType) : Failure := .validation (E.name ++ " requires an identifier")

/-- Gives a record without an identifier a new one, if the configuration says so. -/
def withId (engine : Engine β σ) (record : Record E) : SessionM β σ (Record E) :=
  if record.id.isEmpty then
    if engine.config.assignMissingIds then do
      let index ← SessionM.ofExcept E.schema.identifierIndex
      let id ← SessionM.newId
      SessionM.ofExcept (record.setField index (.text id))
    else throw (missingId E)
  else return record

/-- Refuses a new record with a version other than the first one or the one before it. -/
def checkNewVersion (record : Record E) : Except Failure Unit :=
  match record.version? with
  | none => .ok ()
  | some version =>
    if version = 0 ∨ version = 1 then .ok ()
    else
      .error (.validation (E.name ++ " cannot be created with version " ++ toString version))

/-- The record with the stamps of its creation. -/
def stampNew (record : Record E) (now : Instant) (who : String) : Except Failure (Record E) := do
  let record ← record.stamp .version (.integer 1)
  let record ← record.stamp .createdAt (.timestamp now)
  let record ← record.stamp .updatedAt (.timestamp now)
  let record ← record.stamp .createdBy (.text who)
  record.stamp .updatedBy (.text who)

/-- The record with the stamps of a change: the given version, if the stored record has one, and
time and author. -/
def stampChanged (record : Record E) (version : Option Int) (now : Instant) (who : String) :
    Except Failure (Record E) := do
  let record ← match version with
    | some version => record.stamp .version (.integer version)
    | none => pure record
  let record ← record.stamp .updatedAt (.timestamp now)
  record.stamp .updatedBy (.text who)

/-- Stages the audit record of a write. -/
def recordAudit (engine : Engine β σ) (action : AuditAction) (E : EntityType) (id : String)
    (changes : ChangeSet) : SessionM β σ Unit := do
  let session ← SessionM.read (·.session)
  SessionM.call engine .audit <| .audit session.tx
    { actor := session.actor.id, effective := session.actor.effective, action,
      entity := E.name, id, changes }

/-- Inserts a new record after the handlers ran against an empty baseline. -/
def createWith (engine : Engine β σ) (drain : DeferredWork σ → SessionM β σ Unit)
    (record : Record E) : SessionM β σ (Record E) := do
  let record ← withId engine record
  SessionM.ofExcept (E.schema.checkRow record.toRow)
  SessionM.ofExcept (checkNewVersion record)
  let id := record.id
  SessionM.withSpan (.modelActivity E.name id .create) do
    let ⟨_, record, queue⟩ ← Convergence.run engine (.default E) record false
    SessionM.ofExcept (E.schema.checkRow record.toRow)
    let now ← SessionM.now
    let session ← SessionM.read (·.session)
    let record ← SessionM.ofExcept (stampNew record now session.actor.effective)
    SessionM.call engine .insert (.insert session.tx ⟨E.name, id⟩ record.toRow)
    SessionM.announce engine ⟨E.name, id, record.version?⟩
    recordAudit engine .create E id
      (ChangeSet.ofMask (FieldMask.diff (.default E) record) none record)
    drain queue
    load engine E id

/-- Refuses a record that does not carry the version that is stored. -/
def checkVersion (record stored : Record E) (id : String) : Except Failure Unit :=
  if E.schema.isVersioned then
    match record.version?, stored.version? with
    | some expected, some actual =>
      if expected = actual then .ok () else .error (.versionMismatch E.name id expected actual)
    | none, _ =>
      .error (.validation (E.name ++ " '" ++ id ++ "' must carry its version to be saved"))
    | some _, none => .error (.validation ("stored " ++ E.name ++ " '" ++ id ++ "' has no version"))
  else .ok ()

/-- The settable fields a save would change. -/
def changedFields (stored proposed : Record E) : FieldMask :=
  (FieldMask.diff stored proposed).retain E.schema.isSettable

/-- The fields a save writes. -/
def writtenFields (stored proposed : Record E) : FieldMask :=
  (FieldMask.diff stored proposed).retain E.schema.isWritable

/-- Writes the changes the handlers left. The version is a number without a bound of its own: the
one after the largest that 64 bits hold is counted out, and then refused by the field that is to
hold it. -/
def writeChanges (engine : Engine β σ) (id : String) (stored proposed : Record E) :
    SessionM β σ Unit := do
  let version := stored.version?.map (· + 1)
  let now ← SessionM.now
  let session ← SessionM.read (·.session)
  let proposed ← SessionM.ofExcept (stampChanged proposed version now session.actor.effective)
  let written := writtenFields stored proposed
  SessionM.call engine .update <| .update session.tx ⟨E.name, id⟩ <|
    written.indices.map fun index => (index, proposed.field index)
  SessionM.announce engine ⟨E.name, id, version⟩
  recordAudit engine .update E id (ChangeSet.ofMask written (some stored) proposed)

/-- Updates a stored record after the handlers ran against it, if they leave a settable field
changed; a record that leaves nothing to do is given back as it came. -/
def saveWith (engine : Engine β σ) (drain : DeferredWork σ → SessionM β σ Unit)
    (record : Record E) : SessionM β σ (Record E) := do
  SessionM.ofExcept (E.schema.checkRow record.toRow)
  let id := record.id
  if id.isEmpty then throw (missingId E)
  let stored ← load engine E id
  SessionM.ofExcept (checkVersion record stored id)
  SessionM.withSpan (.modelActivity E.name id .update) do
    let session ← SessionM.read (·.session)
    let ⟨_, proposed, queue⟩ ←
      Convergence.run engine stored record (Convergence.forcePending engine E session id)
    SessionM.ofExcept (E.schema.checkRow proposed.toRow)
    if (changedFields stored proposed).isEmpty then
      if queue.isEmpty then return record
    else writeChanges engine id stored proposed
    drain queue
    load engine E id

/-! ## Deferred work -/

/-- Carries out what a program asks for. -/
def runProgram {α : Type} (engine : Engine β σ) (operations : Operations β σ) :
    SessionProgram σ α → Scope β σ → α × Scope β σ
  | .done result, s => (result, s)
  | .create E record next, s =>
    let (answer, s) := (operations.create E record).run s
    runProgram engine operations (next answer) s
  | .save E record next, s =>
    let (answer, s) := (operations.save E record).run s
    runProgram engine operations (next answer) s
  | .fetch E id next, s =>
    let (answer, s) := (fetch engine E id).run s
    runProgram engine operations (next answer) s
  | .inspect next, s =>
    runProgram engine operations
      (next ⟨s.session.tx, s.session.actor, s.session.options, s.session.history,
        engine.config⟩) s
  | .call c next, s =>
    let (answer, backend) := engine.backend.call c s.world.backend
    runProgram engine operations (next answer) { s with world := { s.world with backend } }
  | .host change next, s =>
    runProgram engine operations (next s.world.host)
      { s with world := { s.world with host := change s.world.host } }

/-- Carries out work in a session. -/
def runWork {α : Type} (engine : Engine β σ) (operations : Operations β σ)
    (work : SessionWork σ α) : SessionM β σ α := fun s => runProgram engine operations work.run s

/-- Runs pieces of work one after another; the first failure keeps the others from running. -/
def drainAll (engine : Engine β σ) (operations : Operations β σ) :
    List (String × SessionWork σ Unit) → SessionM β σ Unit
  | [] => return ()
  | (_, action) :: rest => do
    runWork engine operations action
    drainAll engine operations rest

def drain (engine : Engine β σ) (operations : Operations β σ) (queue : DeferredWork σ) :
    SessionM β σ Unit := drainAll engine operations queue.actions

/-- What is reported of an operation nested too deep. -/
def nestedTooDeep : Failure := .execution "deferred work is nested too deep"

/-- Create and save, with so many levels of deferred work below them; with none left they are
refused. -/
def operationsAt (engine : Engine β σ) : Nat → Operations β σ
  | 0 => { create := fun _ _ => throw nestedTooDeep, save := fun _ _ => throw nestedTooDeep }
  | level + 1 =>
    { create := fun _ record => createWith engine (drain engine (operationsAt engine level)) record
      save := fun _ record => saveWith engine (drain engine (operationsAt engine level)) record }

/-! ## Operations -/

/-- Create and save for a caller outside deferred work. -/
def operations (engine : Engine β σ) : Operations β σ := operationsAt engine (engine.nesting + 1)

/-- Inserts a new record. -/
def create (engine : Engine β σ) (record : Record E) : SessionM β σ (Record E) :=
  (operations engine).create E record

/-- Updates a stored record. -/
def save (engine : Engine β σ) (record : Record E) : SessionM β σ (Record E) :=
  (operations engine).save E record

/-- Carries out work for a caller outside deferred work. -/
def perform {α : Type} (engine : Engine β σ) (work : SessionWork σ α) : SessionM β σ α :=
  runWork engine (operations engine) work

/-- Saves records one after another, up to the first failure. -/
def saveMany (engine : Engine β σ) (records : List (Record E)) : SessionM β σ (List (Record E)) :=
  perform engine (SessionWork.saveMany E records)

/-- Loads a record, changes it and saves the result. -/
def findAndModify (engine : Engine β σ) (id : String) (change : Transform σ E) :
    SessionM β σ (Record E) :=
  perform engine (SessionWork.findAndModify E id change)

end Session

namespace Engine

variable {β σ : Type}

/-- Opens a session. -/
def begin (engine : Engine β σ) (actor : Actor) (options : Options) : WorldM β σ Session := do
  let tx ← WorldM.call engine .begin .begin
  return Session.start tx actor options

/-- Ends a session and publishes what it wrote. -/
def commit (engine : Engine β σ) (session : Session) : WorldM β σ Unit :=
  WorldM.call engine .commit (.commit session.tx)

/-- Ends a session and discards what it wrote. -/
def rollback (engine : Engine β σ) (session : Session) : WorldM β σ Unit :=
  WorldM.call engine .rollback (.rollback session.tx)

/-- Lets go of a session that was not ended: it is rolled back, and nobody hears of a failure. -/
def abandon (engine : Engine β σ) (session : Session) (w : World β σ) : World β σ :=
  ((engine.rollback session).run w).2

end Engine

end RecordEngine
