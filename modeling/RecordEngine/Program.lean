import RecordEngine.Config
import RecordEngine.Deferred
import RecordEngine.History
import RecordEngine.Request
import RecordEngine.Store
/-!
What handlers and deferred work do, as data.

A program is a tree of requests: each node asks for one thing and holds what to do for every
answer. Handlers ask for store operations and put work off; work in a session, and deferred work is
just that, creates and saves records through it. Both may use a state `σ` of the host program, of
which the engine knows nothing.
-/

set_option autoImplicit false

namespace RecordEngine

/-- What work in a session sees of it. -/
structure SessionView where
  tx : TxId
  actor : Actor
  options : Options
  history : History
  config : Config

/-- Work in a session that ends in an `α`. Operations that fail answer so; what follows from that is
for the program to say. -/
inductive SessionProgram (σ α : Type) : Type where
  | done (result : α)
  | create (E : EntityType) (record : Record E)
      (next : Except Failure (Record E) → SessionProgram σ α)
  | save (E : EntityType) (record : Record E)
      (next : Except Failure (Record E) → SessionProgram σ α)
  | fetch (E : EntityType) (id : String)
      (next : Except Failure (Option (Record E)) → SessionProgram σ α)
  | inspect (next : SessionView → SessionProgram σ α)
  /-- An operation on the engine's store, past the session. -/
  | call (c : Call) (next : Except Failure c.Answer → SessionProgram σ α)
  /-- Changes the state of the host and goes on with what it was before. -/
  | host (change : σ → σ) (next : σ → SessionProgram σ α)

/-- One program after another. -/
def SessionProgram.bind {σ α β : Type} (f : α → SessionProgram σ β) :
    SessionProgram σ α → SessionProgram σ β
  | done result => f result
  | create E record next => create E record fun answer => (next answer).bind f
  | save E record next => save E record fun answer => (next answer).bind f
  | fetch E id next => fetch E id fun answer => (next answer).bind f
  | inspect next => inspect fun view => (next view).bind f
  | call c next => call c fun answer => (next answer).bind f
  | host change next => host change fun state => (next state).bind f

instance {σ : Type} : Monad (SessionProgram σ) where
  pure := .done
  bind program f := program.bind f

/-- Work in a session that may fail. -/
abbrev SessionWork (σ : Type) := ExceptT Failure (SessionProgram σ)

/-- A change that a caller makes to a record it loaded. It may use the state of the host. -/
abbrev Transform (σ : Type) (E : EntityType) :=
  Record E → σ → Except Failure (Record E) × σ

namespace SessionWork

variable {σ : Type}

def create (E : EntityType) (record : Record E) : SessionWork σ (Record E) :=
  SessionProgram.create E record .done

def save (E : EntityType) (record : Record E) : SessionWork σ (Record E) :=
  SessionProgram.save E record .done

def fetch (E : EntityType) (id : String) : SessionWork σ (Option (Record E)) :=
  SessionProgram.fetch E id .done

def inspect : SessionWork σ SessionView := SessionProgram.inspect fun view => .done (.ok view)

/-- Changes the state of the host and tells what it was before. -/
def host (change : σ → σ) : SessionWork σ σ :=
  SessionProgram.host change fun state => .done (.ok state)

/-- Applies a caller's change. -/
def transform {E : EntityType} (change : Transform σ E) (record : Record E) :
    SessionWork σ (Record E) :=
  SessionProgram.host (fun state => (change record state).2) fun state =>
    .done (change record state).1

/-- A record that has to be there. -/
def load (E : EntityType) (id : String) : SessionWork σ (Record E) := do
  match ← fetch E id with
  | some record => return record
  | none => throw (.notFound E.name id)

/-- Loads a record, changes it and saves the result. -/
def findAndModify (E : EntityType) (id : String) (change : Transform σ E) :
    SessionWork σ (Record E) := do
  let record ← load E id
  let record ← transform change record
  save E record

/-- Saves records one after another, up to the first failure. -/
def saveMany (E : EntityType) : List (Record E) → SessionWork σ (List (Record E))
  | [] => return []
  | record :: rest => do
    let saved ← save E record
    return saved :: (← saveMany E rest)

end SessionWork

/-- The run of a handler on a record of type `E`. -/
inductive HandlerProgram (σ : Type) (E : EntityType) : Type where
  /-- The record as the handler leaves it, or the failure it ends with. -/
  | done (result : Except Failure (Record E))
  /-- An operation on the engine's store. -/
  | call (c : Call) (next : Except Failure c.Answer → HandlerProgram σ E)
  /-- Puts work off until after the write of the operation. -/
  | defer (label : String) (action : SessionWork σ Unit) (next : HandlerProgram σ E)
  /-- Changes the state of the host and goes on with what it was before. -/
  | host (change : σ → σ) (next : σ → HandlerProgram σ E)

/-- The queue of work put off by the handlers of one operation. -/
abbrev DeferredWork (σ : Type) := Deferred (SessionWork σ Unit)

/-- What a handler sees besides the records. -/
structure HandlerContext where
  tx : TxId
  actor : Actor
  options : Options
  /-- The pass it runs in, counted from 1. -/
  pass : Nat

/-- A before-save handler. Its function is given the record as the last pass began with it, and the
record as proposed. -/
structure Handler (σ : Type) (E : EntityType) where
  name : String
  /-- The fields a change of which calls for the handler; any field if there is none. -/
  trigger : Option FieldMask
  function : HandlerContext → Record E → Record E → HandlerProgram σ E

namespace Handler

variable {σ : Type} {E : EntityType}

/-- The name with that of the entity type in front, as failures give it. -/
def qualifiedName (handler : Handler σ E) : String := E.name ++ "." ++ handler.name

/-- The fields of a mask the handler reacts to. -/
def triggeredBy (handler : Handler σ E) (mask : FieldMask) : FieldMask :=
  match handler.trigger with
  | some trigger => trigger.intersect mask
  | none => mask

/-- The handler as descriptions show it. -/
def describe (handler : Handler σ E) : String :=
  Text.structured "Handler"
    [("name", Text.quoted handler.qualifiedName),
     ("trigger", Text.optional <| handler.trigger.map fun mask =>
       Text.listed ((mask.fieldsSet E.schema).map Text.quoted))]

end Handler

end RecordEngine
