import RecordEngine.Retry
/-!
Handlers, transforms and session steps written as data.

An `Edit` changes the proposed record and looks at nothing but the two records; a `HandlerAction` is
an edit or one of the effects that only a handler has. A session step is an operation of a session
with its arguments; deferred work is a list of them. All of them share the log, the records kept
under labels and the counters of `ScriptHost`.
-/

set_option autoImplicit false

namespace RecordEngine

namespace Scenario

/-! ## What scripts consist of -/

inductive Comparison where
  | eq
  | ne
  | lt
  | gt
  deriving DecidableEq, Repr

/-- An action on the proposed record, or an effect of kind `ε`. Fields are given by name. -/
inductive Action (ε : Type) where
  | set (field : String) (value : Value)
  | copy (field source : String)
  /-- Takes the value from the record as the pass began with it. -/
  | restore (field source : String)
  | add (field : String) (n : Int)
  | append (field : String) (text : String)
  | negate (field : String)
  | compare (field : String) (comparison : Comparison) (value : Value)
      (whenTrue whenFalse : List (Action ε))
  | changed (field : String) (whenTrue whenFalse : List (Action ε))
  | fail (failure : Failure)
  | log (entry : Document)
  | effect (effect : ε)

/-- An action that looks at nothing but the records. -/
abbrev Edit := Action Empty

/-- A text, or the text of a field of the proposed record. -/
inductive TextSource where
  | literal (text : String)
  | field (name : String)
  deriving DecidableEq, Repr

/-- A write by somebody else that commits in between, the first few times it comes up. -/
structure Competition where
  table : String
  id : TextSource
  fields : List (Nat × Value)
  times : Nat
  deriving DecidableEq, Repr

/-- A record to be written: field values on top of the default record or of a row kept under a
label. -/
structure Draft where
  base : Option String
  fields : List (String × Value)

/-- An operation of a session. -/
inductive SessionStep where
  | create (E : EntityType) (draft : Draft) (keepAs : Option String)
  | save (E : EntityType) (draft : Draft) (keepAs : Option String)
  | saveMany (E : EntityType) (drafts : List Draft)
  | modify (E : EntityType) (id : String) (edits : List Edit) (keepAs : Option String)
  | fetch (E : EntityType) (id : String) (keepAs : Option String)
  /-- Whether a handler has run. -/
  | ran (entity handler id : String)
  | info
  | fail (failure : Failure)

/-- A step of deferred work; a failure that is tolerated does not end the work. -/
structure DeferredStep where
  step : SessionStep
  tolerated : Bool

/-- What only a handler can do. -/
inductive Effect where
  | pass (field : String)
  | actor (field : String)
  | flag (name field : String)
  | selectors (field : String)
  | fetch (E : EntityType) (id : TextSource) (source field : String)
  | defer (label : String) (steps : List DeferredStep)
  | write (table : String) (id : TextSource) (fields : List (Nat × Value))
  | compete (competition : Competition)

abbrev HandlerAction := Action Effect

/-! ## What scripts leave behind -/

/-- What `SessionStep.info` tells. -/
structure SessionInfo where
  tx : TxId
  actor : Actor
  skip : Nat
  force : Nat
  flags : List (String × Document)
  maxPasses : Nat
  history : Nat

/-- The result of a step. -/
inductive StepValue where
  | ok
  | row (row : Row)
  | rows (rows : List Row)
  | foundRow (row : Option Row)
  | ran (historyLength : Nat) (found : Bool)
  | info (info : SessionInfo)

/-- One entry of the log. -/
inductive LogEntry where
  | said (entry : Document)
  | deferred (result : Except Failure StepValue)

/-- A record kept under a label. -/
structure Kept where
  row : Row
  id : String

/-- The state that scripts share. -/
structure ScriptHost where
  log : List LogEntry
  kept : Keyed String Kept
  /-- How often each competition has come up. -/
  competed : Keyed Competition Nat
  /-- How often the transform of the save with retries was used. -/
  transforms : Nat

namespace ScriptHost

def empty : ScriptHost := ⟨[], .empty, .empty, 0⟩

def say (host : ScriptHost) (entry : LogEntry) : ScriptHost :=
  { host with log := host.log ++ [entry] }

/-- Keeps a record, if there is a label for it. -/
def keep {E : EntityType} (host : ScriptHost) (label : Option String) (record : Record E) :
    ScriptHost :=
  match label with
  | some label => { host with kept := host.kept.put label ⟨record.toRow, record.id⟩ }
  | none => host

/-- An identifier, which may be that of a record kept under a label. -/
def resolveId (host : ScriptHost) (id : String) : String :=
  match id.toList with
  | '@' :: label => ((host.kept.get? (String.ofList label)).map (·.id)).getD id
  | _ => id

end ScriptHost

/-! ## Records -/

/-- The position that stands for a field the type does not have. -/
def unknownField : Nat := 999

/-- The position of a field. -/
def fieldIndex (E : EntityType) (name : String) : Nat :=
  (E.schema.fieldIndex? name).getD unknownField

variable {E : EntityType}

def getField (record : Record E) (name : String) : Value := record.field (fieldIndex E name)

def putField (record : Record E) (name : String) (value : Value) : Except Failure (Record E) :=
  record.setField (fieldIndex E name) value

/-- Sets fields in order, up to the first failure. -/
def putFields (record : Record E) (fields : List (String × Value)) : Except Failure (Record E) :=
  fields.foldlM (fun record (name, value) => putField record name value) record

/-- The record a draft describes. -/
def Draft.build (draft : Draft) (E : EntityType) (host : ScriptHost) :
    Except Failure (Record E) := do
  let start ← match draft.base.bind host.kept.get? with
    | some kept => Record.ofRow E kept.row
    | none => pure (.default E)
  putFields start draft.fields

/-! ## Running actions -/

/-- The sum of two whole numbers, wrapped to 64 bits. -/
def wrappingAdd (a b : Int) : Int := (a + b).bmod UInt64.size

def Comparison.holds (comparison : Comparison) (a b : Value) : Bool :=
  match comparison with
  | eq => a.agrees b
  | ne => !a.agrees b
  | lt => match a.asInteger?, b.asInteger? with
    | some a, some b => a < b
    | _, _ => false
  | gt => match a.asInteger?, b.asInteger? with
    | some a, some b => b < a
    | _, _ => false

/-- What a script is run for: how it says something, and how it comes by an effect. The rest of the
script is given as what to do with the record. -/
structure Interpreter (ε ρ : Type) (E : EntityType) where
  say : Document → ρ → ρ
  perform : ε → Record E → (Except Failure (Record E) → ρ) → ρ

mutual

/-- Runs one action on the proposed record. -/
def Action.run {ε ρ : Type} (interpreter : Interpreter ε ρ E) (before : Record E) :
    Action ε → Record E → (Except Failure (Record E) → ρ) → ρ
  | .set field value, record, next => next (putField record field value)
  | .copy field source, record, next => next (putField record field (getField record source))
  | .restore field source, record, next => next (putField record field (getField before source))
  | .add field n, record, next =>
    next (putField record field
      (.integer (wrappingAdd ((getField record field).asInteger?.getD 0) n)))
  | .append field text, record, next =>
    next (putField record field (.text ((getField record field).asText?.getD "" ++ text)))
  | .negate field, record, next =>
    next (putField record field (.boolean (getField record field != .boolean true)))
  | .compare field comparison value whenTrue whenFalse, record, next =>
    if comparison.holds (getField record field) value then
      runActions interpreter before whenTrue record next
    else runActions interpreter before whenFalse record next
  | .changed field whenTrue whenFalse, record, next =>
    if !(getField before field).agrees (getField record field) then
      runActions interpreter before whenTrue record next
    else runActions interpreter before whenFalse record next
  | .fail failure, _, next => next (.error failure)
  | .log entry, record, next => interpreter.say entry (next (.ok record))
  | .effect e, record, next => interpreter.perform e record next

/-- Runs actions in order, up to the first failure. -/
def runActions {ε ρ : Type} (interpreter : Interpreter ε ρ E) (before : Record E) :
    List (Action ε) → Record E → (Except Failure (Record E) → ρ) → ρ
  | [], record, next => next (.ok record)
  | action :: rest, record, next =>
    action.run interpreter before record fun
      | .ok record => runActions interpreter before rest record next
      | .error failure => next (.error failure)

end

/-! ## Transforms -/

def editInterpreter (E : EntityType) :
    Interpreter Empty (ScriptHost → Except Failure (Record E) × ScriptHost) E where
  say entry next := fun host => next (host.say (.said entry))
  perform e := nomatch e

/-- The edits as a transform; the record they are compared with is the one loaded. -/
def editTransform (edits : List Edit) : Transform ScriptHost E := fun record host =>
  runActions (editInterpreter E) record edits record (fun result host => (result, host)) host

/-- A transform that counts how often it is used. -/
def counted (transform : Transform ScriptHost E) : Transform ScriptHost E := fun record host =>
  transform record { host with transforms := host.transforms + 1 }

/-! ## Session steps -/

/-- The value of a flag as a field takes it. -/
def flagValue : Option Document → Value
  | none => .null
  | some d =>
    match d with
    | .null | .unreadable => .null
    | .boolean b => .boolean b
    | .integer n => if fitsBits 64 n then .integer n else .float (Binary64.ofInt n)
    | .float x => .float x
    | .text s => .text s
    | .array _ | .object _ => .text d.print

/-- Keeps a record on the way. -/
def keeping (keepAs : Option String) (record : Record E) : SessionWork ScriptHost (Record E) := do
  let _ ← SessionWork.host (·.keep keepAs record)
  return record

/-- The record a draft describes, with the labels as they stand. -/
def built (E : EntityType) (draft : Draft) : SessionWork ScriptHost (Record E) := do
  let host ← SessionWork.host id
  match draft.build E host with
  | .ok record => return record
  | .error failure => throw failure

/-- An identifier, with the labels as they stand. -/
def resolved (id : String) : SessionWork ScriptHost String := do
  return (← SessionWork.host (·)).resolveId id

/-- What a step does in its session. -/
def SessionStep.work : SessionStep → SessionWork ScriptHost StepValue
  | .create E draft keepAs => do
    let record ← SessionWork.create E (← built E draft)
    return .row (← keeping keepAs record).toRow
  | .save E draft keepAs => do
    let record ← SessionWork.save E (← built E draft)
    return .row (← keeping keepAs record).toRow
  | .saveMany E drafts => do
    let saved ← SessionWork.saveMany E (← drafts.mapM (built E))
    return .rows (saved.map (·.toRow))
  | .modify E id edits keepAs => do
    let record ← SessionWork.findAndModify E (← resolved id) (editTransform edits)
    return .row (← keeping keepAs record).toRow
  | .fetch E id keepAs => do
    match ← SessionWork.fetch E (← resolved id) with
    | some record => return .foundRow (some (← keeping keepAs record).toRow)
    | none => return .foundRow none
  | .ran entity handler id => do
    let id ← resolved id
    let view ← SessionWork.inspect
    return .ran view.history.length (view.history.contains entity handler id)
  | .info => do
    let view ← SessionWork.inspect
    return .info
      { tx := view.tx, actor := view.actor, skip := view.options.skip.length,
        force := view.options.force.length, flags := view.options.flags,
        maxPasses := view.config.maxPasses.toNat, history := view.history.length }
  | .fail failure => throw failure

/-- Deferred work: steps in order, each logged with its result but for the failure that ends the
work. -/
def deferredWork : List DeferredStep → SessionWork ScriptHost Unit
  | [] => return ()
  | step :: rest =>
    SessionProgram.bind (fun result =>
        match result, step.tolerated with
        | .error failure, false => .done (.error failure)
        | _, _ => .host (·.say (.deferred result)) fun _ => deferredWork rest)
      step.step.work

/-! ## Handlers -/

def TextSource.text (source : TextSource) (record : Record E) : String :=
  match source with
  | literal text => text
  | field name => (getField record name).display

/-- The address a handler writes to. -/
def targetKey (table : String) (id : TextSource) (record : Record E) : RowKey :=
  ⟨table, id.text record⟩

/-- Somebody else's write: a transaction of its own with one update. -/
def competingWrite (key : RowKey) (fields : List (Nat × Value))
    (next : Except Failure Unit → HandlerProgram ScriptHost E) : HandlerProgram ScriptHost E :=
  .call .begin fun
    | .error failure => next (.error failure)
    | .ok tx =>
      .call (.update tx key fields) fun
        | .error failure => next (.error failure)
        | .ok () => .call (.commit tx) next

/-- Carries out an effect of a handler. -/
def Effect.perform (cx : HandlerContext) (effect : Effect) (record : Record E)
    (next : Except Failure (Record E) → HandlerProgram ScriptHost E) :
    HandlerProgram ScriptHost E :=
  match effect with
  | pass field => next (putField record field (.integer cx.pass))
  | actor field =>
    next (putField record field (.text (cx.actor.id ++ "/" ++ cx.actor.effective)))
  | flag name field => next (putField record field (flagValue (cx.options.flag? name)))
  | selectors field =>
    next (putField record field
      (.integer (100 * cx.options.skip.length + cx.options.force.length : Nat)))
  | fetch T id source field =>
    .call (.fetch cx.tx (targetKey T.name id record)) fun
      | .error failure => next (.error failure)
      | .ok none => next (putField record field .null)
      | .ok (some row) =>
        match Record.ofRow T row with
        | .error failure => next (.error failure)
        | .ok other => next (putField record field (getField other source))
  | defer label steps => .defer label (deferredWork steps) (next (.ok record))
  | write table id fields =>
    .call (.update cx.tx (targetKey table id record) fields) fun answer =>
      next (answer.map fun _ => record)
  | compete c =>
    .host (fun host =>
        let ran := (host.competed.get? c).getD 0
        if ran < c.times then { host with competed := host.competed.put c (ran + 1) }
        else host)
      fun host =>
        if (host.competed.get? c).getD 0 < c.times then
          competingWrite (targetKey c.table c.id record) c.fields fun answer =>
            next (answer.map fun _ => record)
        else next (.ok record)

def handlerInterpreter (E : EntityType) (cx : HandlerContext) :
    Interpreter Effect (HandlerProgram ScriptHost E) E where
  say entry next := .host (·.say (.said entry)) fun _ => next
  perform := Effect.perform cx

/-- The function of a handler written as actions. -/
def handlerFunction (actions : List HandlerAction) (cx : HandlerContext)
    (before proposed : Record E) : HandlerProgram ScriptHost E :=
  runActions (handlerInterpreter E cx) before actions proposed .done

end Scenario

end RecordEngine
