import RecordEngine.Scenario.Run
/-!
The documents that scenarios are written in.

An action, an effect and a failure are arrays that begin with a word; a step and the scenario itself
are objects, in which a key with null counts as missing. Entity types are given by name and looked
up among those of a `Setting`, which also tells who acts where a step names nobody.
-/

set_option autoImplicit false

namespace RecordEngine

namespace Scenario

/-- What the documents of a scenario take for granted. -/
structure Setting where
  types : List EntityType
  /-- Who acts where nobody is named. -/
  actor : String

/-! ## Parts of objects -/

/-- The value under a key, if there is one and it is not null. -/
def given? (d : Document) (key : String) : Option Document :=
  match d.member? key with
  | some .null => none
  | found => found

/-- The value under a key, read by `read` if it is given. -/
def optional? {α : Type} (read : Document → Option α) (d : Document) (key : String) :
    Option (Option α) :=
  match given? d key with
  | some value => (read value).map some
  | none => some none

/-- The value under a key, or a default. -/
def orElse? {α : Type} (read : Document → Option α) (d : Document) (key : String) (default : α) :
    Option α :=
  (optional? read d key).map (·.getD default)

/-- The value under a key that must be there. -/
def required? {α : Type} (read : Document → Option α) (d : Document) (key : String) : Option α :=
  (d.member? key).bind read

/-- The items of an array, each read by `read`. -/
def list? {α : Type} (read : Document → Option α) (d : Document) : Option (List α) := do
  (← d.asArray?).mapM read

def text? : Document → String → Option String := required? Document.asText?

def flag? (d : Document) (key : String) : Option Bool := orElse? Document.asBoolean? d key false

/-- A number that is not negative. -/
def count? (d : Document) : Option Nat := d.asInteger?.map Int.toNat

/-! ## Values -/

/-- The word with the given digits in base sixteen. -/
def word? (digits : String) : Option UInt64 := do
  return .ofNat (← digits.toList.foldlM
    (fun n c => (Text.hexValue? c).map (n * 16 + ·)) 0)

/-- A value. Where documents fall short it is an object with one key: `f` for the bits of a number
in floating point, `t` for the seconds and nanoseconds of an instant. -/
def value? : Document → Option Value
  | .null => some .null
  | .integer n => some (.integer n)
  | .text s => some (.text s)
  | .boolean b => some (.boolean b)
  | .object [("f", .text digits)] => do return .float ⟨← word? digits⟩
  | .object [("t", .array [.integer s, .integer n])] => some (.timestamp ⟨s, n.toNat⟩)
  | _ => none

def row? : Document → Option Row := list? value?

/-- Values by field name. -/
def namedValues? (d : Document) : Option (List (String × Value)) := do
  (← d.asObject?).mapM fun (name, value) => do return (name, ← value? value)

/-- A value with the position of its field. -/
def patch? : Document → Option (Nat × Value)
  | .array [.integer i, value] => do return (i.toNat, ← value? value)
  | _ => none

/-! ## Failures and actors -/

def failure? : Document → Option Failure
  | .array [.text "Validation", .text s] => some (.validation s)
  | .array [.text "Conflict", .text s] => some (.conflict s)
  | .array [.text "TypeMismatch", .text s] => some (.typeMismatch s)
  | .array [.text "Registry", .text s] => some (.registry s)
  | .array [.text "ExecutionError", .text s] => some (.execution s)
  | .array [.text "LockError", .text s] => some (.lock s)
  | .array [.text "NotFound", .text entity, .text id] => some (.notFound entity id)
  | .array [.text "VersionMismatch", .text entity, .text id, .integer expected, .integer actual] =>
    some (.versionMismatch entity id expected actual)
  | .array [.text "IterationLimitExceeded", .text entity, .text id, .integer limit] =>
    some (.iterationLimit entity id limit.toNat)
  | .array [.text "Handler", .text name, .text id, cause] =>
    (failure? cause).map (.handler name id)
  | .array [.text "Persistence", .text stage, cause] => (failure? cause).map (.persistence stage)
  | .array [.text "Field", .text name, cause] => (failure? cause).map (·.inField name)
  | .array [.text "Poison"] => some .poisoned
  | _ => none

/-- The actor of a step, acting for nobody else unless the step says so. -/
def actor? (setting : Setting) (d : Document) : Option Actor := do
  let id ← orElse? Document.asText? d "actor" setting.actor
  return ⟨id, ← orElse? Document.asText? d "effective" id⟩

/-- The options of a step, missing if they cannot be read. -/
def options (d : Document) : Option Options :=
  match given? d "options" with
  | none => some {}
  | some o => Options.ofDocument? o

/-! ## Actions -/

/-- A text; a dollar sign in front makes it the name of a field. -/
def textSource? (d : Document) : Option TextSource := do
  match (← d.asText?).toList with
  | '$' :: name => return .field (String.ofList name)
  | literal => return .literal (String.ofList literal)

def Comparison.ofLabel? : String → Option Comparison
  | "eq" => some .eq
  | "ne" => some .ne
  | "lt" => some .lt
  | "gt" => some .gt
  | _ => none

mutual

/-- An action; `effect?` reads what is no edit. -/
def action? {ε : Type} (effect? : List Document → Option ε) : Document → Option (Action ε)
  | .array [.text "set", .text f, value] => (value? value).map (.set f)
  | .array [.text "copy", .text source, .text f] => some (.copy f source)
  | .array [.text "prev", .text source, .text f] => some (.restore f source)
  | .array [.text "add", .text f, .integer n] => some (.add f n)
  | .array [.text "append", .text f, .text t] => some (.append f t)
  | .array [.text "not", .text f] => some (.negate f)
  | .array [.text "if", .text f, .text c, value, .array t] => do
    return .compare f (← Comparison.ofLabel? c) (← value? value) (← actions? effect? t) []
  | .array [.text "if", .text f, .text c, value, .array t, .array e] => do
    return .compare f (← Comparison.ofLabel? c) (← value? value) (← actions? effect? t)
      (← actions? effect? e)
  | .array [.text "changed", .text f, .array t] => do
    return .changed f (← actions? effect? t) []
  | .array [.text "changed", .text f, .array t, .array e] => do
    return .changed f (← actions? effect? t) (← actions? effect? e)
  | .array [.text "fail", failure] => (failure? failure).map .fail
  | .array [.text "log", entry] => some (.log entry)
  | .array items => (effect? items).map .effect
  | _ => none

def actions? {ε : Type} (effect? : List Document → Option ε) :
    List Document → Option (List (Action ε))
  | [] => some []
  | d :: rest => do return (← action? effect? d) :: (← actions? effect? rest)

end

/-- The edits under a key. -/
def edits? (d : Document) (key : String) : Option (List Edit) := do
  actions? (fun _ => none) (← (← d.member? key).asArray?)

/-! ## Steps -/

/-- The entity type of a name. -/
def Setting.typeNamed? (setting : Setting) (name : String) : Option EntityType :=
  setting.types.find? (·.name == name)

/-- The entity type that an object names. -/
def entity? (setting : Setting) (d : Document) : Option EntityType := do
  setting.typeNamed? (← text? d "entity")

def draft? (d : Document) : Option Draft := do
  return ⟨← optional? Document.asText? d "base", ← required? namedValues? d "record"⟩

def sessionStep? (setting : Setting) (d : Document) : Option SessionStep := do
  let E := entity? setting d
  let keepAs ← optional? Document.asText? d "as"
  match ← text? d "do" with
  | "create" => return .create (← E) (← draft? d) keepAs
  | "save" => return .save (← E) (← draft? d) keepAs
  | "save_many" => return .saveMany (← E) (← required? (list? draft?) d "records")
  | "modify" => return .modify (← E) (← text? d "id") (← edits? d "with") keepAs
  | "fetch" => return .fetch (← E) (← text? d "id") keepAs
  | "ran" => return .ran (← text? d "entity") (← text? d "handler") (← text? d "id")
  | "info" => return .info
  | "fail" => return .fail (← required? failure? d "error")
  | _ => none

def deferredStep? (setting : Setting) (d : Document) : Option DeferredStep := do
  return ⟨← sessionStep? setting d, ← flag? d "try"⟩

def effect? (setting : Setting) : List Document → Option Effect
  | [.text "pass", .text f] => some (.pass f)
  | [.text "actor", .text f] => some (.actor f)
  | [.text "flag", .text name, .text f] => some (.flag name f)
  | [.text "selectors", .text f] => some (.selectors f)
  | [.text "fetch", .text e, id, .text g, .text f] => do
    return .fetch (← setting.typeNamed? e) (← textSource? id) g f
  | [.text "defer", .text label, steps] => do
    return .defer label (← list? (deferredStep? setting) steps)
  | [.text "write", .text e, id, fields] => do
    return .write e (← textSource? id) (← list? patch? fields)
  | [.text "compete", .text e, id, fields, .integer n] => do
    return .compete ⟨e, ← textSource? id, ← list? patch? fields, n.toNat⟩
  | _ => none

/-- A step of a scenario that is not of a session. -/
def engineStep? (setting : Setting) (d : Document) : Option Step := do
  let session := text? d "session"
  let tx := text? d "tx"
  let e := text? d "entity"
  let id := text? d "id"
  match ← text? d "do" with
  | "begin" => return .begin (← session) (← actor? setting d) (options d)
  | "commit" => return .commit (← session)
  | "rollback" => return .rollback (← session)
  | "drop" => return .drop (← session)
  | "abandon" => return .lose (← session)
  | "handlers" => return .handlers
  | "retry" =>
    return .retry (← entity? setting d) (← id) (← edits? d "with") (← actor? setting d) (options d)
      (← optional? Document.asText? d "as")
  | "seed" =>
    match given? d "row" with
    | some row => return .seedRow (← e) (← id) (← row? row)
    | none => return .seed (← entity? setting d) (← draft? d)
  | "tx_begin" =>
    return .txBegin (← tx) ((← optional? Document.asText? d "via") == some "engine")
  | "tx_commit" => return .txCommit (← tx)
  | "tx_rollback" => return .txRollback (← tx)
  | "tx_fetch" => return .txFetch (← tx) (← e) (← id)
  | "tx_insert" => return .txInsert (← tx) (← e) (← id) (← required? row? d "row")
  | "tx_update" => return .txUpdate (← tx) (← e) (← id) (← required? (list? patch?) d "changes")
  | "tx_audit" => return .txAudit (← tx) (← e) (← id) (← actor? setting d)
  | "committed" => return .committed (← e) (← id)
  | "count" => return .count (← e)
  | "active" => return .active
  | "audits" => return .audits
  | "subscribe" => return .subscribe
  | "notices" => return .notices
  | "trace" => return .trace
  | "describe" => return .describe
  | _ => none

/-- A step; one that names a session and is an operation of sessions happens in it. -/
def step? (setting : Setting) (d : Document) : Option Step :=
  match sessionStep? setting d, text? d "session" with
  | some step, some session => some (.inSession session step)
  | _, _ => engineStep? setting d

/-! ## Scenarios -/

/-- The fields that trigger a handler, if it is not every field. -/
def trigger? (d : Document) : Option (Option (List String)) :=
  optional? Document.asTexts? d "trigger"

def handlerScript? (setting : Setting) (d : Document) : Option HandlerScript := do
  return ⟨← entity? setting d, ← text? d "name", ← trigger? d,
    ← actions? (effect? setting) (← (← d.member? "do").asArray?)⟩

def fault? (d : Document) : Option Fault := do
  return { stage := ← Stage.ofLabel? (← text? d "stage"), after := ← orElse? count? d "after" 0,
           times := ← orElse? count? d "times" 1, failure := ← required? failure? d "error" }

/-- A scenario in its setting. -/
def Setup.ofDocument? (setting : Setting) (d : Document) : Option Setup := do
  return { handlers := ← required? (list? (handlerScript? setting)) d "handlers"
           config := given? d "config"
           faults := ← orElse? (list? fault?) d "faults" []
           quiet := ← flag? d "quiet"
           capacity := ← orElse? count? d "capacity" Channel.defaultCapacity
           subscribed := ← orElse? Document.asBoolean? d "subscribe" true
           steps := ← required? (list? (step? setting)) d "steps" }

end Scenario

end RecordEngine
