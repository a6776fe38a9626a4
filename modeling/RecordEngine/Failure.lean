/-!
The ways an operation can fail.

Two constructors wrap another failure: the handler it happened in, and the step of persistence it
happened at. Everything that judges a failure, such as whether it is worth retrying, looks at the
root behind the wrappers.
-/

set_option autoImplicit false

namespace RecordEngine

/-- Why an operation failed. -/
inductive Failure where
  /-- A record or a declaration breaks a rule. -/
  | validation (detail : String)
  /-- A save carries a version that is not the stored one. -/
  | versionMismatch (entity id : String) (expected actual : Int)
  /-- The handlers still changed the record in the last pass allowed. -/
  | iterationLimit (entity id : String) (limit : Nat)
  /-- A handler failed on a record. -/
  | handler (name id : String) (cause : Failure)
  /-- The store, the audit log or the notifier failed at a step. -/
  | persistence (stage : String) (cause : Failure)
  /-- No row has this identifier. -/
  | notFound (entity id : String)
  /-- Another transaction committed a write to the same row first. -/
  | conflict (detail : String)
  /-- A value does not fit the type of its field. -/
  | typeMismatch (detail : String)
  /-- A handler cannot be registered. -/
  | registry (detail : String)
  /-- A request makes no sense in the present state. -/
  | execution (detail : String)
  /-- A shared resource was left unusable. -/
  | lock (detail : String)
  deriving DecidableEq, Repr

namespace Failure

/-- The message, wrappers first. -/
def message : Failure → String
  | validation detail => "Validation error: " ++ detail
  | versionMismatch entity id expected actual =>
    "Version mismatch for " ++ entity ++ " '" ++ id ++ "': expected " ++ toString expected ++
      ", actual " ++ toString actual
  | iterationLimit entity id limit =>
    "Convergence of " ++ entity ++ " '" ++ id ++ "' did not settle within " ++ toString limit ++
      " passes"
  | handler name id cause => "Handler '" ++ name ++ "' failed for '" ++ id ++ "': " ++ cause.message
  | persistence stage cause => "Persistence error during " ++ stage ++ ": " ++ cause.message
  | notFound entity id => entity ++ " '" ++ id ++ "' not found"
  | conflict detail => "Write-write conflict: " ++ detail
  | typeMismatch detail => "Type mismatch: " ++ detail
  | registry detail => "Registry error: " ++ detail
  | execution detail => "Execution error: " ++ detail
  | lock detail => "Lock error: " ++ detail

/-- The innermost failure behind `handler` and `persistence`. -/
def root : Failure → Failure
  | handler _ _ cause => cause.root
  | persistence _ cause => cause.root
  | failure => failure

/-- Whether a fresh read may cure it: somebody else wrote the same record first. -/
def retryable (failure : Failure) : Bool :=
  match failure.root with
  | versionMismatch .. | conflict _ => true
  | _ => false

/-- A conversion failure, with the name of the field put in front. -/
def inField (field : String) (failure : Failure) : Failure :=
  .typeMismatch ("field '" ++ field ++ "': " ++ failure.message)

/-- What is reported of a shared resource whose last user failed while holding it. -/
def poisoned : Failure := .lock "poisoned lock: another task failed inside"

end Failure

end RecordEngine
