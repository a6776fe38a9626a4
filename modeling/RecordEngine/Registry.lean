import RecordEngine.Program
/-!
The handlers of an engine, in the order in which they were registered.
-/

set_option autoImplicit false

namespace RecordEngine

/-- A handler together with the entity type it is for. -/
structure Registration (σ : Type) where
  entity : EntityType
  handler : Handler σ entity

/-- The handlers of an engine. -/
structure Registry (σ : Type) where
  registrations : List (Registration σ)

namespace Registration

variable {σ : Type}

def qualifiedName (r : Registration σ) : String := r.handler.qualifiedName

/-- The handler, if it is one for records of type `E`. A type has no identity besides what it
declares: two of the same name, with the same fields, are one, and have their handlers in common. -/
def handlerFor? (r : Registration σ) (E : EntityType) : Option (Handler σ E) :=
  if h : r.entity = E then some (h ▸ r.handler) else none

end Registration

namespace Registry

variable {σ : Type}

def empty : Registry σ := ⟨[]⟩

/-- The handlers for one entity type, in order of registration. -/
def handlers (registry : Registry σ) (E : EntityType) : List (Handler σ E) :=
  registry.registrations.filterMap (·.handlerFor? E)

/-- The qualified names of all handlers. -/
def names (registry : Registry σ) : List String :=
  registry.registrations.map (·.qualifiedName)

def length (registry : Registry σ) : Nat := registry.registrations.length

def isEmpty (registry : Registry σ) : Bool := registry.registrations.isEmpty

/-- The mask of a list of trigger fields, none of which may be unknown and of which there must be
one. -/
def triggerMask (E : EntityType) (name : String) :
    Option (List String) → Except Failure (Option FieldMask)
  | none => .ok none
  | some [] =>
    .error (.registry (E.name ++ "." ++ name ++ " has an empty trigger list"))
  | some fields =>
    match FieldMask.ofNames E.schema fields with
    | .ok mask => .ok (some mask)
    | .error failure => .error (.registry (E.name ++ "." ++ name ++ ": " ++ failure.message))

/-- The registry with one more handler. The schema has to be valid, the trigger list in order, and
the name new for the entity type. -/
def register (registry : Registry σ) (E : EntityType) (name : String)
    (trigger : Option (List String))
    (function : HandlerContext → Record E → Record E → HandlerProgram σ E) :
    Except Failure (Registry σ) := do
  match E.schema.validate with
  | .ok () => pure ()
  | .error failure =>
    throw (.registry (E.name ++ " has an invalid schema: " ++ failure.message))
  let trigger ← triggerMask E name trigger
  if (registry.handlers E).any (·.name == name) then
    throw (.registry ("handler " ++ E.name ++ "." ++ name ++ " is already registered"))
  return ⟨registry.registrations ++ [⟨E, ⟨name, trigger, function⟩⟩]⟩

/-- The registry as descriptions show it. -/
def describe (registry : Registry σ) : String :=
  Text.structured "HandlerRegistry"
    [("handlers", Text.listed (registry.names.map Text.quoted))]

end Registry

end RecordEngine
