import RecordEngine.Text.Quoted
/-!
Work put off until the write of the operation that asked for it.
-/

set_option autoImplicit false

namespace RecordEngine

/-- Labelled pieces of work in the order they were put off. -/
structure Deferred (α : Type) where
  actions : List (String × α)

namespace Deferred

variable {α : Type}

def empty : Deferred α := ⟨[]⟩

def push (queue : Deferred α) (label : String) (action : α) : Deferred α :=
  ⟨queue.actions ++ [(label, action)]⟩

def length (queue : Deferred α) : Nat := queue.actions.length

def isEmpty (queue : Deferred α) : Bool := queue.actions.isEmpty

def labels (queue : Deferred α) : List String := queue.actions.map (·.1)

/-- The queue as descriptions show it. -/
def describe (queue : Deferred α) : String :=
  Text.structured "DeferredQueue" [("actions", Text.listed (queue.labels.map Text.quoted))]

end Deferred

end RecordEngine
