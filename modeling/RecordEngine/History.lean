/-!
The handlers that have run in a session.
-/

set_option autoImplicit false

namespace RecordEngine

/-- A handler that ran on a record. -/
structure HistoryEntry where
  entity : String
  handler : String
  id : String
  deriving DecidableEq, Repr

/-- The handlers that ran in one session, each record apart, in the order in which they first
did. -/
structure History where
  entries : List HistoryEntry
  deriving DecidableEq, Repr

namespace History

def empty : History := ⟨[]⟩

def contains (history : History) (entity handler id : String) : Bool :=
  history.entries.contains ⟨entity, handler, id⟩

/-- The history with one more entry, unless it has it. -/
def record (history : History) (entity handler id : String) : History :=
  if history.contains entity handler id then history
  else ⟨history.entries ++ [⟨entity, handler, id⟩]⟩

def length (history : History) : Nat := history.entries.length

def isEmpty (history : History) : Bool := history.entries.isEmpty

end History

end RecordEngine
