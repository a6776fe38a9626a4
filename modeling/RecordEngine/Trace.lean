import RecordEngine.Transaction
/-!
Traces: nested spans around operations, passes and handlers.

A `TraceLog` records every event with its depth, the number of spans open at that moment. Spans may
be left in any order and more than once; leaving one closes no other. A sink that only numbers its
spans stands in where nobody reads the trace, and one that writes down what it is asked where the
order matters in which spans are left, of which a log keeps nothing.
-/

set_option autoImplicit false

namespace RecordEngine

/-- A length of time. -/
structure Duration where
  seconds : Nat
  /-- The part below a second. -/
  nanos : Nat
  deriving DecidableEq, Repr

/-- The length of time that seconds and nanoseconds make together. -/
def Duration.ofParts (seconds nanos : Nat) : Duration :=
  ⟨seconds + nanos / Instant.billion, nanos % Instant.billion⟩

/-- What is traced. -/
inductive TraceEvent where
  /-- A create or a save. -/
  | modelActivity (entity id : String) (action : AuditAction)
  /-- One pass of the handlers. -/
  | iteration (entity id : String) (pass : Nat)
  /-- The dispatch of one handler. -/
  | callback (entity handler id : String) (skipped forced : Bool) (triggered : ChangeSet)
  /-- What a handler changed, and how long it ran. -/
  | callbackComplete (entity handler id : String) (duration : Duration) (changes : ChangeSet)
  deriving DecidableEq, Repr

namespace TraceEvent

def kind : TraceEvent → String
  | modelActivity .. => "model_activity"
  | iteration .. => "iteration"
  | callback .. => "callback"
  | callbackComplete .. => "callback_complete"

def isCallback : TraceEvent → Bool
  | callback .. => true
  | _ => false

/-- The members of an event besides its kind. -/
def members : TraceEvent → List (String × Document)
  | modelActivity entity id action =>
    [("entity_type", .text entity), ("entity_id", .text id), ("action", .text action.label)]
  | iteration entity id pass =>
    [("entity_type", .text entity), ("entity_id", .text id), ("pass", .integer pass)]
  | callback entity handler id skipped forced triggered =>
    [("entity_type", .text entity), ("handler", .text handler), ("entity_id", .text id),
     ("skipped", .boolean skipped), ("forced", .boolean forced),
     ("triggered", triggered.document)]
  | callbackComplete entity handler id duration changes =>
    [("entity_type", .text entity), ("handler", .text handler), ("entity_id", .text id),
     ("duration", .object
       [("secs", .integer duration.seconds), ("nanos", .integer duration.nanos)]),
     ("changes", changes.document)]

def document (event : TraceEvent) : Document :=
  .object (("kind", .text event.kind) :: event.members)

end TraceEvent

/-- One recorded event. -/
structure TraceEntry where
  event : TraceEvent
  /-- The number of spans open when it was recorded. -/
  depth : Nat
  /-- Whether it opened a span. -/
  isSpan : Bool
  /-- Whether it opened a span that has not been left. -/
  isOpen : Bool
  deriving DecidableEq, Repr

/-- A recorded trace. A span is known by the position of its entry. -/
structure TraceLog where
  entries : List TraceEntry
  /-- The open spans, innermost last. -/
  stack : List Nat
  deriving DecidableEq, Repr

namespace TraceLog

def empty : TraceLog := ⟨[], []⟩

/-- Opens a span. -/
def enter (log : TraceLog) (event : TraceEvent) : Nat × TraceLog :=
  (log.entries.length,
    { entries := log.entries ++ [⟨event, log.stack.length, true, true⟩]
      stack := log.stack ++ [log.entries.length] })

/-- Leaves a span. -/
def exit (log : TraceLog) (span : Nat) : TraceLog where
  entries := log.entries.modify span fun entry => { entry with isOpen := false }
  stack := log.stack.filter (· ≠ span)

/-- Records an event that opens no span. -/
def add (log : TraceLog) (event : TraceEvent) : TraceLog :=
  { log with entries := log.entries ++ [⟨event, log.stack.length, false, false⟩] }

/-- The number of spans entered but not left. -/
def openSpans (log : TraceLog) : Nat := log.entries.countP (·.isOpen)

def events (log : TraceLog) : List TraceEvent := log.entries.map (·.event)

/-- The dispatches of handlers, in order. -/
def callbacks (log : TraceLog) : List TraceEvent := log.events.filter (·.isCallback)

end TraceLog

/-- What a sink is asked to do. -/
inductive TraceCall where
  /-- To open a span, which was given a number. -/
  | enter (event : TraceEvent) (span : Nat)
  | exit (span : Nat)
  | add (event : TraceEvent)
  deriving DecidableEq, Repr

/-- Where trace events go. -/
inductive TraceSink where
  /-- They are recorded. -/
  | recorder (log : TraceLog)
  /-- They are passed on; spans are numbered from 0. -/
  | numbering (next : Nat)
  /-- What is asked of the sink is written down; a span is known by its line. -/
  | journal (calls : List TraceCall)
  deriving DecidableEq, Repr

namespace TraceSink

def enter (sink : TraceSink) (event : TraceEvent) : Nat × TraceSink :=
  match sink with
  | recorder log => let (span, log) := log.enter event; (span, recorder log)
  | numbering next => (next, numbering (next + 1))
  | journal calls => (calls.length, journal (calls ++ [.enter event calls.length]))

def exit (sink : TraceSink) (span : Nat) : TraceSink :=
  match sink with
  | recorder log => recorder (log.exit span)
  | numbering next => numbering next
  | journal calls => journal (calls ++ [.exit span])

def add (sink : TraceSink) (event : TraceEvent) : TraceSink :=
  match sink with
  | recorder log => recorder (log.add event)
  | numbering next => numbering next
  | journal calls => journal (calls ++ [.add event])

/-- Forgets what was recorded. -/
def clear : TraceSink → TraceSink
  | recorder _ => recorder .empty
  | numbering next => numbering next
  | journal _ => journal []

/-- What was recorded. -/
def log : TraceSink → TraceLog
  | recorder log => log
  | numbering _ | journal _ => .empty

end TraceSink

end RecordEngine
