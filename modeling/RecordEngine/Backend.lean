import RecordEngine.Channel
import RecordEngine.Store
/-!
What an engine stands on: a store, an audit log and a notifier.

A backend is the operations on a state of its own choosing. `Backend.memory` is one store for rows
and audit records with a channel that never fails; `Backend.faulty` puts faults in front of another
backend, for trying out what an engine does when its surroundings fail.
-/

set_option autoImplicit false

namespace RecordEngine

/-- The operations an engine needs, on a state `β`. -/
structure Backend (β : Type) where
  call : (c : Call) → β → Except Failure c.Answer × β
  announce : Notice → β → Except Failure Unit × β

/-- A store with a channel for announcements, unless nobody wants them. -/
structure Memory where
  store : Store
  channel : Option Channel

namespace Memory

def empty (channel : Option Channel) : Memory := ⟨.empty, channel⟩

def call (c : Call) (m : Memory) : Except Failure c.Answer × Memory :=
  let (answer, store) := m.store.step c
  (answer, { m with store })

def announce (notice : Notice) (m : Memory) : Except Failure Unit × Memory :=
  (.ok (), { m with channel := m.channel.map (·.announce notice) })

end Memory

/-- One store for rows and audit records, and a notifier that never fails. -/
def Backend.memory : Backend Memory := ⟨Memory.call, Memory.announce⟩

/-! ## Faults -/

/-- The kinds of operations that can be made to fail. -/
inductive Stage where
  | begin
  | commit
  | rollback
  | fetch
  | insert
  | update
  | audit
  | notify
  deriving DecidableEq, Repr

namespace Stage

def label : Stage → String
  | begin => "begin"
  | commit => "commit"
  | rollback => "rollback"
  | fetch => "fetch"
  | insert => "insert"
  | update => "update"
  | audit => "audit"
  | notify => "notify"

def all : List Stage := [begin, commit, rollback, fetch, insert, update, audit, notify]

def ofLabel? (label : String) : Option Stage := all.find? (·.label == label)

end Stage

/-- The kind of an operation. -/
def Call.stage : Call → Stage
  | begin => .begin
  | commit _ => .commit
  | rollback _ => .rollback
  | fetch .. => .fetch
  | insert .. => .insert
  | update .. => .update
  | audit .. => .audit

/-- A failure that strikes operations of one kind: the first `after` are spared and the next
`times` fail. -/
structure Fault where
  stage : Stage
  after : Nat := 0
  times : Nat := 1
  failure : Failure
  deriving DecidableEq, Repr

namespace Fault

/-- Asks the faults in order about one operation. The first that strikes keeps the others from being
asked. -/
def strike (stage : Stage) : List Fault → Option Failure × List Fault
  | [] => (none, [])
  | fault :: rest =>
    let (asked, struck) :=
      if fault.stage ≠ stage then (fault, false)
      else if 0 < fault.after then ({ fault with after := fault.after - 1 }, false)
      else if 0 < fault.times then ({ fault with times := fault.times - 1 }, true)
      else (fault, false)
    if struck then (some fault.failure, asked :: rest)
    else
      let (failure, rest) := strike stage rest
      (failure, asked :: rest)

end Fault

/-- The state of a backend with faults in front of it. -/
structure Faulty (β : Type) where
  inner : β
  faults : List Fault

/-- A backend with faults in front of it: an operation that is struck never reaches it. -/
def Backend.faulty {β : Type} (backend : Backend β) : Backend (Faulty β) where
  call c s :=
    match Fault.strike c.stage s.faults with
    | (some failure, faults) => (.error failure, { s with faults })
    | (none, faults) =>
      let (answer, inner) := backend.call c s.inner
      (answer, { inner, faults })
  announce notice s :=
    match Fault.strike .notify s.faults with
    | (some failure, faults) => (.error failure, { s with faults })
    | (none, faults) =>
      let (answer, inner) := backend.announce notice s.inner
      (answer, { inner, faults })

end RecordEngine
