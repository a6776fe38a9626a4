import RecordEngine.TextSet
/-!
Selectors: how a caller names the handlers to skip or to force.

What a selector leaves open it does not restrict. One that is meant to work once is used up record
by record, so in a save of many records it works once for each; `consume` is the check that also
uses up, `accepts` the check alone.
-/

set_option autoImplicit false

namespace RecordEngine

/-- A choice of handlers by entity type, handler name and record. -/
structure Selector where
  entity : Option String := none
  handler : Option String := none
  ids : Option TextSet := none
  /-- Whether the selector works only once for each record. -/
  once : Bool := false
  /-- The records it has worked for, if it works only once. -/
  consumed : TextSet := .empty
  deriving DecidableEq

namespace Selector

/-- The selector of every handler on every record. -/
def any : Selector := {}

def ofHandler (name : String) : Selector := { handler := some name }

def forEntity (selector : Selector) (entity : String) : Selector :=
  { selector with entity := some entity }

/-- Also selects the record `id`, where so far all records or some others were selected. -/
def forId (selector : Selector) (id : String) : Selector :=
  { selector with ids := some ((selector.ids.getD .empty).insert id) }

def onlyOnce (selector : Selector) : Selector := { selector with once := true }

/-- Whether an optional restriction lets a name through. -/
def permits (restriction : Option String) (name : String) : Bool :=
  match restriction with
  | none => true
  | some wanted => wanted == name

/-- Whether the handler on this record is selected, used up or not. -/
def selects (selector : Selector) (entity handler id : String) : Bool :=
  permits selector.entity entity && permits selector.handler handler &&
    match selector.ids with
    | none => true
    | some ids => ids.contains id

def isConsumed (selector : Selector) (id : String) : Bool :=
  selector.once && selector.consumed.contains id

/-- Whether the handler on this record is selected by what is left of the selector. -/
def accepts (selector : Selector) (entity handler id : String) : Bool :=
  selector.selects entity handler id && !selector.isConsumed id

/-- The selector after it has worked for a record. -/
def spend (selector : Selector) (id : String) : Selector :=
  if selector.once then { selector with consumed := selector.consumed.insert id } else selector

/-- Checks and uses up. -/
def consume (selector : Selector) (entity handler id : String) : Bool × Selector :=
  if selector.accepts entity handler id then (true, selector.spend id) else (false, selector)

/-- What is written of a selector; what it has been used for is not. -/
def document (selector : Selector) : Document :=
  .object
    [("entity_type", (selector.entity.map .text).getD .null),
     ("handler", (selector.handler.map .text).getD .null),
     ("ids", (selector.ids.map TextSet.document).getD .null),
     ("once", .boolean selector.once)]

def ofDocument? (d : Document) : Option Selector := do
  match ← d.fields? ["entity_type", "handler", "ids", "once"] with
  | [entity, handler, ids, once] =>
    let entity ← Document.orDefault (Document.orNull Document.asText?) none entity
    let handler ← Document.orDefault (Document.orNull Document.asText?) none handler
    let ids ← Document.orDefault (Document.orNull TextSet.ofDocument?) none ids
    let once ← Document.orDefault Document.asBoolean? false once
    return { entity, handler, ids, once }
  | _ => none

end Selector

/-- Selectors in order of precedence. -/
structure SelectorList where
  selectors : List Selector
  deriving DecidableEq

namespace SelectorList

def isEmpty (list : SelectorList) : Bool := list.selectors.isEmpty

def push (list : SelectorList) (selector : Selector) : SelectorList :=
  ⟨list.selectors ++ [selector]⟩

/-- Whether some selector accepts. -/
def accepts (list : SelectorList) (entity handler id : String) : Bool :=
  list.selectors.any (·.accepts entity handler id)

/-- Uses up the first selector that accepts. -/
def consumeFirst (entity handler id : String) : List Selector → Bool × List Selector
  | [] => (false, [])
  | selector :: rest =>
    if selector.accepts entity handler id then (true, selector.spend id :: rest)
    else
      let (found, rest) := consumeFirst entity handler id rest
      (found, selector :: rest)

/-- Checks and uses up the first selector that accepts, if there is one. -/
def consume (list : SelectorList) (entity handler id : String) : Bool × SelectorList :=
  let (found, selectors) := consumeFirst entity handler id list.selectors
  (found, ⟨selectors⟩)

end SelectorList

/-- The selectors of one session. A handler that both lists select runs. -/
structure Overrides where
  skip : SelectorList
  force : SelectorList
  deriving DecidableEq

namespace Overrides

def ofLists (skip force : List Selector) : Overrides := ⟨⟨skip⟩, ⟨force⟩⟩

def isEmpty (overrides : Overrides) : Bool := overrides.skip.isEmpty && overrides.force.isEmpty

end Overrides

end RecordEngine
