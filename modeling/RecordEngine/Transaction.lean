import RecordEngine.ChangeSet
import RecordEngine.Keyed
/-!
Transactions: staged writes on their way to the store.

A transaction is active until it is committed or rolled back, and only an active one takes writes.
Besides the log of its changes it keeps the latest image of every row it wrote, and for every row it
touched the commit stamp the row had at the first touch; a later touch never moves that stamp.
-/

set_option autoImplicit false

namespace RecordEngine

/-- The address of a row. -/
structure RowKey where
  table : String
  id : String
  deriving DecidableEq, Repr

def RowKey.text (key : RowKey) : String := key.table ++ ":" ++ key.id

/-- What an audited operation did. -/
inductive AuditAction where
  | create
  | update
  deriving DecidableEq, Repr

def AuditAction.label : AuditAction → String
  | create => "create"
  | update => "update"

/-- Who changed which fields of which record. -/
structure AuditRecord where
  actor : String
  effective : String
  action : AuditAction
  entity : String
  id : String
  changes : ChangeSet
  deriving DecidableEq, Repr

/-- The number of a transaction. -/
structure TxId where
  number : Nat
  deriving DecidableEq, Repr

def TxId.text (tx : TxId) : String := "txn_" ++ toString tx.number

/-- One staged write. -/
inductive Change where
  | insertRow (key : RowKey) (row : Row)
  | updateRow (key : RowKey) (row : Row)
  | appendAudit (record : AuditRecord)
  deriving DecidableEq, Repr

/-- The row a change writes, with its new image. -/
def Change.written? : Change → Option (RowKey × Row)
  | insertRow key row => some (key, row)
  | updateRow key row => some (key, row)
  | appendAudit _ => none

/-- The audit record a change appends. -/
def Change.audit? : Change → Option AuditRecord
  | appendAudit record => some record
  | _ => none

inductive TxState where
  | active
  | committed
  | aborted
  deriving DecidableEq, Repr

def TxState.label : TxState → String
  | active => "ACTIVE"
  | committed => "COMMITTED"
  | aborted => "ABORTED"

/-- A transaction. -/
structure Transaction where
  id : TxId
  state : TxState
  /-- The writes in the order they were made. -/
  changes : List Change
  /-- The latest image of every row written. -/
  overlay : Keyed RowKey Row
  /-- The commit stamp each row had when it was first touched; none for a row that did not
  exist. -/
  bases : Keyed RowKey (Option Nat)

namespace Transaction

def start (id : TxId) : Transaction := ⟨id, .active, [], .empty, .empty⟩

def stagedRow? (t : Transaction) (key : RowKey) : Option Row := t.overlay.get? key

/-- Remembers the stamp of a row, unless the row was touched before. -/
def observe (t : Transaction) (key : RowKey) (stamp : Option Nat) : Transaction :=
  { t with bases := t.bases.putNew key stamp }

/-- The stamp a row was first seen with. -/
def base (t : Transaction) (key : RowKey) : Option Nat := (t.bases.get? key).join

/-- The rows written, with the stamps they were based on. -/
def writtenRows (t : Transaction) : List (RowKey × Option Nat) :=
  t.overlay.keys.map fun key => (key, t.base key)

/-- Refuses what only an active transaction can do. -/
def checkActive (t : Transaction) (action : String) : Except Failure Unit :=
  if t.state = .active then .ok ()
  else .error (.execution ("Cannot " ++ action ++ ": transaction " ++ t.id.text ++ " is " ++
    t.state.label))

/-- Stages a change. The stamp counts only if the row was not touched before. -/
def record (t : Transaction) (change : Change) (stamp : Option Nat) :
    Except Failure Transaction := do
  t.checkActive "record change"
  let t := match change.written? with
    | some (key, row) =>
      { t.observe key stamp with overlay := t.overlay.put key row }
    | none => t
  return { t with changes := t.changes ++ [change] }

/-- Ends the transaction and hands out its changes. -/
def commit (t : Transaction) : Except Failure (List Change × Transaction) := do
  t.checkActive "commit"
  return (t.changes, { t with state := .committed, overlay := .empty, changes := [] })

/-- Ends the transaction and discards its changes. -/
def rollback (t : Transaction) : Except Failure Transaction := do
  t.checkActive "rollback"
  return { t with state := .aborted, overlay := .empty, changes := [] }

end Transaction

end RecordEngine
