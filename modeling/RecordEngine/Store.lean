import RecordEngine.Transaction
/-!
The transactional store of rows and audit records.

Writes are staged in their transaction and published together when it commits. Of two transactions
that write the same row the first to commit wins: a commit is refused when a row it wrote no longer
carries the stamp it had when the transaction first touched it. Every commit that succeeds takes
the next stamp, whether or not it wrote anything.

A commit has two halves. `Store.publishRows` validates the transaction and publishes its rows while
nobody else can get at them; `Store.appendAudits` adds its audit records to the log, which has a
lock of its own, and others may use the store in between. `Store.commit` is the two without anybody
in between. Every other operation looks at what is shared once, and what it finds decides what it
does.

`Call` names the operations as data and `Store.step` carries one out, so that a run of interleaved
transactions is a list of calls.
-/

set_option autoImplicit false

namespace RecordEngine

/-- A committed row and the stamp of the commit that last wrote it. -/
structure StoredRow where
  row : Row
  stamp : Nat
  deriving DecidableEq, Repr

/-- The store. -/
structure Store where
  rows : Keyed RowKey StoredRow
  /-- The transactions that have not ended. -/
  transactions : Keyed TxId Transaction
  /-- The committed audit records, oldest first. -/
  audits : List AuditRecord
  /-- The stamp of the last commit. -/
  commits : Nat
  /-- The number the next transaction takes. -/
  nextTx : Nat

/-- An operation on the store. -/
inductive Call where
  | begin
  | commit (tx : TxId)
  | rollback (tx : TxId)
  | fetch (tx : TxId) (key : RowKey)
  | insert (tx : TxId) (key : RowKey) (row : Row)
  /-- Overwrites the given fields of a row. -/
  | update (tx : TxId) (key : RowKey) (fields : List (Nat × Value))
  | audit (tx : TxId) (record : AuditRecord)
  deriving DecidableEq, Repr

/-- What an operation answers when it succeeds. -/
abbrev Call.Answer : Call → Type
  | begin => TxId
  | fetch .. => Option Row
  | commit _ | rollback _ | insert .. | update .. | audit .. => Unit

namespace Store

def empty : Store := ⟨.empty, .empty, [], 0, 1⟩

instance : Inhabited Store := ⟨empty⟩

/-- The committed image of a row. -/
def committedRow? (s : Store) (key : RowKey) : Option Row := (s.rows.get? key).map (·.row)

/-- The stamp of the committed image of a row. -/
def stamp? (s : Store) (key : RowKey) : Option Nat := (s.rows.get? key).map (·.stamp)

/-- The number of committed rows of a table. -/
def rowCount (s : Store) (table : String) : Nat := s.rows.keys.countP (·.table == table)

/-- The number of transactions that have not ended. -/
def activeCount (s : Store) : Nat := s.transactions.size

def unknownTransaction (tx : TxId) : Failure :=
  .execution ("Transaction " ++ tx.text ++ " not found")

/-- The store with the state of one transaction replaced. -/
def withTransaction (s : Store) (t : Transaction) : Store :=
  { s with transactions := s.transactions.put t.id t }

/-- Opens a transaction under a given number. -/
def openAs (s : Store) (tx : TxId) : Store := s.withTransaction (.start tx)

/-- Opens a transaction under the next number. -/
def begin (s : Store) : TxId × Store :=
  (⟨s.nextTx⟩, { s.openAs ⟨s.nextTx⟩ with nextTx := s.nextTx + 1 })

/-- The image of a row as a transaction sees it: what it staged, or else what is committed. Looking
at a committed row, or for one that does not exist, is a touch. -/
def visibleRow (s : Store) (tx : TxId) (key : RowKey) : Except Failure (Option Row) × Store :=
  match s.transactions.get? tx with
  | none => (.error (unknownTransaction tx), s)
  | some t =>
    match t.stagedRow? key with
    | some row => (.ok (some row), s)
    | none =>
      (.ok (s.committedRow? key),
        { s with transactions := s.transactions.put tx (t.observe key (s.stamp? key)) })

/-- Stages a change in a transaction. -/
def stage (s : Store) (tx : TxId) (change : Change) (stamp : Option Nat) :
    Except Failure Unit × Store :=
  match s.transactions.get? tx with
  | none => (.error (unknownTransaction tx), s)
  | some t =>
    match t.record change stamp with
    | .error failure => (.error failure, s)
    | .ok t => (.ok (), { s with transactions := s.transactions.put tx t })

def fetch (s : Store) (tx : TxId) (key : RowKey) : Except Failure (Option Row) × Store :=
  s.visibleRow tx key

/-- Stages a new row. -/
def insert (s : Store) (tx : TxId) (key : RowKey) (row : Row) : Except Failure Unit × Store :=
  match s.visibleRow tx key with
  | (.error failure, s) => (.error failure, s)
  | (.ok (some _), s) => (.error (.execution (key.text ++ " already exists")), s)
  | (.ok none, s) => s.stage tx (.insertRow key row) none

/-- A row with fields overwritten in order; a field it lacks is refused. -/
def overwrite (key : RowKey) (row : Row) : List (Nat × Value) → Except Failure Row
  | [] => .ok row
  | (index, value) :: rest =>
    if index < row.length then overwrite key (row.set index value) rest
    else .error (.execution (key.text ++ " has no field #" ++ toString index))

/-- Stages a new image of a row: the visible one with some fields overwritten. -/
def update (s : Store) (tx : TxId) (key : RowKey) (fields : List (Nat × Value)) :
    Except Failure Unit × Store :=
  match s.visibleRow tx key with
  | (.error failure, s) => (.error failure, s)
  | (.ok none, s) => (.error (.notFound key.table key.id), s)
  | (.ok (some row), s) =>
    match overwrite key row fields with
    | .error failure => (.error failure, s)
    | .ok row => s.stage tx (.updateRow key row) (s.stamp? key)

/-- Stages an audit record. -/
def audit (s : Store) (tx : TxId) (record : AuditRecord) : Except Failure Unit × Store :=
  s.stage tx (.appendAudit record) none

/-- The first of some rows whose stamp is not the one that is known. -/
def conflict? (s : Store) (written : List (RowKey × Option Nat)) : Option RowKey :=
  (written.find? fun (key, base) => s.stamp? key ≠ base).map (·.1)

/-- Applies one change to the rows, under a stamp. -/
def apply (stamp : Nat) (s : Store) : Change → Store
  | .insertRow key row => { s with rows := s.rows.put key ⟨row, stamp⟩ }
  | .updateRow key row => { s with rows := s.rows.put key ⟨row, stamp⟩ }
  | .appendAudit _ => s

/-- The first half of a commit: publishes the rows that a transaction wrote under the next stamp, or
refuses all its changes. The audit records are handed out; they are not in the log yet. Written rows
are looked through in the order in which `arrange` puts them, and the first that is no longer what
it was is the one a refusal names. -/
def publishRows (s : Store) (tx : TxId)
    (arrange : List (RowKey × Option Nat) → List (RowKey × Option Nat) := id) :
    Except Failure (List AuditRecord) × Store :=
  match s.transactions.get? tx with
  | none => (.error (unknownTransaction tx), s)
  | some t =>
    let s := { s with transactions := s.transactions.erase tx }
    match s.conflict? (arrange t.writtenRows) with
    | some key =>
      match t.rollback with
      | .error failure => (.error failure, s)
      | .ok _ =>
        (.error (.conflict (key.text ++ " was modified by another transaction")), s)
    | none =>
      let s := { s with commits := s.commits + 1 }
      match t.commit with
      | .error failure => (.error failure, s)
      | .ok (changes, _) =>
        (.ok (changes.filterMap Change.audit?), changes.foldl (apply s.commits) s)

/-- The second half of a commit: appends audit records to the log. -/
def appendAudits (s : Store) (records : List AuditRecord) : Store :=
  { s with audits := s.audits ++ records }

/-- Publishes the changes of a transaction, or refuses them all. -/
def commit (s : Store) (tx : TxId) : Except Failure Unit × Store :=
  match s.publishRows tx with
  | (.error failure, s) => (.error failure, s)
  | (.ok records, s) => (.ok (), s.appendAudits records)

/-- Discards a transaction. -/
def rollback (s : Store) (tx : TxId) : Except Failure Unit × Store :=
  match s.transactions.get? tx with
  | none => (.error (unknownTransaction tx), s)
  | some t =>
    (t.rollback.map fun _ => (), { s with transactions := s.transactions.erase tx })

/-- Carries out one operation. -/
def step (s : Store) : (c : Call) → Except Failure c.Answer × Store
  | .begin => let (tx, s) := s.begin; (.ok tx, s)
  | .commit tx => s.commit tx
  | .rollback tx => s.rollback tx
  | .fetch tx key => s.fetch tx key
  | .insert tx key row => s.insert tx key row
  | .update tx key fields => s.update tx key fields
  | .audit tx record => s.audit tx record

/-- The store after a run of operations. -/
def run (s : Store) (calls : List Call) : Store := calls.foldl (fun s c => (s.step c).2) s

end Store

end RecordEngine
