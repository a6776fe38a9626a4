import RecordEngine.Proofs.Audit.Protocol
/-!
Commits seen half done.

A commit publishes its rows, and when it then gets hold of the log it appends its audit records.
Between the two halves everybody sees the rows and the log does not have the records, and the commit
that gets hold of the log next need not be the one that published first. `Ledger` is the store
together with what commits still owe to the log, and `Beat` is what can happen next: a call, of
which a commit does only its first half, or the second half of a commit. Whatever else an operation
does in several steps, it does to its own transaction, where nobody else looks; so there is nothing
to tell apart but these two.

No operation looks at the log (`step_withLog`, `publishRows_withLog`). So a run in halves is
answered call by call like the run in which every commit is done as a whole, and leaves the same
rows (`Mirrors.run`); what was proved of whole commits carries over, with the records in the order
in which they were published. Only the log itself can be behind, and out of order.
-/

set_option autoImplicit false

namespace RecordEngine

/-! ## A store with commits under way -/

/-- A store and the records that commits have published but not yet appended to the log. -/
structure Ledger where
  store : Store
  /-- The transactions that still have to append their records, the first to publish first. -/
  owed : List (TxId × List AuditRecord)
  /-- The audit records of all commits that have published, in this order. -/
  published : List AuditRecord

/-- What happens next. -/
inductive Beat where
  /-- A session makes a call. -/
  | call (session : Nat) (c : Call)
  /-- The commit of a transaction gets hold of the log. -/
  | append (tx : TxId)
  deriving DecidableEq

/-- The call that a session makes. -/
def Beat.call? : Beat → Option (Nat × Call)
  | .call session c => some (session, c)
  | .append _ => none

namespace Ledger

def empty : Ledger := ⟨.empty, [], []⟩

/-- The records that are still to be appended. -/
def due (l : Ledger) : List AuditRecord := l.owed.flatMap (·.2)

/-- The first half of a commit, which settles how it is answered. -/
def publish (l : Ledger) (tx : TxId) : Except Failure Unit × Ledger :=
  match l.store.publishRows tx with
  | (.error failure, s) => (.error failure, { l with store := s })
  | (.ok records, s) => (.ok (), ⟨s, l.owed ++ [(tx, records)], l.published ++ records⟩)

/-- A call; of a commit, the first half. -/
def call (l : Ledger) : (c : Call) → Except Failure c.Answer × Ledger
  | .commit tx => l.publish tx
  | c => ((l.store.step c).1, { l with store := (l.store.step c).2 })

/-- The transactions that published before the given one and have yet to append their records. -/
def ahead (l : Ledger) (tx : TxId) : List (TxId × List AuditRecord) :=
  l.owed.takeWhile (·.1 ≠ tx)

/-- The given transaction, if it has yet to append its records, and those that published after it.
-/
def onward (l : Ledger) (tx : TxId) : List (TxId × List AuditRecord) :=
  l.owed.dropWhile (·.1 ≠ tx)

/-- The second half of a commit. -/
def append (l : Ledger) (tx : TxId) : Ledger :=
  match l.onward tx with
  | [] => l
  | (_, records) :: behind =>
    { l with store := l.store.appendAudits records, owed := l.ahead tx ++ behind }

def beat (l : Ledger) : Beat → Ledger
  | .call _ c => (l.call c).2
  | .append tx => l.append tx

/-- The ledger after a run. -/
def run (l : Ledger) (beats : List Beat) : Ledger := beats.foldl beat l

/-- What one session was answered in a run. -/
def part (i : Nat) (l : Ledger) : List Beat → List Event
  | [] => []
  | .call j c :: rest =>
    if j = i then ⟨c, (l.call c).1⟩ :: (l.call c).2.part i rest else (l.call c).2.part i rest
  | .append tx :: rest => (l.append tx).part i rest

/-- A transaction that appends its records of a row now overtakes none that published the row
earlier. -/
def InTurn (key : RowKey) (l : Ledger) (tx : TxId) : Prop :=
  match l.onward tx with
  | [] => True
  | (_, records) :: _ =>
    auditsOf key records = [] ∨ auditsOf key ((l.ahead tx).flatMap (·.2)) = []

/-- No commit of a row is overtaken on the way to the log. -/
def Orderly (key : RowKey) : Ledger → List Beat → Prop
  | _, [] => True
  | l, .call _ c :: rest => (l.call c).2.Orderly key rest
  | l, .append tx :: rest => l.InTurn key tx ∧ (l.append tx).Orderly key rest

end Ledger

/-! ## Nobody looks at the log -/

namespace Store

variable {s : Store} {log : List AuditRecord}

/-- The store with another log. -/
def withLog (s : Store) (log : List AuditRecord) : Store := { s with audits := log }

@[simp] theorem withLog_audits : (s.withLog log).audits = log := rfl

/-- A result with another log in its store. -/
def resultWithLog {α : Type} (log : List AuditRecord) (r : Except Failure α × Store) :
    Except Failure α × Store :=
  (r.1, r.2.withLog log)

theorem visibleRow_withLog (tx : TxId) (key : RowKey) :
    (s.withLog log).visibleRow tx key = resultWithLog log (s.visibleRow tx key) := by
  have hopen : (s.withLog log).transactions = s.transactions := rfl
  unfold visibleRow
  rw [hopen]
  cases s.transactions.get? tx with
  | none => rfl
  | some t => cases hrow : t.stagedRow? key <;> simp only [hrow] <;> rfl

theorem stage_withLog (tx : TxId) (change : Change) (stamp : Option Nat) :
    (s.withLog log).stage tx change stamp = resultWithLog log (s.stage tx change stamp) := by
  have hopen : (s.withLog log).transactions = s.transactions := rfl
  unfold stage
  rw [hopen]
  cases s.transactions.get? tx with
  | none => rfl
  | some t => cases hrecord : t.record change stamp <;> simp only [hrecord] <;> rfl

theorem insert_withLog (tx : TxId) (key : RowKey) (row : Row) :
    (s.withLog log).insert tx key row = resultWithLog log (s.insert tx key row) := by
  unfold insert
  rw [visibleRow_withLog]
  generalize s.visibleRow tx key = r
  obtain ⟨_ | _ | old, s'⟩ := r
  · rfl
  · exact stage_withLog tx _ none
  · rfl

theorem update_withLog (tx : TxId) (key : RowKey) (fields : List (Nat × Value)) :
    (s.withLog log).update tx key fields = resultWithLog log (s.update tx key fields) := by
  unfold update
  rw [visibleRow_withLog]
  generalize s.visibleRow tx key = r
  obtain ⟨_ | _ | old, s'⟩ := r
  · rfl
  · rfl
  · cases hrow : overwrite key old fields with
    | error failure => simp only [resultWithLog, hrow]
    | ok row =>
      simp only [resultWithLog, hrow]
      exact stage_withLog tx _ _

theorem rollback_withLog (tx : TxId) :
    (s.withLog log).rollback tx = resultWithLog log (s.rollback tx) := by
  have hopen : (s.withLog log).transactions = s.transactions := rfl
  unfold rollback
  rw [hopen]
  cases s.transactions.get? tx <;> rfl

theorem foldl_apply_withLog (stamp : Nat) (changes : List Change) :
    changes.foldl (apply stamp) (s.withLog log) =
      (changes.foldl (apply stamp) s).withLog log := by
  induction changes generalizing s with
  | nil => rfl
  | cons change rest ih =>
    have hfirst : apply stamp (s.withLog log) change = (apply stamp s change).withLog log := by
      cases change <;> rfl
    rw [List.foldl_cons, hfirst, ih, List.foldl_cons]

theorem publishRows_withLog (tx : TxId) :
    (s.withLog log).publishRows tx = resultWithLog log (s.publishRows tx) := by
  have hopen : (s.withLog log).transactions = s.transactions := rfl
  have hconflict (written : List (RowKey × Option Nat)) :
      conflict? { s.withLog log with transactions := s.transactions.erase tx } written =
        conflict? { s with transactions := s.transactions.erase tx } written := rfl
  unfold publishRows
  rw [hopen]
  cases s.transactions.get? tx with
  | none => rfl
  | some t =>
    dsimp only
    rw [hconflict]
    cases conflict? { s with transactions := s.transactions.erase tx } (id t.writtenRows) with
    | some key => cases t.rollback <;> rfl
    | none =>
      cases t.commit with
      | error failure => rfl
      | ok published =>
        refine Prod.ext rfl ?_
        exact foldl_apply_withLog (s := { s.without tx with commits := s.commits + 1 })
          (s.commits + 1) published.1

/-- A call that is no commit is answered the same whatever the log is, and leaves it alone. -/
theorem step_withLog {c : Call} (hc : ∀ tx, c ≠ .commit tx) :
    (s.withLog log).step c = resultWithLog log (s.step c) := by
  cases c with
  | begin => rfl
  | commit tx => exact absurd rfl (hc tx)
  | rollback tx => exact rollback_withLog tx
  | fetch tx key => exact visibleRow_withLog tx key
  | insert tx key row => exact insert_withLog tx key row
  | update tx key fields => exact update_withLog tx key fields
  | audit tx record => exact stage_withLog tx _ none

theorem audits_step {c : Call} (hc : ∀ tx, c ≠ .commit tx) : (s.step c).2.audits = s.audits := by
  have hstep : (s.withLog s.audits).step c = resultWithLog s.audits (s.step c) := step_withLog hc
  exact congrArg (fun r => r.2.audits) hstep

theorem audits_publishRows (tx : TxId) : (s.publishRows tx).2.audits = s.audits := by
  have hrows : (s.withLog s.audits).publishRows tx = resultWithLog s.audits (s.publishRows tx) :=
    publishRows_withLog tx
  exact congrArg (fun r => r.2.audits) hrows

end Store

/-! ## Commits in halves and as a whole -/

namespace Ledger

variable {l : Ledger} {s : Store} {key : RowKey}

/-- The ledger stands where the store stands that does every commit as a whole: only the log is
behind, by the records that are owed. -/
structure Mirrors (l : Ledger) (s : Store) : Prop where
  store : l.store = s.withLog l.store.audits
  published : l.published = s.audits
  records : l.published.Perm (l.store.audits ++ l.due)

theorem mirrors_empty : empty.Mirrors .empty := ⟨rfl, rfl, .nil⟩

/-- Ledger and store make the same step, which publishes records: the log of the ledger is left
alone, and the records are owed from then on. -/
structure Publishes (l : Ledger) (s : Store) (records : List AuditRecord) (l' : Ledger)
    (s' : Store) : Prop where
  store : l'.store = s'.withLog l.store.audits
  audits : s'.audits = s.audits ++ records
  published : l'.published = l.published ++ records
  due : l'.due = l.due ++ records

theorem Mirrors.publish_cases (h : l.Mirrors s) (tx : TxId) :
    (l.publish tx).1 = (s.commit tx).1 ∧
      ∃ records, l.Publishes s records (l.publish tx).2 (s.commit tx).2 := by
  have hrows : l.store.publishRows tx =
      Store.resultWithLog l.store.audits (s.publishRows tx) := by
    rw [← Store.publishRows_withLog, ← h.store]
  have haudits : (s.publishRows tx).2.audits = s.audits := Store.audits_publishRows tx
  rw [publish, Store.commit, hrows]
  generalize s.publishRows tx = r at haudits
  obtain ⟨_ | records, s'⟩ := r
  · exact ⟨rfl, [], rfl, by rw [haudits, List.append_nil], (List.append_nil _).symm,
      (List.append_nil _).symm⟩
  · refine ⟨rfl, records, rfl, by rw [← haudits]; rfl, rfl, ?_⟩
    change (l.owed ++ [(tx, records)]).flatMap (·.2) = l.due ++ records
    rw [due, List.flatMap_append, List.flatMap_singleton]

/-- A call is answered as by the store; only a commit publishes anything. -/
theorem Mirrors.call_cases (h : l.Mirrors s) (c : Call) :
    (l.call c).1 = (s.step c).1 ∧
      ∃ records, l.Publishes s records (l.call c).2 (s.step c).2 := by
  by_cases hcommit : ∃ tx, c = .commit tx
  · obtain ⟨tx, rfl⟩ := hcommit
    exact h.publish_cases tx
  · have hc (tx : TxId) : c ≠ .commit tx := fun h => hcommit ⟨tx, h⟩
    have hstep : l.store.step c = Store.resultWithLog l.store.audits (s.step c) := by
      rw [← Store.step_withLog hc, ← h.store]
    have hcall : l.call c = ((l.store.step c).1, { l with store := (l.store.step c).2 }) := by
      cases c with
      | commit tx => exact absurd rfl (hc tx)
      | _ => rfl
    rw [hcall, hstep]
    exact ⟨rfl, [], rfl, by rw [Store.audits_step hc, List.append_nil], (List.append_nil _).symm,
      (List.append_nil _).symm⟩

theorem Mirrors.call (h : l.Mirrors s) (c : Call) : (l.call c).2.Mirrors (s.step c).2 := by
  obtain ⟨-, records, hstep⟩ := h.call_cases c
  have hlog : (l.call c).2.store.audits = l.store.audits := by
    rw [hstep.store, Store.withLog_audits]
  refine ⟨by rw [hlog, hstep.store], by rw [hstep.published, hstep.audits, h.published], ?_⟩
  rw [hstep.published, hlog, hstep.due, ← List.append_assoc]
  exact h.records.append_right records

/-- Who gets hold of the log takes out of the records that are owed its own. -/
theorem append_cases (l : Ledger) (tx : TxId) :
    l.append tx = l ∨
      ∃ before records after, l.due = before ++ (records ++ after) ∧
        (l.append tx).store = l.store.appendAudits records ∧
        (l.append tx).published = l.published ∧ (l.append tx).due = before ++ after ∧
        ∀ key, l.InTurn key tx → auditsOf key records = [] ∨ auditsOf key before = [] := by
  have howed : l.ahead tx ++ l.onward tx = l.owed := List.takeWhile_append_dropWhile
  unfold append InTurn
  cases honward : l.onward tx with
  | nil => exact .inl rfl
  | cons batch behind =>
    refine .inr ⟨(l.ahead tx).flatMap (·.2), batch.2, behind.flatMap (·.2), ?_, rfl, rfl, ?_,
      fun _ hturn => hturn⟩
    · rw [due, ← howed, honward, List.flatMap_append, List.flatMap_cons]
    · exact List.flatMap_append

theorem Mirrors.append (h : l.Mirrors s) (tx : TxId) : (l.append tx).Mirrors s := by
  rcases l.append_cases tx with
    hnothing | ⟨before, records, after, hdue, hstore, hpublished, hleft, -⟩
  · rw [hnothing]
    exact h
  · refine ⟨?_, hpublished.trans h.published, ?_⟩
    · rw [hstore, h.store]
      rfl
    · have hswap : l.due.Perm (records ++ (before ++ after)) := by
        rw [hdue]
        exact List.perm_append_comm_assoc before records after
      rw [hpublished, hstore, hleft, Store.appendAudits, List.append_assoc]
      exact h.records.trans (hswap.append_left _)

/-- **A run in halves is the run of whole commits to everybody.** Each session is answered as if
commits were done as a whole, and the rows, the open transactions and the stamps are the same; the
log and the records that are owed make up the log of the other run. -/
theorem Mirrors.run (h : l.Mirrors s) (beats : List Beat) :
    (l.run beats).Mirrors (s.run ((beats.filterMap Beat.call?).map (·.2))) ∧
      ∀ i, l.part i beats = s.part i (beats.filterMap Beat.call?) := by
  induction beats generalizing l s with
  | nil => exact ⟨h, fun _ => rfl⟩
  | cons beat rest ih =>
    cases beat with
    | call j c =>
      obtain ⟨hmirrors, hpart⟩ := ih (h.call c)
      refine ⟨hmirrors, fun i => ?_⟩
      rw [part, hpart, (h.call_cases c).1]
      rfl
    | append tx => exact ih (h.append tx)

/-! ## The order of the log -/

/-- Of one row, the log and the records that are owed are what was published, in its order. -/
def InOrder (key : RowKey) (l : Ledger) : Prop :=
  auditsOf key l.published = auditsOf key l.store.audits ++ auditsOf key l.due

theorem inOrder_empty : empty.InOrder key := rfl

theorem InOrder.append (h : l.InOrder key) {tx : TxId} (hturn : l.InTurn key tx) :
    (l.append tx).InOrder key := by
  rcases l.append_cases tx with
    hnothing | ⟨before, records, after, hdue, hstore, hpublished, hleft, hfirst⟩
  · rwa [hnothing]
  · -- Those ahead and the one that appends change places; only one of them has records of the row.
    have hswap : auditsOf key before ++ auditsOf key records =
        auditsOf key records ++ auditsOf key before := by
      rcases hfirst key hturn with hnone | hnone <;> rw [hnone] <;> simp
    calc auditsOf key (l.append tx).published
        = auditsOf key l.store.audits ++ auditsOf key (before ++ (records ++ after)) := by
          rw [hpublished, h, hdue]
      _ = auditsOf key l.store.audits ++
            (auditsOf key before ++ auditsOf key records ++ auditsOf key after) := by
          simp only [auditsOf_append, List.append_assoc]
      _ = auditsOf key (l.append tx).store.audits ++ auditsOf key (l.append tx).due := by
          rw [hswap, hstore, hleft, Store.appendAudits]
          simp only [auditsOf_append, List.append_assoc]

theorem InOrder.call (h : l.InOrder key) (hmirrors : l.Mirrors s) (c : Call) :
    (l.call c).2.InOrder key := by
  obtain ⟨-, records, hstep⟩ := hmirrors.call_cases c
  rw [InOrder, hstep.published, hstep.store, hstep.due, auditsOf_append, auditsOf_append, h,
    Store.withLog_audits, List.append_assoc]

theorem InOrder.run (h : l.InOrder key) (hmirrors : l.Mirrors s) {beats : List Beat}
    (horder : l.Orderly key beats) : (l.run beats).InOrder key := by
  induction beats generalizing l s with
  | nil => exact h
  | cons beat rest ih =>
    cases beat with
    | call j c => exact ih (h.call hmirrors c) (hmirrors.call c) horder
    | append tx => exact ih (h.append horder.1) (hmirrors.append tx) horder.2

/-- What a run leaves of the records of one row: those in the log and those that are owed are the
ones that were published, and in the same order if no commit of the row was overtaken. -/
theorem auditsOf_published (beats : List Beat) (key : RowKey) :
    (auditsOf key (empty.run beats).published).Perm (auditsOf key (empty.run beats).store.audits ++
        auditsOf key (empty.run beats).due) ∧
      (empty.Orderly key beats → auditsOf key (empty.run beats).published =
        auditsOf key (empty.run beats).store.audits ++ auditsOf key (empty.run beats).due) := by
  refine ⟨?_, fun horder => inOrder_empty.run mirrors_empty horder⟩
  rw [← auditsOf_append]
  exact (mirrors_empty.run beats).1.records.filter _

/-- After any run of sessions that obey the protocol, their commits in halves, the committed row of
a record has come about as the audit records published for it say. -/
theorem trail_of_obeys {types : EntityType → Prop} {E : EntityType}
    (hnames : ∀ F, types F → F.name = E.name → F = E) (beats : List Beat)
    (hobeys : ∀ i, Obeys types (empty.part i beats)) (id : String) :
    ∃ state : Option (Record E),
      (empty.run beats).store.committedRow? (E.key id) = state.map Record.toRow ∧
        Trail E id (auditsOf (E.key id) (empty.run beats).published) state := by
  obtain ⟨hmirrors, hpart⟩ := mirrors_empty.run beats
  rw [hmirrors.store, hmirrors.published]
  exact RecordEngine.trail_of_obeys hnames _ (fun i => hpart i ▸ hobeys i) id

/-- The committed row of a record and the audit records published for it, after any run of sessions
that obey the protocol. -/
theorem auditTrail_of_obeys {types : EntityType → Prop} {E : EntityType}
    (hnames : ∀ F, types F → F.name = E.name → F = E)
    (hnodup : (E.schema.fields.map (·.name)).Nodup) (beats : List Beat)
    (hobeys : ∀ i, Obeys types (empty.part i beats)) {id : String} {row : Row}
    (hrow : (empty.run beats).store.committedRow? (E.key id) = some row) :
    AuditTrail E (auditsOf (E.key id) (empty.run beats).published) row := by
  obtain ⟨state, hstate, htrail⟩ := trail_of_obeys hnames beats hobeys id
  obtain ⟨record, rfl, rfl⟩ := Option.map_eq_some_iff.1 (hstate.symm.trans hrow)
  exact htrail.auditTrail hnodup

end Ledger

end RecordEngine
