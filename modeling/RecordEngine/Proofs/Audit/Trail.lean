import RecordEngine.Proofs.Record.Patch
import RecordEngine.Proofs.Store.Transcript
import RecordEngine.Session
/-!
Audit trails: what the log says of one record.

`AuditTrail` is what a reader of the log relies on: one create, then updates only, which replayed
from the empty record give the stored row and whose old values are those of the replay so far.
`Trail` is how the trail comes about, one write of the engine at a time, each with the record before
and after; it keeps what the engine knew when it wrote, and `Trail.auditTrail` draws the conclusion.
-/

set_option autoImplicit false

namespace RecordEngine

/-- Two rows agree field by field. -/
def RowsAgree (a b : Row) : Prop :=
  a.length = b.length ∧ ∀ i, (a.getD i .null).agrees (b.getD i .null) = true

/-- The row that audit records give when each overwrites the fields it lists, from the empty record
on. -/
def replay (E : EntityType) (log : List AuditRecord) : Row :=
  log.foldl (fun row audit => audit.changes.patch E.schema row) (Record.default E).toRow

@[simp] theorem replay_nil (E : EntityType) : replay E [] = (Record.default E).toRow := rfl

theorem replay_snoc (E : EntityType) (log : List AuditRecord) (audit : AuditRecord) :
    replay E (log ++ [audit]) = audit.changes.patch E.schema (replay E log) :=
  List.foldl_append

theorem length_replay (E : EntityType) (log : List AuditRecord) :
    (replay E log).length = E.fields.length := by
  induction log using List.reverseRecOn with
  | nil => exact Record.length_toRow _
  | append_singleton log audit ih => rw [replay_snoc, ChangeSet.length_patch, ih]

/-- What the audit records of a stored record say about it. -/
structure AuditTrail (E : EntityType) (log : List AuditRecord) (row : Row) : Prop where
  /-- It was created once and only updated since. -/
  shape : ∃ first rest, log = first :: rest ∧ first.action = .create ∧
    ∀ audit ∈ rest, audit.action = .update
  /-- Replayed, they give the row. -/
  replays : RowsAgree (replay E log) row
  /-- An update lists for each field the value that the records before it give. -/
  olds : ∀ before audit after, log = before ++ audit :: after → audit.action = .update →
    ∀ change ∈ audit.changes.changes, ∃ i old, E.schema.fieldIndex? change.field = some i ∧
      change.old = some old ∧ old.agrees ((replay E before).getD i .null) = true

/-! ## The writes of the engine -/

/-- The record that a create inserts, and the audit record of it. -/
structure Creation (E : EntityType) (id : String) (record : Record E) (audit : AuditRecord) :
    Prop where
  stamped : ∃ (converged : Record E) (now : Instant), converged.id = id ∧
    E.schema.checkRow converged.toRow = .ok () ∧
      Session.stampNew converged now audit.effective = .ok record
  action : audit.action = .create
  entity : audit.entity = E.name
  id : audit.id = id
  changes : audit.changes = .ofMask (FieldMask.diff (.default E) record) none record

/-- The record whose writable fields a save writes over a stored one, and the audit record of it. -/
structure Revision (E : EntityType) (id : String) (stored proposed : Record E)
    (audit : AuditRecord) : Prop where
  stamped : ∃ (given converged : Record E) (now : Instant), given.id = id ∧ converged.id = id ∧
    Session.checkVersion given stored id = .ok () ∧
      E.schema.checkRow converged.toRow = .ok () ∧
      (Session.changedFields stored converged).isEmpty = false ∧
      Session.stampChanged converged (stored.version?.map (· + 1)) now audit.effective =
        .ok proposed
  action : audit.action = .update
  entity : audit.entity = E.name
  id : audit.id = id
  changes : audit.changes = .ofMask (Session.writtenFields stored proposed) (some stored) proposed

/-- The audit records of one record, oldest first, and what the record has become. -/
inductive Trail (E : EntityType) (id : String) : List AuditRecord → Option (Record E) → Prop where
  | absent : Trail E id [] none
  | created (record : Record E) (audit : AuditRecord) (h : Creation E id record audit) :
      Trail E id [audit] (some record)
  | revised (log : List AuditRecord) (stored proposed next : Record E) (audit : AuditRecord)
      (before : Trail E id log (some stored)) (h : Revision E id stored proposed audit)
      (hnext : ∀ i, next.field i =
        if (Session.writtenFields stored proposed).contains i = true then proposed.field i
        else stored.field i) :
      Trail E id (log ++ [audit]) (some next)

variable {E : EntityType} {id : String} {log : List AuditRecord}

/-- A save writes only fields there are. -/
theorem Session.lt_of_contains_writtenFields {stored proposed : Record E} {i : Nat}
    (h : (Session.writtenFields stored proposed).contains i = true) : i < E.fields.length := by
  rw [Session.writtenFields, FieldMask.contains_retain, Bool.and_eq_true] at h
  exact FieldMask.lt_of_contains_diff h.1

theorem Trail.eq_nil (h : Trail E id log none) : log = [] := by
  cases h with
  | absent => rfl

theorem Trail.shape {record : Record E} (h : Trail E id log (some record)) :
    ∃ first rest, log = first :: rest ∧ first.action = .create ∧
      ∀ audit ∈ rest, audit.action = .update := by
  -- The record is an index of the trail, so it is set apart before the induction.
  generalize hstate : some record = state at h
  induction h generalizing record with
  | absent => cases hstate
  | created record' audit h => exact ⟨audit, [], rfl, h.action, fun _ hmem => by cases hmem⟩
  | revised log stored proposed next audit before h hnext ih =>
    obtain ⟨first, rest, rfl, hfirst, hrest⟩ := ih rfl
    refine ⟨first, rest ++ [audit], rfl, hfirst, fun a hmem => ?_⟩
    rcases List.mem_append.1 hmem with hmem | hmem
    · exact hrest a hmem
    · rw [List.mem_singleton.1 hmem]
      exact h.action

/-- The records of a trail replay to the record it ends with. -/
theorem Trail.field_replay (hnodup : (E.schema.fields.map (·.name)).Nodup) {record : Record E}
    (h : Trail E id log (some record)) (i : Nat) :
    ((replay E log).getD i .null).agrees (record.field i) = true := by
  generalize hstate : some record = state at h
  induction h generalizing record with
  | absent => cases hstate
  | created record' audit h =>
    obtain rfl := Option.some.inj hstate
    rw [← List.nil_append [audit], replay_snoc, h.changes, ChangeSet.getD_patch_ofMask hnodup
      (fun i => FieldMask.lt_of_contains_diff) _ _ (length_replay E [])]
    -- A field that is not listed agrees with its default.
    split
    · exact Value.agrees_refl _
    · next hi => exact FieldMask.agrees_of_not_contains_diff (Bool.eq_false_iff.2 hi)
  | revised log stored proposed next audit before h hnext ih =>
    obtain rfl := Option.some.inj hstate
    rw [replay_snoc, h.changes, ChangeSet.getD_patch_ofMask hnodup
      (fun i => Session.lt_of_contains_writtenFields) _ _ (length_replay E log), hnext]
    split
    · exact Value.agrees_refl _
    -- A field that is not listed keeps the value of the stored record.
    · exact ih rfl

/-- The old values of an update are those of the record before it. -/
theorem Trail.olds (hnodup : (E.schema.fields.map (·.name)).Nodup) {state : Option (Record E)}
    (h : Trail E id log state) {before after : List AuditRecord} {audit : AuditRecord}
    (hsplit : log = before ++ audit :: after) (haction : audit.action = .update)
    {change : FieldChange} (hchange : change ∈ audit.changes.changes) :
    ∃ i old, E.schema.fieldIndex? change.field = some i ∧ change.old = some old ∧
      old.agrees ((replay E before).getD i .null) = true := by
  induction h generalizing after with
  | absent => simp at hsplit
  | created record audit' h =>
    obtain ⟨rfl, hrest⟩ : before = [] ∧ audit' :: [] = audit :: after := by
      cases before with
      | nil => exact ⟨rfl, hsplit⟩
      | cons first rest => simp at hsplit
    rw [← (List.cons.inj hrest).1, h.action] at haction
    cases haction
  | revised log stored proposed next last htrail h hnext ih =>
    rcases snoc_eq_append_cons.1 hsplit with ⟨rfl, rfl, rfl⟩ | ⟨rest, rfl, hbefore⟩
    · rw [h.changes] at hchange
      -- The last update lists the values of the record it found stored, to which the log before it
      -- replays.
      exact ChangeSet.olds_agree hnodup (htrail.field_replay hnodup) hchange
    · exact ih hbefore

/-- What the engine writes is an audit trail. -/
theorem Trail.auditTrail (hnodup : (E.schema.fields.map (·.name)).Nodup) {record : Record E}
    (h : Trail E id log (some record)) : AuditTrail E log record.toRow where
  shape := h.shape
  replays := ⟨by rw [length_replay, Record.length_toRow], fun i => h.field_replay hnodup i⟩
  olds _ _ _ hsplit haction _ hchange := h.olds hnodup hsplit haction hchange

end RecordEngine
