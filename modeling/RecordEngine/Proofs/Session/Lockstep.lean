import RecordEngine.Proofs.Audit.Version
import RecordEngine.Proofs.Session.Doings
import RecordEngine.Proofs.Trace.Bracketed
/-!
Writes, notices and audit records go in lockstep.

A write, the notice of it and its audit record are made from different things: from the stamped
record and a mask, from the version that was stored, and from the record that was loaded. That they
tell of the same change is a matter of what lies between. Only handlers run between the load and the
write, so if these write no rows and nobody commits the row meanwhile, the record that was loaded is
still what the session sees when it overwrites it (`Store.Sound.seen_run`); and nothing runs between
the write and the audit record that could end the transaction, so what was written is audited.

A `Posting` is a write with what is told of it. The doings of an operation are `Aligned` if, wherever
the backend stands, their writes, notices and audit records are those of one list of postings. This
adds up from one operation to the next, and so to all that a session does.
-/

set_option autoImplicit false

namespace RecordEngine

variable {β σ α : Type} {E : EntityType}

/-! ## What a write changed -/

namespace EntityType

/-- The version in a row. -/
def versionIn (E : EntityType) (row : Row) : Option Int :=
  (E.schema.roleIndex? .version).bind fun i => (row.getD i .null).asInteger?

/-- What changed in a row, in declaration order, with the values before and after. A row that was
not there before is compared to the empty record, and there are no values before. -/
def changesTo (E : EntityType) (before : Option Row) (after : Row) : ChangeSet where
  changes :=
    ((List.range E.fields.length).filter fun i =>
      !((before.getD (Record.default E).toRow).getD i .null).agrees (after.getD i .null)).filterMap
        fun i => (E.schema.fieldName? i).map fun field =>
          { field, old := before.map (·.getD i .null), new := after.getD i .null }

end EntityType

theorem FieldMask.indices_congr {a b : FieldMask} (hlen : a.len = b.len)
    (h : ∀ i, a.contains i = b.contains i) : a.indices = b.indices := by
  rw [indices, indices, hlen, funext h]

theorem FieldMask.indices_diff (a b : Record E) :
    (diff a b).indices =
      (List.range E.fields.length).filter fun i => !(a.field i).agrees (b.field i) := by
  rw [indices, len_diff]
  refine List.filter_congr fun i hi => ?_
  rw [contains_diff, decide_eq_true (List.mem_range.1 hi), Bool.true_and]

theorem changesTo_toRow (before : Option (Record E)) (after : Record E) :
    E.changesTo (before.map (·.toRow)) after.toRow =
      .ofMask (FieldMask.diff (before.getD (.default E)) after) before after := by
  cases before <;> rw [ChangeSet.ofMask, FieldMask.indices_diff] <;> rfl

/-- A row in which a save overwrote what it writes has changed in just these fields. -/
theorem changesTo_overwrite {key : RowKey} {stored proposed : Record E} {row : Row}
    (h : Store.overwrite key stored.toRow
      ((Session.writtenFields stored proposed).indices.map fun i => (i, proposed.field i)) =
        .ok row) :
    E.changesTo (some stored.toRow) row =
      .ofMask (Session.writtenFields stored proposed) (some stored) proposed := by
  obtain ⟨next, hnext, hfield⟩ := Record.overwrite_toRow key proposed
    (Session.writtenFields stored proposed).indices stored fun i hi =>
      Session.lt_of_contains_writtenFields (FieldMask.mem_indices.1 hi)
  obtain rfl : next.toRow = row := Except.ok.inj (hnext.symm.trans h)
  have hcontains (i : Nat) : (FieldMask.diff stored next).contains i =
      (Session.writtenFields stored proposed).contains i := by
    cases hi : (Session.writtenFields stored proposed).contains i with
    | true =>
      have hdiff : (FieldMask.diff stored proposed).contains i = true := by
        rw [Session.writtenFields, FieldMask.contains_retain, Bool.and_eq_true] at hi
        exact hi.1
      rw [FieldMask.contains_diff_iff, hfield, if_pos (FieldMask.mem_indices.2 hi)]
      exact FieldMask.contains_diff_iff.1 hdiff
    | false =>
      have hnot : i ∉ (Session.writtenFields stored proposed).indices := by
        rw [FieldMask.mem_indices, hi]
        exact Bool.false_ne_true
      rw [FieldMask.contains_diff, hfield, if_neg hnot, Value.agrees_refl, Bool.not_true,
        Bool.and_false]
  have hindices : (FieldMask.diff stored next).indices =
      (Session.writtenFields stored proposed).indices := by
    refine FieldMask.indices_congr ?_ hcontains
    rw [Session.writtenFields, FieldMask.len_retain, FieldMask.len_diff, FieldMask.len_diff]
  refine (changesTo_toRow (some stored) next).trans ?_
  rw [ChangeSet.ofMask, ChangeSet.ofMask, Option.getD_some, hindices]
  congr 1
  refine List.filterMap_congr fun i hi => ?_
  rw [hfield, if_pos hi]

/-- A save that may go on leaves a row of the version after the one it found. -/
theorem versionIn_overwrite {key : RowKey} {id who : String} {now : Instant}
    {record stored converged proposed : Record E} {old row : Row}
    (hcheck : Session.checkVersion record stored id = .ok ())
    (hstamp : Session.stampChanged converged (stored.version?.map (· + 1)) now who = .ok proposed)
    (hrow : Store.overwrite key old
      ((Session.writtenFields stored proposed).indices.map fun i => (i, proposed.field i)) =
        .ok row) :
    E.versionIn row = stored.version?.map (· + 1) := by
  cases hrole : E.schema.roleIndex? .version with
  | none => rw [EntityType.versionIn, Record.version?, hrole, Option.bind_none, Option.bind_none,
      Option.map_none]
  | some i =>
    have hversioned : E.schema.isVersioned = true := by
      rw [Schema.isVersioned, hrole]
      rfl
    obtain ⟨version, -, hstored⟩ := Session.checkVersion_eq_ok hversioned hcheck
    have hinteger : stored.field i = .integer version := by
      rw [Record.version?, hrole, Option.bind_some] at hstored
      cases hvalue : stored.field i with
      | integer n =>
        rw [hvalue] at hstored
        rw [Option.some.inj hstored]
      | _ =>
        rw [hvalue] at hstored
        cases hstored
    -- The type of the field can hold a whole number, because the stored record has one there.
    have hat : E.VersionAt i := by
      refine ⟨hrole, fun f hf => FieldType.isInteger_of_admits (n := version) ?_⟩
      have hlt := (List.getElem?_eq_some_iff.1 hf).1
      rw [← hinteger]
      exact stored.fits.admits hf (stored.values_getElem? hlt)
    rw [hstored, Option.map_some] at hstamp ⊢
    obtain ⟨f, w, hf, hw, hfield⟩ := Session.version_of_stampChanged hstamp hrole
    rw [FieldType.eq_of_convert_integer (hat.integer f hf) hw] at hfield
    have hwritten : i ∈ (Session.writtenFields stored proposed).indices := by
      rw [FieldMask.mem_indices, Session.writtenFields, FieldMask.contains_retain, hat.isWritable,
        Bool.and_true, FieldMask.contains_diff_iff, hinteger, hfield]
      exact beq_false_of_ne (Int.ne_of_lt (Int.lt_succ version))
    have hvalue : row[i]? = some (proposed.field i) :=
      Store.getElem?_overwrite_of_mem hrow hwritten
    rw [EntityType.versionIn, hrole, Option.bind_some, List.getD_eq_getElem?_getD, hvalue, hfield]
    rfl

/-! ## Writes, notices and audit records -/

/-- The row that a call wrote, and whether it is new, if it went through. -/
def Exchange.wrote? : Exchange β → Option (AuditAction × RowKey)
  | ⟨_, .insert _ key _, .ok _, _⟩ => some (.create, key)
  | ⟨_, .update _ key _, .ok _, _⟩ => some (.update, key)
  | _ => none

/-- The audit record that a call staged, if it went through. -/
def Exchange.audited? : Exchange β → Option AuditRecord
  | ⟨_, .audit _ record, .ok _, _⟩ => some record
  | _ => none

namespace Doing

/-- The row writes of the session that went through, with the types they were made for, and each
with the session's call before it, if there was one. -/
def writes : Option (Exchange β) → List (Doing β) →
    List (EntityType × Option (Exchange β) × Exchange β)
  | _, [] => []
  | earlier, .called (.session E) exchange :: later =>
    (if exchange.wrote?.isSome then [(E, earlier, exchange)] else []) ++
      writes (some exchange) later
  | earlier, .called .program _ :: later | earlier, .announced _ _ :: later => writes earlier later

/-- The last call of the session. -/
def lastCall : Option (Exchange β) → List (Doing β) → Option (Exchange β)
  | earlier, [] => earlier
  | _, .called (.session _) exchange :: later => lastCall (some exchange) later
  | earlier, .called .program _ :: later | earlier, .announced _ _ :: later =>
    lastCall earlier later

theorem writes_append (earlier : Option (Exchange β)) (doings later : List (Doing β)) :
    writes earlier (doings ++ later) =
      writes earlier doings ++ writes (lastCall earlier doings) later := by
  induction doings generalizing earlier with
  | nil => rfl
  | cons doing rest ih =>
    match doing with
    | .called (.session E) exchange =>
      rw [List.cons_append, writes, writes, ih, List.append_assoc]
      rfl
    | .called .program exchange => exact ih earlier
    | .announced notice answer => exact ih earlier

/-- What was announced. -/
def notice? : Doing β → Option Notice
  | .announced notice _ => some notice
  | .called _ _ => none

/-- The audit record that the session staged. -/
def audit? : Doing β → Option AuditRecord
  | .called (.session _) exchange => exchange.audited?
  | _ => none

/-- Neither a row write of the session, nor an announcement, nor an audit record of it. -/
def Quiet : Doing β → Prop
  | .called (.session _) exchange => exchange.wrote? = none ∧ exchange.audited? = none
  | .called .program _ => True
  | .announced _ _ => False

theorem Aside.quiet {own : TxId} {doing : Doing β} (h : doing.Aside own) : doing.Quiet := by
  obtain ⟨exchange, rfl, -⟩ := h
  trivial

theorem writes_eq_nil (earlier : Option (Exchange β)) {doings : List (Doing β)}
    (h : ∀ doing ∈ doings, doing.Quiet) : writes earlier doings = [] := by
  induction doings generalizing earlier with
  | nil => rfl
  | cons doing rest ih =>
    obtain ⟨hfirst, hrest⟩ := List.forall_mem_cons.1 h
    match doing, hfirst with
    | .called (.session E) exchange, hfirst =>
      rw [writes, hfirst.1, ih _ hrest]
      rfl
    | .called .program exchange, _ => exact ih earlier hrest

theorem lastCall_of_aside {own : TxId} (earlier : Option (Exchange β)) {doings : List (Doing β)}
    (h : ∀ doing ∈ doings, doing.Aside own) : lastCall earlier doings = earlier := by
  induction doings with
  | nil => rfl
  | cons doing rest ih =>
    obtain ⟨⟨exchange, rfl, -⟩, hrest⟩ := List.forall_mem_cons.1 h
    exact ih hrest

theorem filterMap_notice?_eq_nil {doings : List (Doing β)} (h : ∀ doing ∈ doings, doing.Quiet) :
    doings.filterMap notice? = [] := by
  refine List.filterMap_eq_nil_iff.2 fun doing hdoing => ?_
  have hquiet := h doing hdoing
  cases doing with
  | called => rfl
  | announced => exact hquiet.elim

theorem filterMap_audit?_eq_nil {doings : List (Doing β)} (h : ∀ doing ∈ doings, doing.Quiet) :
    doings.filterMap audit? = [] := by
  refine List.filterMap_eq_nil_iff.2 fun doing hdoing => ?_
  have hquiet := h doing hdoing
  match doing, hquiet with
  | .called (.session E) exchange, hquiet => exact hquiet.2
  | .called .program exchange, _ => rfl

end Doing

/-- A row write with what is told of it. -/
structure Posting (β : Type) where
  type : EntityType
  /-- The call that the session made before. -/
  earlier : Option (Exchange β)
  write : Exchange β
  notice : Notice
  audit : AuditRecord

namespace Posting

/-- The row that the audit record is about. -/
def key (posting : Posting β) : RowKey := posting.type.key posting.audit.id

/-- Between the call before and the write, the row was not committed anew. -/
def Undisturbed (store : β → Store) (posting : Posting β) : Prop :=
  ∀ read, posting.earlier = some read →
    (store posting.write.before).committedRow? posting.key =
        (store read.after).committedRow? posting.key ∧
      (store posting.write.after).committedRow? posting.key =
        (store posting.write.before).committedRow? posting.key

/-- The notice and the audit record tell of the row that was written, and of what the write changed
of it in the eyes of the transaction, which sees this row afterwards. -/
structure InStep (store : β → Store) (tx : TxId) (posting : Posting β) (after : Row) : Prop where
  entity : posting.audit.entity = posting.type.name
  caller : posting.write.call.tx? = some tx
  written : posting.write.wrote? = some (posting.audit.action, posting.key)
  shown : ((store posting.write.after).visibleRow tx posting.key).1 = .ok (some after)
  noticed : posting.notice =
    ⟨posting.type.name, posting.audit.id, posting.type.versionIn after⟩
  created : posting.audit.action = .create →
    posting.audit.changes = posting.type.changesTo none after
  read : posting.audit.action = .update →
    ∃ read, posting.earlier = some read ∧ read.call = .fetch tx posting.key
  /-- If the row was that of a record, and nobody committed it since it was read. -/
  updated : posting.audit.action = .update → posting.Undisturbed store →
    ∀ before : Record posting.type,
      ((store posting.write.before).visibleRow tx posting.key).1 = .ok (some before.toRow) →
        posting.audit.changes = posting.type.changesTo (some before.toRow) after

end Posting

/-- Row writes, notices and audit records are those of the postings, one for one and in order. -/
structure Lockstep (store : β → Store) (tx : TxId) (earlier : Option (Exchange β))
    (doings : List (Doing β)) (postings : List (Posting β)) : Prop where
  writes : Doing.writes earlier doings =
    postings.map fun posting => (posting.type, posting.earlier, posting.write)
  notices : doings.filterMap Doing.notice? = postings.map (·.notice)
  audits : doings.filterMap Doing.audit? = postings.map (·.audit)
  inStep : ∀ posting ∈ postings, ∃ after, posting.InStep store tx after

/-- One posting: a write, after whatever the session asked for and what was done aside, and at once
its notice and its audit record. -/
theorem Lockstep.one {store : β → Store} {tx : TxId} {earlier : Option (Exchange β)}
    {asked aside : List (Doing β)} (hasked : ∀ doing ∈ asked, doing.Quiet)
    (haside : ∀ doing ∈ aside, doing.Aside tx) {write record : Exchange β} {notice : Notice}
    {audit : AuditRecord} (haudit : record.audited? = some audit) (hrecord : record.wrote? = none)
    (hwrite : write.audited? = none) {after : Row}
    (hstep : Posting.InStep store tx ⟨E, Doing.lastCall earlier asked, write, notice, audit⟩
      after) :
    Lockstep store tx earlier (asked ++ (aside ++ [.called (.session E) write,
        .announced notice (.ok ()), .called (.session E) record]))
      [⟨E, Doing.lastCall earlier asked, write, notice, audit⟩] where
  writes := by
    have hquiet : ∀ doing ∈ aside, doing.Quiet := fun doing hdoing => (haside doing hdoing).quiet
    rw [Doing.writes_append, Doing.writes_eq_nil earlier hasked, Doing.writes_append,
      Doing.writes_eq_nil _ hquiet, Doing.lastCall_of_aside _ haside, Doing.writes, hstep.written,
      Doing.writes, Doing.writes, hrecord]
    rfl
  notices := by
    rw [List.filterMap_append, Doing.filterMap_notice?_eq_nil hasked, List.filterMap_append,
      Doing.filterMap_notice?_eq_nil fun doing hdoing => (haside doing hdoing).quiet]
    rfl
  audits := by
    rw [List.filterMap_append, Doing.filterMap_audit?_eq_nil hasked, List.filterMap_append,
      Doing.filterMap_audit?_eq_nil fun doing hdoing => (haside doing hdoing).quiet]
    simp only [List.nil_append, List.filterMap_cons, Doing.audit?, hwrite, haudit,
      List.filterMap_nil, List.map_cons, List.map_nil]
  inStep := List.forall_mem_singleton.2 ⟨after, hstep⟩

/-- Wherever the backend stands, doing this goes in lockstep. -/
def Aligned (backend : Backend β) (store : β → Store) (mine : β → TxId → Prop) (tx : TxId)
    (doings : List (Doing β)) : Prop :=
  ∀ b b', backend.Does doings b b' → Backend.Hosts store mine tx b → ∀ earlier,
    ∃ postings, Lockstep store tx earlier doings postings

section
variable {backend : Backend β} {store : β → Store} {mine : β → TxId → Prop} {tx : TxId}
  {doings later : List (Doing β)}

theorem Aligned.of_quiet (h : ∀ doing ∈ doings, doing.Quiet) :
    Aligned backend store mine tx doings := by
  intro b b' _ _ earlier
  exact ⟨[], Doing.writes_eq_nil earlier h, Doing.filterMap_notice?_eq_nil h,
    Doing.filterMap_audit?_eq_nil h, List.forall_mem_nil _⟩

theorem Aligned.append (hshares : backend.Shares store mine)
    (h : Aligned backend store mine tx doings) (h' : Aligned backend store mine tx later) :
    Aligned backend store mine tx (doings ++ later) := by
  intro b b'' hdoes hhosts earlier
  obtain ⟨b', hfirst, hlater⟩ := Backend.does_append.1 hdoes
  obtain ⟨postings, hlock⟩ := h b b' hfirst hhosts earlier
  obtain ⟨postings', hlock'⟩ :=
    h' b' b'' hlater (hfirst.hosts hshares hhosts) (Doing.lastCall earlier doings)
  refine ⟨postings ++ postings', ?_, ?_, ?_, List.forall_mem_append.2 ⟨hlock.inStep, hlock'.inStep⟩⟩
  · rw [Doing.writes_append, hlock.writes, hlock'.writes, List.map_append]
  · rw [List.filterMap_append, hlock.notices, hlock'.notices, List.map_append]
  · rw [List.filterMap_append, hlock.audits, hlock'.audits, List.map_append]

/-! ## One write -/

variable (hshares : backend.Shares store mine) {b b' : β}
include hshares

/-- An open transaction takes an audit record. -/
theorem Backend.Shares.audits (hhosts : Backend.Hosts store mine tx b)
    (hopen : (store b).transactions.get? tx ≠ none) (record : AuditRecord) :
    (backend.call (.audit tx record) b).1 = .ok () := by
  obtain ⟨rivals, hrivals, hanswer, -, -⟩ := hshares.reaches hhosts (.audit tx record)
  have hleaves : ∀ c ∈ rivals, c ≠ .commit tx ∧ c ≠ .rollback tx := fun c hc =>
    ⟨fun heq => hrivals c hc (heq ▸ rfl), fun heq => hrivals c hc (heq ▸ rfl)⟩
  have hstill := hhosts.sound.open_run hopen hleaves
  have heffect := Store.effect_step (hhosts.sound.run rivals) (.audit tx record)
  rw [hanswer]
  generalize (((store b).run rivals).step (.audit tx record)).1 = answer at heffect
  generalize (((store b).run rivals).step (.audit tx record)).2 = s' at heffect
  cases heffect with
  | unknown _ other htx hclosed =>
    obtain rfl := Option.some.inj htx
    exact absurd hclosed hstill
  | audited => rfl

/-- A row that is shown is seen from then on. -/
theorem Backend.Shares.shows (hhosts : Backend.Hosts store mine tx b) {key : RowKey} {row : Row}
    (hcall : backend.call (.fetch tx key) b = (.ok (some row), b')) :
    ((store b').visibleRow tx key).1 = .ok (some row) := by
  obtain ⟨rivals, -, hanswer, hstore, -⟩ := hshares.reaches hhosts (.fetch tx key)
  rw [hcall] at hanswer hstore
  have heffect := Store.effect_step (hhosts.sound.run rivals) (.fetch tx key)
  rw [← hanswer, ← hstore] at heffect
  generalize hafter : store b' = s' at heffect
  generalize hfound : (Except.ok (some row) : Except Failure (Option Row)) = found at heffect
  cases heffect with
  | unknown => cases hfound
  | fetched _ _ t hopen =>
    refine Store.visibleRow_eq_ok.2 ⟨_, (Store.get?_holding _ _ _ tx).trans (if_pos rfl), ?_⟩
    rw [Store.seen, Store.touched, Transaction.stagedRow?_touch, Store.committedRow?_holding]
    rfl

/-- A row that was inserted is seen. -/
theorem Backend.Shares.inserts (hhosts : Backend.Hosts store mine tx b) {key : RowKey} {row : Row}
    (hcall : backend.call (.insert tx key row) b = (.ok (), b')) :
    ((store b').visibleRow tx key).1 = .ok (some row) := by
  obtain ⟨rivals, -, hanswer, hstore, -⟩ := hshares.reaches hhosts (.insert tx key row)
  rw [hcall] at hanswer hstore
  have hstages := (hhosts.sound.run rivals).stages_insert hanswer.symm
  rw [← hstore] at hstages
  exact Store.visibleRow_eq_ok.2 hstages.after

/-- A row that was updated is seen as what was there with the fields overwritten. Unless the row was
committed by somebody else, what was there is what was seen before. -/
theorem Backend.Shares.updates (hhosts : Backend.Hosts store mine tx b) {key : RowKey}
    {fields : List (Nat × Value)} (hcall : backend.call (.update tx key fields) b = (.ok (), b')) :
    ∃ old row, Store.overwrite key old fields = .ok row ∧
      ((store b').visibleRow tx key).1 = .ok (some row) ∧
      ((store b').committedRow? key = (store b).committedRow? key →
        ∀ before, ((store b).visibleRow tx key).1 = .ok (some before) → before = old) := by
  obtain ⟨rivals, hrivals, hanswer, hstore, -⟩ := hshares.reaches hhosts (.update tx key fields)
  rw [hcall] at hanswer hstore
  obtain ⟨old, row, hrow, hstages⟩ := (hhosts.sound.run rivals).stages_update hanswer.symm
  rw [← hstore] at hstages
  refine ⟨old, row, hrow, Store.visibleRow_eq_ok.2 hstages.after, fun hkey before hbefore => ?_⟩
  obtain ⟨t, hopen, hseen⟩ := Store.visibleRow_eq_ok.1 hbefore
  obtain ⟨t', hopen', hseen'⟩ := hstages.before
  have hsame : ((store b).run rivals).committedRow? key = (store b).committedRow? key := by
    rw [← hkey, Store.committedRow?, Store.committedRow?, hstages.rows]
  have hspares : ∀ rival ∈ rivals, rival.SparesRows tx := fun rival hrival =>
    Call.sparesRows_of_tx? (hrivals rival hrival)
  have hkept := hhosts.sound.seen_run hspares hopen hopen' hsame
  exact Option.some.inj (hseen.symm.trans (hkept.symm.trans hseen'))

/-- What is seen of a row after something was done aside, unless the row was committed meanwhile. -/
theorem Backend.Does.visibleRow_eq (hdoes : backend.Does doings b b')
    (hhosts : Backend.Hosts store mine tx b) (haside : ∀ doing ∈ doings, doing.Aside tx)
    {key : RowKey} (hkey : (store b').committedRow? key = (store b).committedRow? key)
    {row row' : Option Row} (hrow : ((store b).visibleRow tx key).1 = .ok row)
    (hrow' : ((store b').visibleRow tx key).1 = .ok row') : row' = row := by
  obtain ⟨calls, hcalls, hspares⟩ := hdoes.calls hshares hhosts haside
  obtain ⟨t, hopen, rfl⟩ := Store.visibleRow_eq_ok.1 hrow
  obtain ⟨t', hopen', rfl⟩ := Store.visibleRow_eq_ok.1 hrow'
  rw [hcalls] at hkey hopen' ⊢
  exact hhosts.sound.seen_run hspares hopen hopen' hkey

end

/-! ## What handlers do -/

/-- No handler writes a row in the transaction of the session that it runs in. What deferred work
does is not restricted. -/
def Engine.SparesRows (engine : Engine β σ) : Prop :=
  ∀ E, ∀ handler ∈ engine.registry.handlers E, handler.Asks Call.SparesRows fun _ => True

variable {engine : Engine β σ} {who : Holder} {story : Story β σ}

theorem HandlerProgram.Follows.aside {program : HandlerProgram σ E} {r : Except Failure (Record E)}
    (h : program.Follows story r) {own : TxId} {defers : SessionWork σ Unit → Prop}
    (hasks : program.Asks (Call.SparesRows own) defers) :
    ∀ doing ∈ story.doings, doing.Aside own := by
  induction h with
  | done => exact List.forall_mem_nil _
  | call c next before after answer _ ih =>
    exact List.forall_mem_cons.2 ⟨⟨_, rfl, hasks.1⟩, ih (hasks.2 answer)⟩
  | defer label action _ ih => exact ih hasks.2
  | host change next state _ ih => exact ih (hasks state)

namespace Convergence

variable {id : String} {pass : Nat} {mask : FieldMask} {before proposed : Record E}
  {r : Except Failure (Record E)}

theorem Called.aside {handler : Handler σ E}
    (h : Called who handler id pass before proposed story r)
    (hasks : handler.Asks Call.SparesRows fun _ => True) :
    ∀ doing ∈ story.doings, doing.Aside who.tx := by
  cases h with
  | failed hcx hfollows => exact hfollows.aside (hcx.tx ▸ hasks _ before proposed)
  | returned hcx hfollows =>
    rw [Story.doings_append]
    refine List.forall_mem_append.2 ⟨?_, List.forall_mem_nil _⟩
    exact hfollows.aside (hcx.tx ▸ hasks _ before proposed)

theorem Dispatched.aside {handler : Handler σ E}
    (h : Dispatched who handler id pass mask before proposed story r)
    (hasks : handler.Asks Call.SparesRows fun _ => True) :
    ∀ doing ∈ story.doings, doing.Aside who.tx := by
  cases h with
  | passed => exact List.forall_mem_nil _
  | skipped => exact List.forall_mem_nil _
  | called _ hcalled =>
    rw [Story.doings]
    exact List.forall_mem_append.2 ⟨hcalled.aside hasks, List.forall_mem_nil _⟩

theorem DispatchedAll.aside {handlers : List (Handler σ E)}
    (h : DispatchedAll who id pass mask before handlers proposed story r)
    (hasks : ∀ handler ∈ handlers, handler.Asks Call.SparesRows fun _ => True) :
    ∀ doing ∈ story.doings, doing.Aside who.tx := by
  induction h with
  | nil => exact List.forall_mem_nil _
  | stopped hfirst => exact hfirst.aside (List.forall_mem_cons.1 hasks).1
  | next hfirst _ ih =>
    obtain ⟨hhandler, hrest⟩ := List.forall_mem_cons.1 hasks
    rw [Story.doings_append]
    exact List.forall_mem_append.2 ⟨hfirst.aside hhandler, ih hrest⟩

theorem Converged.aside {baseline : Record E} {forced : Bool} {left : Nat}
    {passes : List (Story β σ)}
    (h : Converged engine who id pass baseline proposed forced left passes r)
    (hengine : engine.SparesRows) :
    ∀ doing ∈ (iterations E.name id pass passes).doings, doing.Aside who.tx := by
  induction h with
  | settled => exact List.forall_mem_nil _
  | exhausted => exact List.forall_mem_nil _
  | stopped _ hpass =>
    rw [iterations, Story.doings]
    exact List.forall_mem_append.2 ⟨hpass.aside (hengine E), List.forall_mem_nil _⟩
  | passed _ hpass _ ih =>
    rw [iterations, Story.doings]
    exact List.forall_mem_append.2 ⟨hpass.aside (hengine E), ih⟩

end Convergence

/-! ## Operations -/

namespace Session

variable {store : β → Store} {mine : β → TxId → Prop} {kind : AuditAction}

theorem Admitted.quiet {record : Record E} {r : Except Failure (Record E × Record E)}
    (h : Admitted who kind record story r) : ∀ doing ∈ story.doings, doing.Quiet := by
  cases h with
  | refused => exact List.forall_mem_nil _
  | new => exact List.forall_mem_nil _
  | declined => exact List.forall_mem_singleton.2 ⟨rfl, rfl⟩
  | found => exact List.forall_mem_singleton.2 ⟨rfl, rfl⟩

theorem Wrote.quiet {id : String} {baseline proposed : Record E}
    {r : Except Failure (Option (Record E))} (h : Wrote who kind id baseline proposed story r)
    (hr : ∀ written, r ≠ .ok (some written)) : ∀ doing ∈ story.doings, doing.Quiet := by
  cases h with
  | unfit => exact List.forall_mem_nil _
  | unchanged => exact List.forall_mem_nil _
  | refused stamped before after answer failure hanswer =>
    refine List.forall_mem_singleton.2 ?_
    cases answer with
    | ok a => cases hanswer
    | error cause => cases kind <;> exact ⟨rfl, rfl⟩
  | made stamped => exact absurd rfl (hr stamped)

/-- Nothing is written of a row, told or audited before an operation has made its write, or if it
makes none. -/
theorem Headed.quiet {baseline given : Record E} {r : Except Failure (Option (Record E))}
    (h : Headed engine who kind baseline given story r) (hengine : engine.SparesRows)
    (hr : ∀ written, r ≠ .ok (some written)) : ∀ doing ∈ story.doings, doing.Quiet := by
  cases h with
  | unsettled hconverged => exact fun doing hdoing => (hconverged.aside hengine doing hdoing).quiet
  | settled hconverged hwrote =>
    rw [Story.doings_append]
    exact List.forall_mem_append.2
      ⟨fun doing hdoing => (hconverged.aside hengine doing hdoing).quiet, hwrote.quiet hr⟩

section
variable (hshares : engine.backend.Shares store mine) (hannounces : engine.Announces)
  {b b' : β} {id : String} {baseline written : Record E}
include hshares

/-- What the session saw of a row that it read, and what it sees of it after an update: unless
somebody else committed the row, what is listed is what changed. -/
theorem update_inStep (hhosts : Backend.Hosts store mine who.tx b) {read : Exchange β}
    {row : Row} {w w' : β} {aside : List (Doing β)}
    {record stored converged proposed : Record E} {now : Instant}
    (hread : engine.backend.call (.fetch who.tx (E.key id)) b = (.ok (some row), read.after))
    (hstored : Record.ofRow E row = .ok stored)
    (haside : ∀ doing ∈ aside, doing.Aside who.tx) (hdoes : engine.backend.Does aside read.after w)
    (hcall : read.call = .fetch who.tx (E.key id))
    (hcheck : checkVersion record stored id = .ok ())
    (hstamp : stampChanged converged (stored.version?.map (· + 1)) now who.actor.effective =
      .ok proposed)
    (hwrite : engine.backend.call (writeCall who.tx .update id stored proposed) w = (.ok (), w')) :
    ∃ after, Posting.InStep store who.tx
      ⟨E, some read, ⟨w, writeCall who.tx .update id stored proposed, .ok (), w'⟩,
        noticeOf .update id stored proposed, auditOf who .update id stored proposed⟩ after := by
  have hhosts₁ : Backend.Hosts store mine who.tx read.after := by
    obtain ⟨-, -, -, -, hafter⟩ := hshares.reaches hhosts (.fetch who.tx (E.key id))
    rwa [hread] at hafter
  have hseen := hshares.shows hhosts hread
  obtain ⟨old, after, hrow, hshown, hold⟩ := hshares.updates (hdoes.hosts hshares hhosts₁) hwrite
  refine ⟨after, rfl, rfl, rfl, hshown, ?_, nofun, fun _ => ⟨read, rfl, hcall⟩,
    fun _ hundisturbed (before : Record E) hbefore => ?_⟩
  · rw [versionIn_overwrite hcheck hstamp hrow]
    rfl
  · obtain ⟨hkey, hkey'⟩ := hundisturbed read rfl
    -- The row read, the row seen before the write and the row overwritten are one and the same.
    obtain rfl : before.toRow = old := hold hkey' _ hbefore
    have hsame := hdoes.visibleRow_eq hshares hhosts₁ haside hkey hseen hbefore
    rw [← Option.some.inj hsame, Record.ofRow_toRow] at hstored
    obtain rfl := Except.ok.inj hstored
    exact (changesTo_overwrite hrow).symm

theorem create_inStep (hhosts : Backend.Hosts store mine who.tx b) (earlier : Option (Exchange β))
    (hwrite : engine.backend.call (writeCall who.tx .create id (.default E) written) b =
      (.ok (), b')) :
    Posting.InStep store who.tx
      ⟨E, earlier, ⟨b, writeCall who.tx .create id (.default E) written, .ok (), b'⟩,
        noticeOf .create id (.default E) written, auditOf who .create id (.default E) written⟩
      written.toRow where
  entity := rfl
  caller := rfl
  written := rfl
  shown := hshares.inserts hhosts hwrite
  noticed := rfl
  created _ := (changesTo_toRow none written).symm
  read h := by cases h
  updated h := by cases h

/-- The write of an operation is in step with what is told of it. -/
theorem made_inStep (hengine : engine.SparesRows) {record baseline given proposed : Record E}
    {asked : Story β σ} {forced : Bool} {passes : List (Story β σ)} {b₁ before after : β}
    {answer : Except Failure (writeCall who.tx kind given.id baseline written).Answer}
    {now : Instant} (hadmitted : Admitted who kind record asked (.ok (baseline, given)))
    (hasked : engine.backend.Does asked.doings b b₁) (hhosts : Backend.Hosts store mine who.tx b)
    (hconverged : Convergence.Converged engine who given.id 0 baseline given forced
      engine.config.maxPasses.toNat passes (.ok proposed))
    (hpasses : engine.backend.Does (Convergence.iterations E.name given.id 0 passes).doings b₁
      before)
    (hstamped : stamp kind baseline proposed now who.actor.effective = .ok written)
    (hanswer : answer.isOk = true)
    (hwrite : engine.backend.call (writeCall who.tx kind given.id baseline written) before =
      (answer, after)) (earlier : Option (Exchange β)) :
    ∃ row, Posting.InStep store who.tx ⟨E, Doing.lastCall earlier asked.doings,
      ⟨before, writeCall who.tx kind given.id baseline written, answer, after⟩,
      noticeOf kind given.id baseline written, auditOf who kind given.id baseline written⟩ row := by
  cases hadmitted with
  | new =>
    cases answer with
    | error failure => cases hanswer
    | ok a =>
      have hhosts₁ := hpasses.hosts hshares (hasked.hosts hshares hhosts)
      exact ⟨_, create_inStep hshares hhosts₁ earlier hwrite⟩
  | found _ _ read found answer' hfound hversion =>
    cases answer with
    | error failure => cases hanswer
    | ok a =>
      obtain ⟨row, rfl, hrow⟩ := loadOutcome_eq_ok hfound
      obtain ⟨rfl, hread, rfl⟩ := hasked
      exact update_inStep hshares hhosts hread hrow (hconverged.aside hengine) hpasses rfl
        hversion hstamped hwrite

/-! ### What is done after the write -/

section
variable {inner : Inner β σ} (hinner : ∀ (kind : AuditAction) (E : EntityType)
  (record : Record E) (story : Story β σ) (r : Except Failure (Record E)),
    inner kind E record story r → Aligned engine.backend store mine who.tx story.doings)
include hinner

theorem Performed.aligned {program : SessionProgram σ α} {a : α}
    (h : Performed who inner program story a) :
    Aligned engine.backend store mine who.tx story.doings := by
  have hquiet {doing : Doing β} {later : List (Doing β)} (hdoing : doing.Quiet)
      (hlater : Aligned engine.backend store mine who.tx later) :
      Aligned engine.backend store mine who.tx (doing :: later) :=
    Aligned.append hshares (.of_quiet (List.forall_mem_singleton.2 hdoing)) hlater
  induction h with
  | done => exact .of_quiet (List.forall_mem_nil _)
  | create hfirst _ ih =>
    rw [Story.doings_append]
    exact (hinner _ _ _ _ _ hfirst).append hshares ih
  | save hfirst _ ih =>
    rw [Story.doings_append]
    exact (hinner _ _ _ _ _ hfirst).append hshares ih
  | fetch _ ih => exact hquiet ⟨rfl, rfl⟩ ih
  | inspect _ _ _ ih => exact ih
  | call _ ih => exact hquiet trivial ih
  | host _ _ ih => exact ih

theorem Drained.aligned {queue : List (String × SessionWork σ Unit)} {d : Except Failure Unit}
    (h : Drained who inner queue story d) :
    Aligned engine.backend store mine who.tx story.doings := by
  induction h with
  | nil => exact .of_quiet (List.forall_mem_nil _)
  | stopped hfirst =>
    rw [Story.doings]
    exact (hfirst.aligned hshares hinner).append hshares
      (.of_quiet (List.forall_mem_nil _))
  | next hfirst _ ih =>
    rw [Story.doings]
    exact (hfirst.aligned hshares hinner).append hshares ih

theorem Closed.aligned {record : Record E} {written : Option (Record E)}
    {queue : List (String × SessionWork σ Unit)} {r : Except Failure (Record E)}
    (h : Closed who inner id record written queue story r) :
    Aligned engine.backend store mine who.tx story.doings := by
  cases h with
  | idle => exact .of_quiet (List.forall_mem_nil _)
  | stopped _ hdrained => exact hdrained.aligned hshares hinner
  | read _ hdrained =>
    rw [Story.doings_append]
    exact (hdrained.aligned hshares hinner).append hshares
      (.of_quiet (List.forall_mem_singleton.2 ⟨rfl, rfl⟩))

end

/-! ### The write made public -/

include hannounces

/-- A write in a transaction that is open is announced and audited. -/
theorem Published.doings {r : Except Failure Unit}
    (h : Published who kind id baseline (some written) story r)
    (hhosts : Backend.Hosts store mine who.tx b)
    (hopen : (store b).transactions.get? who.tx ≠ none)
    (hdoes : engine.backend.Does story.doings b b') :
    ∃ before after, story.doings = [.announced (noticeOf kind id baseline written) (.ok ()),
      .called (.session E)
        ⟨before, .audit who.tx (auditOf who kind id baseline written), .ok (), after⟩] := by
  cases h with
  | unannounced _ failure =>
    obtain ⟨b₁, hannounce, -⟩ := hdoes
    have hok := hannounces (noticeOf kind id baseline written) b
    rw [hannounce] at hok
    cases hok
  | announced _ before after answer =>
    obtain ⟨b₁, hannounce, -, hcall, -⟩ := hdoes
    have hhosts₁ := hshares.hosts_announce hhosts (noticeOf kind id baseline written)
    have hstore := (hshares.announce (noticeOf kind id baseline written) b).1
    rw [hannounce] at hhosts₁ hstore
    rw [← hstore] at hopen
    have hok := hshares.audits hhosts₁ hopen (auditOf who kind id baseline written)
    rw [hcall] at hok
    obtain rfl : answer = .ok () := hok
    exact ⟨before, after, rfl⟩

/-- An operation up to where its write has become public, or has failed to. -/
theorem published_aligned (hengine : engine.SparesRows) {record baseline given : Record E}
    {written : Option (Record E)} {asked head shown : Story β σ} {r : Except Failure Unit}
    (hadmitted : Admitted who kind record asked (.ok (baseline, given)))
    (hheaded : Headed engine who kind baseline given head (.ok written))
    (hpublished : Published who kind given.id baseline written shown r) :
    Aligned engine.backend store mine who.tx (asked.doings ++ (head.doings ++ shown.doings)) := by
  cases written with
  | none =>
    have hhead := hheaded.quiet hengine fun _ h => by cases h
    cases hpublished
    exact .of_quiet (List.forall_mem_append.2 ⟨hadmitted.quiet,
      List.forall_mem_append.2 ⟨hhead, List.forall_mem_nil _⟩⟩)
  | some written =>
    cases hheaded with
    | @settled _ passes _ _ _ hconverged hwrote =>
      cases hwrote with
      | made _ now hchanged hstamped before after answer hanswer =>
        intro b b' hdoes hhosts earlier
        rw [Story.doings_append, List.append_assoc] at hdoes ⊢
        obtain ⟨b₁, hasked, hrest⟩ := Backend.does_append.1 hdoes
        obtain ⟨b₂, hpasses, hbefore, hwrite, hshown⟩ := Backend.does_append.1 hrest
        obtain rfl : before = b₂ := hbefore
        obtain ⟨row, hstep⟩ := made_inStep hshares hengine hadmitted hasked hhosts hconverged
          hpasses hstamped hanswer hwrite earlier
        -- The transaction is open after the write, so the rest goes through.
        have hhosts₃ : Backend.Hosts store mine who.tx after := by
          have hwritten : engine.backend.Does [.called (.session E) ⟨before,
              writeCall who.tx kind given.id baseline written, answer, after⟩] before after :=
            ⟨rfl, hwrite, rfl⟩
          exact hwritten.hosts hshares (hpasses.hosts hshares (hasked.hosts hshares hhosts))
        obtain ⟨t, hopen, -⟩ := Store.visibleRow_eq_ok.1 hstep.shown
        obtain ⟨before', after', hdoings⟩ := hpublished.doings hshares hannounces hhosts₃
          (by rw [hopen]; exact Option.some_ne_none t) hshown
        have haudited : Exchange.audited? (⟨before,
            writeCall who.tx kind given.id baseline written, answer, after⟩ : Exchange β) = none := by
          cases kind <;> cases answer <;> rfl
        rw [hdoings]
        exact ⟨_, Lockstep.one hadmitted.quiet (hconverged.aside hengine) rfl rfl haudited hstep⟩

theorem Operated.aligned (hengine : engine.SparesRows) {inner : Inner β σ}
    (hinner : ∀ (kind : AuditAction) (E : EntityType) (record : Record E) (story : Story β σ)
      (r : Except Failure (Record E)), inner kind E record story r →
        Aligned engine.backend store mine who.tx story.doings)
    {record : Record E} {r : Except Failure (Record E)}
    (h : Operated engine who inner kind record story r) :
    Aligned engine.backend store mine who.tx story.doings := by
  have hspan (asked inside : Story β σ) (event : TraceEvent) :
      (asked ++ .span event inside .nil).doings = asked.doings ++ inside.doings := by
    rw [Story.doings_append, Story.doings, Story.doings, List.append_nil]
  cases h with
  | refused hadmitted => exact .of_quiet hadmitted.quiet
  | unwritten hadmitted hheaded =>
    rw [hspan]
    exact .of_quiet (List.forall_mem_append.2
      ⟨hadmitted.quiet, hheaded.quiet hengine fun _ h => by cases h⟩)
  | unpublished hadmitted hheaded hpublished =>
    rw [hspan, Story.doings_append]
    exact published_aligned hshares hannounces hengine hadmitted hheaded hpublished
  | @closed asked head shown _ _ _ _ _ hadmitted hheaded hpublished hclosed =>
    rw [hspan, Story.doings_append, Story.doings_append,
      ← List.append_assoc head.doings shown.doings, ← List.append_assoc asked.doings]
    exact (published_aligned hshares hannounces hengine hadmitted hheaded hpublished).append hshares
      (hclosed.aligned hshares hinner)

theorem accountAt_aligned (hengine : engine.SparesRows) (level : Nat) (kind : AuditAction)
    (E : EntityType) (record : Record E) (story : Story β σ) (r : Except Failure (Record E))
    (h : accountAt engine who level kind E record story r) :
    Aligned engine.backend store mine who.tx story.doings := by
  induction level generalizing kind E record story r with
  | zero =>
    obtain ⟨rfl, -⟩ := h
    exact .of_quiet (List.forall_mem_nil _)
  | succ level ih => exact Operated.aligned hshares hannounces hengine ih h

end

/-- **Row writes, notices and audit records go in lockstep.** Let a session be given on a store that
others use as well, with a notifier that never fails and handlers that write no rows. Whatever is
done in the session, creates, saves, saves of many records and find-and-modify one after another, and
however each of them ends, it has a story in which the row writes that went through, the notices and
the audit records are those of one list of postings. So they are equally many and agree in the type
and the identifier, with all that deferred work did among them. A write is audited as a create just
if it is an insert, and its notice has the version of the row that the session sees after it. What is
audited of an insert is the difference to the empty record, and of an update of a record what changed
of the row in the eyes of the session, unless somebody else committed the row since it was read. -/
theorem writes_in_lockstep (engine : Engine β σ) (store : β → Store) (mine : β → TxId → Prop)
    (hshares : engine.backend.Shares store mine) (hannounces : engine.Announces)
    (hengine : engine.SparesRows) (work : SessionWork σ α) (s : Scope β σ)
    (hsound : (store s.world.backend).Sound) (hmine : mine s.world.backend s.session.tx) :
    ∃ story r s',
      SessionM.Plays engine (perform engine work) s story r s' ∧
      Performed s.session.holder (accountAt engine s.session.holder (engine.nesting + 1)) work.run
        story r ∧
      ∃ postings, Lockstep store s.session.tx none story.doings postings := by
  obtain ⟨story, r, s', hplays, hperformed⟩ := perform_accounts work s rfl
  have haligned := hperformed.aligned hshares
    (accountAt_aligned hshares hannounces hengine (engine.nesting + 1))
  exact ⟨story, r, s', hplays, hperformed,
    haligned _ _ hplays.served.does ⟨hsound, hmine⟩ none⟩

end Session

/-! ## Three writes, and one of somebody else -/

/-- The handlers that bring another customer, on a store that others use as well. -/
def sharedEngine : Engine Contested Unit :=
  { contestedEngine with registry := recommendEngine.registry, nesting := 1 }

/-- A session that has just begun. Before it makes its first call, somebody else renames the second
customer. -/
def sharedScope : Scope Contested Unit where
  world := noteOutside.on
    { store := Store.empty.run (customerCalls ++ [.begin])
      mine := [⟨2⟩]
      rivals := [[.begin, .update ⟨3⟩ (customerType.key "c-2")
        [(1, .text "Zoe"), (2, .integer 2)], .commit ⟨3⟩]] }
  session := .start ⟨2⟩ (.ofId "ann") {}

/-- A third customer is created, and then the first one renamed. -/
def sharedWork : SessionWork Unit Unit := do
  let _ ← SessionWork.create customerType (customer "c-3" "Eve")
  let _ ← SessionWork.save customerType (customer "c-1" "Eva")

theorem sharedEngine_sparesRows : sharedEngine.SparesRows := by
  have hrecommend : recommend.Asks Call.SparesRows fun _ => True := by
    intro cx before proposed
    unfold recommend
    dsimp only
    split
    · exact ⟨trivial, trivial⟩
    · trivial
  exact Registry.forall_handlers_singleton
    (P := fun _ handler => handler.Asks Call.SparesRows fun _ => True) hrecommend

/-- The fourth customer, whose creation is put off, is audited between the third and the first. -/
theorem shared_in_lockstep :
    ∃ (story : Story Contested Unit) (postings : List (Posting Contested))
      (s' : Scope Contested Unit),
      Lockstep Contested.store ⟨2⟩ none story.doings postings ∧
      story.Served sharedEngine.backend sharedScope.world.around s'.world.around ∧
      (s'.world.backend.store.transactions.get? ⟨2⟩).map (fun t =>
          (auditsIn t.changes).map fun audit => (audit.action, audit.id, audit.changes.fields)) =
        some [(.create, "c-3", ["id", "name", "version"]), (.create, "c-4", ["id", "name", "version"]),
          (.update, "c-1", ["name", "version"])] := by
  obtain ⟨story, r, s', hplays, -, postings, hlockstep⟩ :=
    Session.writes_in_lockstep sharedEngine Contested.store _ Backend.contested_shares
      (fun _ _ => rfl) sharedEngine_sparesRows sharedWork sharedScope (Store.sound_empty.run _)
      (List.mem_singleton_self _)
  refine ⟨story, postings, s', hlockstep, hplays.served, ?_⟩
  have hbackend : s'.world.backend =
      ((Session.perform sharedEngine sharedWork).run sharedScope).2.world.backend := by
    rw [hplays.run_self]
    rfl
  rw [hbackend]
  decide +kernel

end RecordEngine
