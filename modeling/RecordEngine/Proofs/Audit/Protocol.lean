import RecordEngine.Proofs.Audit.Trail
/-!
The protocol of audited writes.

A session stages nothing but rows it audits: right after a row it stages the audit record that
describes the row, and before an update it has read the row it changes. `Mode` is where a
transaction stands in this protocol and `Mode.Step` how its calls move it. The protocol speaks of
one transaction and of what it was answered, so it can be checked without the store; that
transactions which obey it keep the audit log true of the rows, however their calls are interleaved,
is the subject of the second half.
-/

set_option autoImplicit false

namespace RecordEngine

/-- Calls that change nothing for other transactions: they may be made at any time. -/
def Call.isRead : Call → Bool
  | .begin | .rollback _ | .fetch .. => true
  | _ => false

/-- Where a transaction stands between its calls. -/
inductive Mode where
  | idle
  /-- It has read a row. -/
  | loaded (E : EntityType) (id : String) (row : Row)
  /-- It has staged a row and owes the audit record. -/
  | owing (audit : AuditRecord)

namespace Mode

/-- The audit records owed. -/
def due : Mode → List AuditRecord
  | .owing audit => [audit]
  | _ => []

/-- What the calls of a transaction that writes only rows of certain types can be like. -/
inductive Step (types : EntityType → Prop) (tx : TxId) : Mode → Event → Mode → Prop where
  | read (m : Mode) (e : Event) (h : e.call.isRead = true) : Step types tx m e m
  | loaded (m : Mode) (hm : m.due = []) (F : EntityType) (id : String) (row : Row) :
      Step types tx m ⟨.fetch tx ⟨F.name, id⟩, .ok (some row)⟩ (.loaded F id row)
  | refused (m : Mode) (hm : m.due = []) (e : Event) (hwrite : e.call.isWrite = true)
      (h : e.succeeded = false) : Step types tx m e .idle
  | inserted (m : Mode) (hm : m.due = []) (F : EntityType) (hF : types F) (id : String)
      (record : Record F) (audit : AuditRecord) (h : Creation F id record audit) :
      Step types tx m ⟨.insert tx ⟨F.name, id⟩ record.toRow, .ok ()⟩ (.owing audit)
  | updated (F : EntityType) (hF : types F) (id : String) (row : Row) (stored proposed : Record F)
      (hrow : Record.ofRow F row = .ok stored) (audit : AuditRecord)
      (h : Revision F id stored proposed audit) :
      Step types tx (.loaded F id row)
        ⟨.update tx ⟨F.name, id⟩ <| (Session.writtenFields stored proposed).indices.map fun i =>
          (i, proposed.field i), .ok ()⟩
        (.owing audit)
  | audited (audit : AuditRecord) (answer : Except Failure Unit) :
      Step types tx (.owing audit) ⟨.audit tx audit, answer⟩ .idle
  | committed (m : Mode) (hm : m.due = []) (answer : Except Failure Unit) :
      Step types tx m ⟨.commit tx, answer⟩ .idle

/-- A stretch of calls that obeys the protocol. -/
inductive Steps (types : EntityType → Prop) (tx : TxId) : Mode → List Event → Mode → Prop where
  | nil (m : Mode) : Steps types tx m [] m
  | cons (m m' m'' : Mode) (e : Event) (rest : List Event) (h : Step types tx m e m')
      (hrest : Steps types tx m' rest m'') : Steps types tx m (e :: rest) m''

variable {types : EntityType → Prop} {tx : TxId} {m m' m'' : Mode} {a b : List Event}

theorem Step.single {e : Event} (h : Step types tx m e m') : Steps types tx m [e] m' :=
  .cons m m' m' e [] h (.nil m')

theorem Steps.append (ha : Steps types tx m a m') (hb : Steps types tx m' b m'') :
    Steps types tx m (a ++ b) m'' := by
  induction ha with
  | nil => exact hb
  | cons m₁ m₂ m₃ e rest h hrest ih => exact .cons m₁ m₂ m'' e _ h (ih hb)

/-- A stretch cut short obeys the protocol up to there. -/
theorem Steps.of_append (h : Steps types tx m (a ++ b) m'') : ∃ m', Steps types tx m a m' := by
  induction a generalizing m with
  | nil => exact ⟨m, .nil m⟩
  | cons e rest ih =>
    cases h with
    | cons _ m₁ _ _ _ hstep hrest =>
      obtain ⟨m', hm'⟩ := ih hrest
      exact ⟨m', .cons m m₁ m' e rest hstep hm'⟩

theorem Steps.reads (m : Mode) (h : ∀ e ∈ a, e.call.isRead = true) : Steps types tx m a m := by
  induction a with
  | nil => exact .nil m
  | cons e rest ih =>
    refine .cons m m m e rest (.read m e (h e List.mem_cons_self)) (ih fun e' he' => ?_)
    exact h e' (List.mem_cons_of_mem _ he')

end Mode

/-! ## The log and the rows -/

/-- The audit records of one row, oldest first. -/
def auditsOf (key : RowKey) (log : List AuditRecord) : List AuditRecord :=
  log.filter fun audit => audit.entity == key.table && audit.id == key.id

@[simp] theorem auditsOf_nil (key : RowKey) : auditsOf key [] = [] := rfl

@[simp] theorem auditsOf_append (key : RowKey) (a b : List AuditRecord) :
    auditsOf key (a ++ b) = auditsOf key a ++ auditsOf key b := List.filter_append a b

theorem auditsOf_singleton (key : RowKey) (audit : AuditRecord) :
    auditsOf key [audit] = if ⟨audit.entity, audit.id⟩ = key then [audit] else [] := by
  obtain ⟨table, id⟩ := key
  by_cases htable : audit.entity = table <;> by_cases hid : audit.id = id <;>
    simp [auditsOf, htable, hid]

/-- The key of the records of a type with an identifier. -/
def EntityType.key (E : EntityType) (id : String) : RowKey := ⟨E.name, id⟩

/-- What transactions that obey the protocol keep about the row of one record: the committed row and
its audit records make a trail, and so do the row as an open transaction sees it and the records it
will have left, unless the transaction is bound to be refused. -/
structure Audited (E : EntityType) (id : String) (s : Store) (modes : TxId → Mode) : Prop where
  sound : s.Sound
  committed : ∃ state : Option (Record E),
    s.committedRow? (E.key id) = state.map Record.toRow ∧
      Trail E id (auditsOf (E.key id) s.audits) state
  seen : ∀ tx t, s.transactions.get? tx = some t → s.Current t (E.key id) →
    ∃ state : Option (Record E), s.seen t (E.key id) = state.map Record.toRow ∧
      Trail E id (auditsOf (E.key id) (s.audits ++ auditsIn t.changes ++ (modes tx).due)) state
  /-- Audit records of a row are not staged without the row. -/
  staged : ∀ tx t, s.transactions.get? tx = some t →
    auditsOf (E.key id) (auditsIn t.changes ++ (modes tx).due) ≠ [] →
      t.stagedRow? (E.key id) ≠ none
  /-- A row that was read is the row seen, unless the transaction is bound to be refused. -/
  loaded : ∀ tx t row, s.transactions.get? tx = some t → modes tx = .loaded E id row →
    t.bases.get? (E.key id) ≠ none ∧
      (s.Current t (E.key id) → s.seen t (E.key id) = some row)
  fresh : ∀ tx : TxId, s.nextTx ≤ tx.number → modes tx = .idle

variable {E : EntityType} {id : String} {s s' : Store} {modes modes' : TxId → Mode}

theorem audited_empty (E : EntityType) (id : String) : Audited E id .empty fun _ => .idle where
  sound := Store.sound_empty
  committed := ⟨none, rfl, .absent⟩
  seen _ _ h := by cases h
  staged _ _ h := by cases h
  loaded _ _ _ h := by cases h
  fresh _ _ := rfl

/-- A transaction that staged nothing for a row sees the committed one. -/
theorem Store.seen_of_not_staged {t : Transaction} {key : RowKey} (h : t.stagedRow? key = none) :
    s.seen t key = s.committedRow? key := by
  rw [seen, h, Option.none_or]

theorem Audited.quiet (h : Audited E id s modes) (hs' : s'.Sound) (hq : Store.Quiet s s')
    (hmodes : ∀ tx t', s'.transactions.get? tx = some t' → (modes' tx).due = (modes tx).due ∧
      ∀ row, modes' tx = .loaded E id row → modes tx = .loaded E id row ∨
        (t'.bases.get? (E.key id) ≠ none ∧ s'.seen t' (E.key id) = some row))
    (hfresh : ∀ tx : TxId, s'.nextTx ≤ tx.number → modes' tx = .idle) :
    Audited E id s' modes' := by
  have hcommitted : s'.committedRow? = s.committedRow? := Store.committedRow?_congr hq.rows
  -- What a transaction staged and sees did not change if it was open before.
  have hstaged : ∀ tx t t', s.transactions.get? tx = some t → s'.transactions.get? tx = some t' →
      t'.changes = t.changes → t'.stagedRow? (E.key id) = t.stagedRow? (E.key id) := by
    intro tx t t' hopen hopen' hchanges
    rw [hs'.stagedRow? hopen', hchanges, ← h.sound.stagedRow? hopen]
  have hsame : ∀ tx t t', s.transactions.get? tx = some t → s'.transactions.get? tx = some t' →
      t'.changes = t.changes → s'.seen t' (E.key id) = s.seen t (E.key id) := by
    intro tx t t' hopen hopen' hchanges
    rw [Store.seen, Store.seen, hstaged tx t t' hopen hopen' hchanges, hcommitted]
  have hnew : ∀ tx : TxId, s.nextTx ≤ tx.number → ∀ t', s'.transactions.get? tx = some t' →
      (modes' tx).due = [] := by
    intro tx hnew t' hopen'
    rw [(hmodes tx t' hopen').1, h.fresh tx hnew]
    rfl
  refine ⟨hs', ?_, fun tx t' hopen' hcurrent => ?_, fun tx t' hopen' haudits => ?_,
    fun tx t' row hopen' hmode => ?_, hfresh⟩
  · rw [hcommitted, hq.audits]
    exact h.committed
  · rcases hq.transactions tx t' hopen' with ⟨hstart, rfl⟩ | ⟨t, hopen, hchanges, hcurrents, -⟩
    · rw [hnew tx hstart _ hopen', Store.seen_of_not_staged rfl, hcommitted, hq.audits]
      simpa [Transaction.start] using h.committed
    · rw [(hmodes tx t' hopen').1, hsame tx t t' hopen hopen' hchanges, hchanges, hq.audits]
      exact h.seen tx t hopen ((hcurrents _).1 ((Store.current_congr hq.rows t' _).1 hcurrent))
  · rcases hq.transactions tx t' hopen' with ⟨hstart, rfl⟩ | ⟨t, hopen, hchanges, -, -⟩
    · rw [hnew tx hstart _ hopen'] at haudits
      exact absurd rfl haudits
    · rw [hstaged tx t t' hopen hopen' hchanges]
      rw [(hmodes tx t' hopen').1, hchanges] at haudits
      exact h.staged tx t hopen haudits
  · rcases (hmodes tx t' hopen').2 row hmode with hbefore | ⟨hpin, hseen⟩
    · rcases hq.transactions tx t' hopen' with ⟨hstart, -⟩ | ⟨t, hopen, hchanges, hcurrents, hpins⟩
      · rw [h.fresh tx hstart] at hbefore
        cases hbefore
      · obtain ⟨hpin, hseen⟩ := h.loaded tx t row hopen hbefore
        refine ⟨hpins _ hpin, fun hcurrent => ?_⟩
        rw [hsame tx t t' hopen hopen' hchanges]
        exact hseen ((hcurrents _).1 ((Store.current_congr hq.rows t' _).1 hcurrent))
    · exact ⟨hpin, fun _ => hseen⟩

/-- Only one transaction changed, and it is not about to update the row. -/
theorem Audited.holding (h : Audited E id s modes) {tx : TxId} {t t' : Transaction} {m' : Mode}
    (hs' : (s.holding tx t').Sound) (hopen : s.transactions.get? tx = some t)
    (hseen : s.Current t' (E.key id) →
      ∃ state : Option (Record E), s.seen t' (E.key id) = state.map Record.toRow ∧
        Trail E id (auditsOf (E.key id) (s.audits ++ auditsIn t'.changes ++ m'.due)) state)
    (hstaged : auditsOf (E.key id) (auditsIn t'.changes ++ m'.due) ≠ [] →
      t'.stagedRow? (E.key id) ≠ none)
    (hloaded : ∀ row, m' ≠ .loaded E id row) :
    Audited E id (s.holding tx t') (Function.update modes tx m') := by
  -- Every open transaction is the one that changed, in its new mode, or is as it was in its old
  -- one.
  have hopened : ∀ other u, (s.holding tx t').transactions.get? other = some u →
      (other = tx ∧ u = t' ∧ Function.update modes tx m' other = m') ∨
        (s.transactions.get? other = some u ∧ Function.update modes tx m' other = modes other) := by
    intro other u hu
    rw [Store.get?_holding] at hu
    split at hu
    · next heq =>
      subst heq
      exact .inl ⟨rfl, (Option.some.inj hu).symm, Function.update_self ..⟩
    · next hne => exact .inr ⟨hu, Function.update_of_ne (Ne.symm hne) ..⟩
  refine ⟨hs', h.committed, fun other u hu hcurrent => ?_, fun other u hu haudits => ?_,
    fun other u row hu hmode => ?_, fun other hnew => ?_⟩
  · rcases hopened other u hu with ⟨rfl, rfl, hmode⟩ | ⟨hopen', hmode⟩
    · rw [hmode]
      exact hseen hcurrent
    · rw [hmode]
      exact h.seen other u hopen' hcurrent
  · rcases hopened other u hu with ⟨rfl, rfl, hmode⟩ | ⟨hopen', hmode⟩
    · rw [hmode] at haudits
      exact hstaged haudits
    · rw [hmode] at haudits
      exact h.staged other u hopen' haudits
  · rcases hopened other u hu with ⟨rfl, rfl, hmode'⟩ | ⟨hopen', hmode'⟩
    · rw [hmode'] at hmode
      exact absurd hmode (hloaded row)
    · rw [hmode'] at hmode
      exact h.loaded other u row hopen' hmode
  · have hlt : tx.number < s.nextTx := h.sound.fresh tx t hopen
    have hle : s.nextTx ≤ other.number := hnew
    rw [Function.update_of_ne (by rintro rfl; omega)]
    exact h.fresh other hle

/-- A transaction that owes nothing and leaves the row alone leaves no audit record of it. -/
theorem Audited.auditsOf_eq_nil (h : Audited E id s modes) {tx : TxId} {t : Transaction}
    (hopen : s.transactions.get? tx = some t) (hdue : (modes tx).due = [])
    (himage : imageIn t.changes (E.key id) = none) :
    auditsOf (E.key id) (auditsIn t.changes) = [] := by
  by_contra haudits
  refine h.staged tx t hopen ?_ ((h.sound.stagedRow? hopen (E.key id)).trans himage)
  rwa [hdue, List.append_nil]

/-- What a transaction that owes nothing publishes has its trail. -/
theorem Audited.committed_publish (h : Audited E id s modes) {tx : TxId} {t : Transaction}
    (hopen : s.transactions.get? tx = some t) (hdue : (modes tx).due = [])
    (hcurrent : ∀ key, t.stagedRow? key ≠ none → s.Current t key) :
    ∃ state : Option (Record E),
      (s.publish tx t.changes).committedRow? (E.key id) = state.map Record.toRow ∧
        Trail E id (auditsOf (E.key id) (s.publish tx t.changes).audits) state := by
  rw [Store.committedRow?_publish, Store.publish_audits]
  cases himage : imageIn t.changes (E.key id) with
  | none =>
    rw [Option.none_or, auditsOf_append, h.auditsOf_eq_nil hopen hdue himage, List.append_nil]
    exact h.committed
  | some row =>
    have hrow : t.stagedRow? (E.key id) = some row :=
      (h.sound.stagedRow? hopen (E.key id)).trans himage
    obtain ⟨state, hstate, htrail⟩ :=
      h.seen tx t hopen (hcurrent _ (by rw [hrow]; exact Option.some_ne_none row))
    rw [hdue, List.append_nil] at htrail
    rw [Store.seen, hrow, Option.some_or] at hstate
    exact ⟨state, hstate, htrail⟩

/-- Who looked at the row and still finds it current saw nothing of a commit. -/
theorem Audited.seen_publish (h : Audited E id s modes) {tx other : TxId} {t u : Transaction}
    (hopen : s.transactions.get? tx = some t) (hdue : (modes tx).due = [])
    (hu : s.transactions.get? other = some u) (hpin : u.bases.get? (E.key id) ≠ none)
    (hcurrent : (s.publish tx t.changes).Current u (E.key id)) :
    s.Current u (E.key id) ∧ auditsOf (E.key id) (auditsIn t.changes) = [] ∧
      (s.publish tx t.changes).seen u (E.key id) = s.seen u (E.key id) := by
  obtain ⟨himage, hbefore⟩ := Store.current_of_publish h.sound hu hpin hcurrent
  refine ⟨hbefore, h.auditsOf_eq_nil hopen hdue himage, ?_⟩
  rw [Store.seen, Store.seen, Store.committedRow?_publish, himage, Option.none_or]

/-- A transaction that owes nothing is published. -/
theorem Audited.publish (h : Audited E id s modes) {tx : TxId} {t : Transaction}
    (hopen : s.transactions.get? tx = some t) (hdue : (modes tx).due = [])
    (hcurrent : ∀ key, t.stagedRow? key ≠ none → s.Current t key) :
    Audited E id (s.publish tx t.changes) (Function.update modes tx .idle) := by
  have hcommitted := h.committed_publish hopen hdue hcurrent
  have hopened : ∀ other u, (s.publish tx t.changes).transactions.get? other = some u →
      s.transactions.get? other = some u ∧ Function.update modes tx .idle other = modes other := by
    intro other u hu
    rw [Store.get?_publish] at hu
    split at hu
    · cases hu
    · next hne => exact ⟨hu, Function.update_of_ne (Ne.symm hne) ..⟩
  refine ⟨h.sound.publish tx t.changes, hcommitted, fun other u hu hcurrent' => ?_,
    fun other u hu haudits => ?_, fun other u row hu hmode => ?_, fun other hnew => ?_⟩
  · obtain ⟨hu, hmode⟩ := hopened other u hu
    rw [hmode]
    by_cases hpin : u.bases.get? (E.key id) = none
    -- A transaction that never looked at the row staged nothing for it and owes nothing for it: it
    -- sees the row and the trail that were just published.
    · have hunstaged : u.stagedRow? (E.key id) = none := by
        by_contra hstaged'
        exact (h.sound.transactions other u hu).pinned _ hstaged' hpin
      have haudits : auditsOf (E.key id) (auditsIn u.changes ++ (modes other).due) = [] := by
        by_contra haudits
        exact h.staged other u hu haudits hunstaged
      rw [Store.seen_of_not_staged hunstaged, List.append_assoc, auditsOf_append, haudits,
        List.append_nil]
      exact hcommitted
    · obtain ⟨hbefore, haudits, hseen⟩ := h.seen_publish hopen hdue hu hpin hcurrent'
      obtain ⟨state, hstate, htrail⟩ := h.seen other u hu hbefore
      refine ⟨state, hseen.trans hstate, ?_⟩
      rw [Store.publish_audits]
      simpa [haudits] using htrail
  · obtain ⟨hu, hmode⟩ := hopened other u hu
    rw [hmode] at haudits
    exact h.staged other u hu haudits
  · obtain ⟨hu, hmode'⟩ := hopened other u hu
    rw [hmode'] at hmode
    obtain ⟨hpin, hrow⟩ := h.loaded other u row hu hmode
    refine ⟨hpin, fun hcurrent' => ?_⟩
    obtain ⟨hbefore, -, hseen⟩ := h.seen_publish hopen hdue hu hpin hcurrent'
    exact hseen.trans (hrow hbefore)
  · rw [Store.publish_nextTx] at hnew
    have hlt := h.sound.fresh tx t hopen
    rw [Function.update_of_ne (by rintro rfl; omega)]
    exact h.fresh other hnew

/-- A quiet step after which one transaction may stand elsewhere. -/
theorem Audited.quiet_update (h : Audited E id s modes) (hs' : s'.Sound) (hq : Store.Quiet s s')
    {tx : TxId} {m' : Mode} (hused : m' = .idle ∨ tx.number < s.nextTx)
    (hdue : ∀ t', s'.transactions.get? tx = some t' → m'.due = (modes tx).due)
    (hloaded : ∀ t' row, s'.transactions.get? tx = some t' → m' = .loaded E id row →
      t'.bases.get? (E.key id) ≠ none ∧ s'.seen t' (E.key id) = some row) :
    Audited E id s' (Function.update modes tx m') := by
  -- A mode may only forget a loaded row, or take one that the transaction sees now.
  refine h.quiet hs' hq (fun other t' hopen' => ?_) fun other hnew => ?_
  · by_cases heq : other = tx
    · subst heq
      rw [Function.update_self]
      exact ⟨hdue t' hopen', fun row hmode => .inr (hloaded t' row hopen' hmode)⟩
    · rw [Function.update_of_ne heq]
      exact ⟨rfl, fun row hmode => .inl hmode⟩
  · by_cases heq : other = tx
    · subst heq
      rw [Function.update_self]
      refine hused.resolve_right fun hlt => ?_
      have hle := hq.nextTx_le
      omega
    · rw [Function.update_of_ne heq]
      exact h.fresh other (Nat.le_trans hq.nextTx_le hnew)

/-! ### One call -/

/-- A call that is read or refused is quiet. -/
theorem Store.Effect.quiet (hs : s.Sound) {c : Call} {answer : Except Failure c.Answer}
    (h : Store.Effect s c answer s')
    (hquiet : c.isRead = true ∨ (c.isWrite = true ∧ Event.succeeded ⟨c, answer⟩ = false)) :
    Store.Quiet s s' := by
  cases h with
  | opened => exact Store.quiet_opened s
  | unknown => exact .refl s
  | fetched tx key t hopen => exact Store.quiet_touched hs hopen key
  | duplicate tx key row old t hopen => exact Store.quiet_touched hs hopen key
  | missing tx key fields t hopen => exact Store.quiet_touched hs hopen key
  | misfit tx key fields old failure t hopen => exact Store.quiet_touched hs hopen key
  | conflicted tx => exact Store.quiet_without s tx
  | rolledBack tx => exact Store.quiet_without s tx
  | inserted => simp [Call.isRead, Event.succeeded] at hquiet
  | updated => simp [Call.isRead, Event.succeeded] at hquiet
  | audited => simp [Call.isRead, Event.succeeded] at hquiet
  | committed => simp [Call.isRead, Call.isWrite] at hquiet

theorem Audited.loaded_step (h : Audited E id s modes) {tx : TxId} {F : EntityType} {id₀ : String}
    {row : Row} (hdue : (modes tx).due = [])
    (heffect : Store.Effect s (.fetch tx ⟨F.name, id₀⟩) (.ok (some row)) s') :
    Audited E id s' (Function.update modes tx (.loaded F id₀ row)) := by
  have hs' := h.sound.effect heffect
  have hq := heffect.quiet h.sound (.inl rfl)
  -- The answer is set apart so that the effect can be taken by cases.
  generalize hanswer : (Except.ok (some row) : Except Failure (Option Row)) = answer at heffect
  cases heffect with
  | unknown => cases hanswer
  | fetched _ _ t hopen =>
    have hseen : s.seen t ⟨F.name, id₀⟩ = some row := (Except.ok.inj hanswer).symm
    refine h.quiet_update hs' hq (.inr (h.sound.fresh tx t hopen)) (fun _ _ => hdue.symm)
      fun t' row' hopen' hmode => ?_
    obtain ⟨rfl, rfl, rfl⟩ := Mode.loaded.inj hmode
    rw [Store.get?_holding, if_pos rfl] at hopen'
    obtain rfl := Option.some.inj hopen'
    refine ⟨Store.pinned_touched h.sound hopen _, ?_⟩
    rw [← hseen, Store.seen, Store.touched, Transaction.stagedRow?_touch]
    rfl

theorem auditsIn_stage (t : Transaction) (change : Change) :
    auditsIn (t.stage change).changes = auditsIn t.changes ++ change.audit?.toList := by
  rw [Transaction.stage_changes, auditsIn_append]
  cases change <;> rfl

/-- A row is staged whose audit record is owed. Where it is the row in question, the record extends
the trail to the new row; the rows of other keys are not touched, nor are their trails. -/
theorem Audited.staged_step (h : Audited E id s modes) {tx : TxId} {t t' : Transaction}
    {change : Change} {key : RowKey} {row : Row} {audit : AuditRecord}
    (hs' : (s.holding tx (t'.stage change)).Sound) (hopen : s.transactions.get? tx = some t)
    (hdue : (modes tx).due = []) (hchanges : t'.changes = t.changes)
    (hstaged : ∀ k, t'.stagedRow? k = t.stagedRow? k)
    (hcurrents : ∀ k, s.Current t' k ↔ s.Current t k)
    (hw : change.written? = some (key, row)) (haudit : change.audit? = none)
    (hkey : key = ⟨audit.entity, audit.id⟩)
    (htrail : key = E.key id → s.Current t (E.key id) → ∃ record : Record E, row = record.toRow ∧
      Trail E id (auditsOf (E.key id) (s.audits ++ auditsIn t.changes) ++ [audit]) (some record)) :
    Audited E id (s.holding tx (t'.stage change)) (Function.update modes tx (.owing audit)) := by
  have himage : ∀ k, change.imageOf? k = if key = k then some row else none := by
    intro k
    rw [Change.imageOf?, hw, Option.bind_some]
  have haudits : auditsIn (t'.stage change).changes = auditsIn t.changes := by
    rw [auditsIn_stage, haudit, hchanges, Option.toList_none, List.append_nil]
  have hstaged' : ∀ k, (t'.stage change).stagedRow? k =
      (if key = k then some row else none).or (t.stagedRow? k) := by
    intro k
    rw [Transaction.stagedRow?_stage, himage, hstaged]
  refine h.holding hs' hopen (fun hcurrent => ?_) (fun hne => ?_) fun _ => by simp
  · have hbefore : s.Current t (E.key id) := (hcurrents _).1 hcurrent
    rw [Store.seen, hstaged', haudits]
    by_cases hk : key = E.key id
    · obtain ⟨record, rfl, hnext⟩ := htrail hk hbefore
      refine ⟨some record, by rw [if_pos hk]; rfl, ?_⟩
      rw [auditsOf_append, Mode.due, auditsOf_singleton, if_pos (hkey.symm.trans hk)]
      exact hnext
    · rw [if_neg hk, Option.none_or, auditsOf_append, Mode.due, auditsOf_singleton,
        if_neg (hkey ▸ hk), List.append_nil]
      obtain ⟨state, hstate, htrail⟩ := h.seen tx t hopen hbefore
      rw [hdue, List.append_nil] at htrail
      exact ⟨state, hstate, htrail⟩
  · rw [hstaged']
    by_cases hk : key = E.key id
    · rw [if_pos hk, Option.some_or]
      exact Option.some_ne_none row
    · rw [if_neg hk, Option.none_or]
      refine h.staged tx t hopen ?_
      rw [hdue, List.append_nil]
      rw [haudits, auditsOf_append, Mode.due, auditsOf_singleton, if_neg (hkey ▸ hk),
        List.append_nil] at hne
      exact hne

section
variable {types : EntityType → Prop} (hnames : ∀ F, types F → F.name = E.name → F = E)

include hnames

theorem Audited.inserted_step (h : Audited E id s modes) {tx : TxId} {F : EntityType} (hF : types F)
    {id₀ : String} {record : Record F} {audit : AuditRecord} (hdue : (modes tx).due = [])
    (hcreation : Creation F id₀ record audit)
    (heffect : Store.Effect s (.insert tx ⟨F.name, id₀⟩ record.toRow) (.ok ()) s') :
    Audited E id s' (Function.update modes tx (.owing audit)) := by
  have hs' := h.sound.effect heffect
  cases heffect with
  | inserted _ _ _ t hopen hseen =>
    have hkey : (⟨F.name, id₀⟩ : RowKey) = ⟨audit.entity, audit.id⟩ := by
      rw [hcreation.entity, hcreation.id]
    refine h.staged_step hs' hopen hdue (Transaction.touch_changes t _ _)
      (fun k => Transaction.stagedRow?_touch t _ k _)
      (fun k => Store.current_touched h.sound hopen _ k) rfl rfl hkey fun hk hcurrent => ?_
    obtain ⟨hname, rfl⟩ := RowKey.mk.inj hk
    obtain rfl := hnames F hF hname
    -- The row is not there, so nothing is recorded of it yet.
    obtain ⟨state, hstate, htrail⟩ := h.seen tx t hopen hcurrent
    rw [show F.key id₀ = ⟨F.name, id₀⟩ from rfl, hseen] at hstate
    obtain rfl := Option.map_eq_none_iff.1 hstate.symm
    rw [hdue, List.append_nil] at htrail
    refine ⟨record, rfl, ?_⟩
    rw [htrail.eq_nil, List.nil_append]
    exact .created record audit hcreation

theorem Audited.updated_step (h : Audited E id s modes) {tx : TxId} {F : EntityType} (hF : types F)
    {id₀ : String} {row : Row} {stored proposed : Record F} {audit : AuditRecord}
    (hmode : modes tx = .loaded F id₀ row) (hrow : Record.ofRow F row = .ok stored)
    (hrevision : Revision F id₀ stored proposed audit)
    (heffect : Store.Effect s
      (.update tx ⟨F.name, id₀⟩ <| (Session.writtenFields stored proposed).indices.map fun i =>
        (i, proposed.field i)) (.ok ()) s') :
    Audited E id s' (Function.update modes tx (.owing audit)) := by
  have hs' := h.sound.effect heffect
  have hdue : (modes tx).due = [] := by rw [hmode]; rfl
  cases heffect with
  | updated _ _ _ old next t hopen hseen hnext =>
    have hkey : (⟨F.name, id₀⟩ : RowKey) = ⟨audit.entity, audit.id⟩ := by
      rw [hrevision.entity, hrevision.id]
    refine h.staged_step hs' hopen hdue (Transaction.touch_changes t _ _)
      (fun k => Transaction.stagedRow?_touch t _ k _)
      (fun k => Store.current_touched h.sound hopen _ k) rfl rfl hkey fun hk hcurrent => ?_
    obtain ⟨hname, rfl⟩ := RowKey.mk.inj hk
    obtain rfl := hnames F hF hname
    -- The row that is overwritten is the one that was loaded, and it is that of a record.
    obtain ⟨state, hstate, htrail⟩ := h.seen tx t hopen hcurrent
    have hold : old = row :=
      Option.some.inj (hseen.symm.trans ((h.loaded tx t row hopen hmode).2 hcurrent))
    rw [show F.key id₀ = ⟨F.name, id₀⟩ from rfl, hseen, hold] at hstate
    obtain ⟨record, rfl, hrecord⟩ := Option.map_eq_some_iff.1 hstate.symm
    obtain rfl : record = stored := by
      rw [← hrecord, Record.ofRow_toRow] at hrow
      exact Except.ok.inj hrow
    have hindices : ∀ i ∈ (Session.writtenFields record proposed).indices, i < F.fields.length :=
      fun i hi => Session.lt_of_contains_writtenFields (FieldMask.mem_indices.1 hi)
    obtain ⟨written, hwritten, hfield⟩ :=
      Record.overwrite_toRow ⟨F.name, id₀⟩ proposed _ record hindices
    rw [hold, ← hrecord, hwritten] at hnext
    rw [hdue, List.append_nil] at htrail
    refine ⟨written, (Except.ok.inj hnext).symm, ?_⟩
    refine .revised _ record proposed written audit htrail hrevision fun i => ?_
    simp only [hfield, FieldMask.mem_indices]

omit hnames in
theorem Audited.audited_step (h : Audited E id s modes) {tx : TxId} {audit : AuditRecord}
    {answer : Except Failure Unit} (hmode : modes tx = .owing audit)
    (heffect : Store.Effect s (.audit tx audit) answer s') :
    Audited E id s' (Function.update modes tx .idle) := by
  have hs' := h.sound.effect heffect
  cases heffect with
  | unknown _ tx' htx hclosed =>
    obtain rfl := Option.some.inj htx
    refine h.quiet_update hs' (.refl s) (.inl rfl) (fun t' hopen' => ?_) fun _ _ _ hmode => by
      cases hmode
    rw [hclosed] at hopen'
    cases hopen'
  | audited _ _ t hopen =>
    -- The record owed is now among those staged.
    have hmoved : auditsIn (t.stage (.appendAudit audit)).changes ++ Mode.idle.due =
        auditsIn t.changes ++ (modes tx).due := by
      rw [auditsIn_stage, hmode]
      exact List.append_nil _
    refine h.holding hs' hopen (fun hcurrent => ?_) (fun hne => ?_) fun _ hmode => by cases hmode
    · rw [List.append_assoc, hmoved, ← List.append_assoc]
      exact h.seen tx t hopen hcurrent
    · rw [hmoved] at hne
      exact h.staged tx t hopen hne

omit hnames in
theorem Audited.committed_step (h : Audited E id s modes) {tx : TxId}
    {answer : Except Failure Unit} (hdue : (modes tx).due = [])
    (heffect : Store.Effect s (.commit tx) answer s') :
    Audited E id s' (Function.update modes tx .idle) := by
  have hs' := h.sound.effect heffect
  cases heffect with
  | unknown =>
    exact h.quiet_update hs' (.refl s) (.inl rfl) (fun _ _ => hdue.symm) fun _ _ _ hmode => by
      cases hmode
  | committed _ t hopen hcurrent => exact h.publish hopen hdue hcurrent
  | conflicted =>
    exact h.quiet_update hs' (Store.quiet_without s tx) (.inl rfl) (fun _ _ => hdue.symm)
      fun _ _ _ hmode => by cases hmode

/-- One call of a transaction that obeys the protocol. -/
theorem Audited.step (h : Audited E id s modes) {tx : TxId} {m' : Mode} {c : Call}
    {answer : Except Failure c.Answer} (hstep : Mode.Step types tx (modes tx) ⟨c, answer⟩ m')
    (heffect : Store.Effect s c answer s') :
    Audited E id s' (Function.update modes tx m') := by
  generalize hm : modes tx = m at hstep
  cases hstep with
  | read _ _ hread =>
    rw [← hm, Function.update_eq_self]
    have hq := heffect.quiet h.sound (.inl hread)
    exact h.quiet (h.sound.effect heffect) hq (fun _ _ _ => ⟨rfl, fun _ => .inl⟩) fun tx hnew =>
      h.fresh tx (Nat.le_trans hq.nextTx_le hnew)
  | loaded _ hdue F id₀ row => exact h.loaded_step (hm ▸ hdue) heffect
  | refused _ hdue _ hwrite hfailed =>
    exact h.quiet_update (h.sound.effect heffect) (heffect.quiet h.sound (.inr ⟨hwrite, hfailed⟩))
      (.inl rfl) (fun _ _ => (hm ▸ hdue).symm) fun _ _ _ hmode => by cases hmode
  | inserted _ hdue F hF id₀ record audit hcreation =>
    exact h.inserted_step hnames hF (hm ▸ hdue) hcreation heffect
  | updated F hF id₀ row stored proposed hrow audit hrevision =>
    exact h.updated_step hnames hF hm hrow hrevision heffect
  | audited audit => exact h.audited_step hm heffect
  | committed _ hdue => exact h.committed_step (hm ▸ hdue) heffect

end

/-! ### Interleaved sessions -/

/-- What one session was answered in a run of the store in which every call is marked with the
number of the session that makes it. -/
def Store.part (i : Nat) (s : Store) : List (Nat × Call) → List Event
  | [] => []
  | (j, c) :: rest =>
    if j = i then ⟨c, (s.step c).1⟩ :: (s.step c).2.part i rest else (s.step c).2.part i rest

/-- The calls of a session that opens a transaction and obeys the protocol in it. -/
inductive Obeys (types : EntityType → Prop) : List Event → Prop where
  | silent : Obeys types []
  | unopened (failure : Failure) : Obeys types [⟨.begin, .error failure⟩]
  | opened (tx : TxId) (rest : List Event) (m' : Mode) (h : Mode.Steps types tx .idle rest m') :
      Obeys types (⟨.begin, .ok tx⟩ :: rest)

/-- The first thing a session does is to open its transaction. -/
theorem Obeys.begins {types : EntityType → Prop} {e : Event} {rest : List Event}
    (h : Obeys types (e :: rest)) : e.call = .begin := by
  cases h <;> rfl

theorem Obeys.of_append {types : EntityType → Prop} {a b : List Event}
    (h : Obeys types (a ++ b)) : Obeys types a := by
  cases a with
  | nil => exact .silent
  | cons e rest =>
    generalize hsplit : e :: rest ++ b = events at h
    cases h with
    | silent => cases hsplit
    | unopened failure =>
      obtain ⟨rfl, hrest⟩ := List.cons.inj hsplit
      rw [(List.append_eq_nil_iff.1 hrest).1]
      exact .unopened failure
    | opened tx tail m' hsteps =>
      obtain ⟨rfl, rfl⟩ := List.cons.inj hsplit
      -- A prefix of steps of the protocol is steps of the protocol; only the mode they end in
      -- differs.
      obtain ⟨m'', hsteps'⟩ := hsteps.of_append
      exact .opened tx rest m'' hsteps'

/-- Every session that has opened a transaction has one of its own, and goes on to obey the protocol
in it. -/
structure Manned (types : EntityType → Prop) (s : Store) (modes : TxId → Mode)
    (owner : Nat → Option TxId) (calls : List (Nat × Call)) : Prop where
  unopened : ∀ i, owner i = none → Obeys types (s.part i calls)
  opened : ∀ i tx, owner i = some tx → tx.number < s.nextTx ∧
    ∃ m', Mode.Steps types tx (modes tx) (s.part i calls) m'
  injective : ∀ i j tx, owner i = some tx → owner j = some tx → i = j

section
variable {types : EntityType → Prop} {owner owner' : Nat → Option TxId} {i : Nat} {c : Call}
  {rest : List (Nat × Call)}

theorem Store.part_self :
    s.part i ((i, c) :: rest) = ⟨c, (s.step c).1⟩ :: (s.step c).2.part i rest :=
  if_pos rfl

theorem Store.part_of_ne {j : Nat} (h : j ≠ i) :
    s.part j ((i, c) :: rest) = (s.step c).2.part j rest :=
  if_neg (Ne.symm h)

/-- Every event of a run is an event of the session that made the call. -/
theorem Store.mem_transcript_iff {calls : List (Nat × Call)} {e : Event} :
    e ∈ s.transcript (calls.map (·.2)) ↔ ∃ i, e ∈ s.part i calls := by
  induction calls generalizing s with
  | nil => simp [transcript, part]
  | cons call rest ih =>
    obtain ⟨i, c⟩ := call
    rw [List.map_cons, transcript, List.mem_cons, ih]
    constructor
    · rintro (rfl | ⟨j, hj⟩)
      · exact ⟨i, by rw [part_self]; exact List.mem_cons_self⟩
      · refine ⟨j, ?_⟩
        by_cases hij : j = i
        · subst hij
          rw [part_self]
          exact List.mem_cons_of_mem _ hj
        · rw [part_of_ne hij]
          exact hj
    · rintro ⟨j, hj⟩
      by_cases hij : j = i
      · subst hij
        rw [part_self, List.mem_cons] at hj
        exact hj.imp_right fun hrest => ⟨j, hrest⟩
      · rw [part_of_ne hij] at hj
        exact .inr ⟨j, hj⟩

/-- The sessions that did not make the call are where they were. -/
theorem Manned.next (hm : Manned types s modes owner ((i, c) :: rest))
    (hmono : s.nextTx ≤ (s.step c).2.nextTx) (howner : ∀ j, j ≠ i → owner' j = owner j)
    (hmodes : ∀ j u, j ≠ i → owner j = some u → modes' u = modes u)
    (hunopened : owner' i = none → Obeys types ((s.step c).2.part i rest))
    (hopened : ∀ tx, owner' i = some tx → tx.number < (s.step c).2.nextTx ∧
      (∃ m', Mode.Steps types tx (modes' tx) ((s.step c).2.part i rest) m') ∧
      ∀ j, j ≠ i → owner j ≠ some tx) :
    Manned types (s.step c).2 modes' owner' rest where
  unopened j hj := by
    by_cases hji : j = i
    · subst hji
      exact hunopened hj
    · rw [← Store.part_of_ne (i := i) hji]
      exact hm.unopened j (howner j hji ▸ hj)
  opened j u hj := by
    by_cases hji : j = i
    · subst hji
      obtain ⟨hlt, hsteps, -⟩ := hopened u hj
      exact ⟨hlt, hsteps⟩
    · have hj' : owner j = some u := howner j hji ▸ hj
      obtain ⟨hlt, m', hsteps⟩ := hm.opened j u hj'
      rw [Store.part_of_ne hji] at hsteps
      rw [hmodes j u hji hj']
      exact ⟨Nat.lt_of_lt_of_le hlt hmono, m', hsteps⟩
  injective j k u hj hk := by
    by_cases hji : j = i
    · subst hji
      -- The session that made the call has taken a transaction that no other session has.
      by_contra hne
      exact (hopened u hj).2.2 k (Ne.symm hne) (howner k (Ne.symm hne) ▸ hk)
    · by_cases hki : k = i
      · subst hki
        exact absurd (howner j hji ▸ hj) ((hopened u hk).2.2 j hji)
      · exact hm.injective j k u (howner j hji ▸ hj) (howner k hki ▸ hk)

theorem Audited.run_step (hnames : ∀ F, types F → F.name = E.name → F = E)
    (h : Audited E id s modes) (hm : Manned types s modes owner ((i, c) :: rest)) :
    ∃ modes' owner', Audited E id (s.step c).2 modes' ∧
      Manned types (s.step c).2 modes' owner' rest := by
  have heffect := Store.effect_step h.sound c
  have hmono : s.nextTx ≤ (s.step c).2.nextTx := heffect.nextTx_le
  cases howner : owner i with
  | some tx =>
    obtain ⟨hlt, m', hsteps⟩ := hm.opened i tx howner
    have hother : ∀ j, j ≠ i → owner j ≠ some tx := fun j hji hj =>
      hji (hm.injective j i tx hj howner)
    rw [Store.part_self] at hsteps
    cases hsteps with
    | cons _ m₁ _ _ _ hstep hrest =>
      -- The session has a transaction: the call is the next step of the protocol in it, and the
      -- others stay where they are.
      refine ⟨_, owner, h.step hnames hstep heffect, hm.next hmono (fun _ _ => rfl)
        (fun j u hji hj => ?_) (fun hnone => ?_) fun u hu => ?_⟩
      · refine Function.update_of_ne ?_ _ _
        rintro rfl
        exact hother j hji hj
      · rw [howner] at hnone
        cases hnone
      · obtain rfl := Option.some.inj (howner.symm.trans hu)
        rw [Function.update_self]
        exact ⟨Nat.lt_of_lt_of_le hlt hmono, ⟨m', hrest⟩, hother⟩
  | none =>
    have hobeys := hm.unopened i howner
    rw [Store.part_self] at hobeys
    obtain rfl : c = .begin := hobeys.begins
    -- Opening a transaction is a read, whoever does it.
    have hread : Audited E id (s.step .begin).2 modes := by
      have hstep : Mode.Step types ⟨0⟩ (modes ⟨0⟩) ⟨.begin, (s.step .begin).1⟩ (modes ⟨0⟩) :=
        .read _ _ rfl
      have hnext := h.step hnames hstep heffect
      rwa [Function.update_eq_self] at hnext
    generalize hpart : (s.step .begin).2.part i rest = tail at hobeys
    generalize hanswer : (s.step .begin).1 = answer at hobeys
    cases hobeys with
    | unopened failure => cases hanswer
    | opened tx _ m' hsteps =>
      -- The session takes the number just given out, which no other session can have.
      obtain rfl : (⟨s.nextTx⟩ : TxId) = tx := Except.ok.inj hanswer
      refine ⟨modes, Function.update owner i (some ⟨s.nextTx⟩), hread, hm.next hmono
        (fun j hji => Function.update_of_ne hji _ _) (fun _ _ _ _ => rfl) (fun hnone => ?_)
        fun u hu => ?_⟩
      · rw [Function.update_self] at hnone
        cases hnone
      · rw [Function.update_self] at hu
        obtain rfl := Option.some.inj hu
        refine ⟨Nat.lt_succ_self s.nextTx, ⟨m', ?_⟩, fun j hji hj => ?_⟩
        · rw [h.fresh ⟨s.nextTx⟩ (Nat.le_refl _), hpart]
          exact hsteps
        · have hlt : s.nextTx < s.nextTx := (hm.opened j _ hj).1
          omega

/-- Whatever sessions that obey the protocol do, and in whatever order their calls reach the store,
the log stays true of the rows. -/
theorem Audited.run (hnames : ∀ F, types F → F.name = E.name → F = E) (calls : List (Nat × Call))
    (h : Audited E id s modes) (hm : Manned types s modes owner calls) :
    ∃ modes', Audited E id (s.run (calls.map (·.2))) modes' := by
  induction calls generalizing s modes owner with
  | nil => exact ⟨modes, h⟩
  | cons call rest ih =>
    obtain ⟨i, c⟩ := call
    obtain ⟨modes', owner', h', hm'⟩ := h.run_step hnames hm
    exact ih h' hm'

end

/-- After any run of sessions that obey the protocol the committed row of a record has come about as
its audit records say. -/
theorem trail_of_obeys {types : EntityType → Prop} (hnames : ∀ F, types F → F.name = E.name → F = E)
    (calls : List (Nat × Call)) (hobeys : ∀ i, Obeys types (Store.empty.part i calls))
    (id : String) :
    ∃ state : Option (Record E),
      (Store.empty.run (calls.map (·.2))).committedRow? (E.key id) = state.map Record.toRow ∧
        Trail E id (auditsOf (E.key id) (Store.empty.run (calls.map (·.2))).audits) state := by
  have hmanned : Manned types .empty (fun _ => .idle) (fun _ => none) calls :=
    { unopened := fun i _ => hobeys i
      opened := fun _ _ hi => by cases hi
      injective := fun _ _ _ hi => by cases hi }
  obtain ⟨modes', h⟩ := (audited_empty E id).run hnames calls hmanned
  exact h.committed

end RecordEngine
