import RecordEngine.Proofs.Session.Frame
import RecordEngine.Proofs.Session.Invariant
import RecordEngine.Proofs.Store.Images
/-!
What a failed operation leaves behind.

A create or save has about ten ways to fail before its row is written, some of them after the
handlers have run for several passes. Whichever it takes, it ends with the transaction holding what
it held before, nothing committed, nothing announced and none of the work that the handlers put off
begun. After the write there is the notifier, the audit log, the work put off, and the row to be
read back as a record; if the first two do not fail, only the work put off can make the operation
fail.

`Store.Unmoved` is what the first half keeps: handlers that write nothing keep it call by call, and
so does the write itself if it is refused. `Store.Harbours` is what the second half keeps: the
transaction is open, the row is there, and every row of the type reads as a record.
-/

set_option autoImplicit false

namespace RecordEngine

variable {β σ α H : Type} {E : EntityType}

/-! ## Nothing has moved -/

namespace Store

/-- The changes that a transaction has staged, if it is open. -/
def changesOf (s : Store) (tx : TxId) : Option (List Change) :=
  (s.transactions.get? tx).map (·.changes)

/-- Nothing is committed, and a transaction is as open as it was and has staged what it had
staged. -/
structure Unmoved (s : Store) (tx : TxId) (s' : Store) : Prop where
  rows : s'.rows = s.rows
  audits : s'.audits = s.audits
  commits : s'.commits = s.commits
  staged : s'.changesOf tx = s.changesOf tx

variable {s s' s'' : Store} {tx : TxId}

theorem Unmoved.refl (s : Store) (tx : TxId) : s.Unmoved tx s where
  rows := rfl
  audits := rfl
  commits := rfl
  staged := rfl

theorem Unmoved.trans (h : s.Unmoved tx s') (h' : s'.Unmoved tx s'') : s.Unmoved tx s'' where
  rows := h'.rows.trans h.rows
  audits := h'.audits.trans h.audits
  commits := h'.commits.trans h.commits
  staged := h'.staged.trans h.staged

/-- Looking at a row stages nothing. -/
theorem unmoved_touched {other : TxId} {t : Transaction}
    (hopen : s.transactions.get? other = some t) (key : RowKey) :
    s.Unmoved tx (s.holding other (s.touched t key)) where
  rows := rfl
  audits := rfl
  commits := rfl
  staged := by
    rw [changesOf, get?_holding]
    by_cases hother : other = tx
    · subst hother
      simp [changesOf, touched, hopen]
    · rw [if_neg hother, changesOf]

/-- What is done to other transactions does not move this one. -/
theorem unmoved_without {other : TxId} (hother : other ≠ tx) : s.Unmoved tx (s.without other) where
  rows := rfl
  audits := rfl
  commits := rfl
  staged := by rw [changesOf, get?_without, if_neg hother, changesOf]

theorem Effect.unmoved (hbegun : tx.number < s.nextTx) {c : Call}
    {answer : Except Failure c.Answer} (h : Effect s c answer s') (hc : c.Looks tx) :
    s.Unmoved tx s' := by
  cases h with
  | opened =>
    have hne : (⟨s.nextTx⟩ : TxId) ≠ tx := by
      rintro rfl
      exact Nat.lt_irrefl _ hbegun
    refine ⟨rfl, rfl, rfl, ?_⟩
    change ((s.holding _ _).transactions.get? tx).map (·.changes) = _
    rw [get?_holding, if_neg hne, changesOf]
  | unknown => exact .refl s tx
  | fetched other key t hopen => exact unmoved_touched hopen key
  | rolledBack other t hopen => exact unmoved_without hc
  | inserted => exact hc.elim
  | duplicate => exact hc.elim
  | updated => exact hc.elim
  | missing => exact hc.elim
  | misfit => exact hc.elim
  | audited => exact hc.elim
  | committed => exact hc.elim
  | conflicted => exact hc.elim

/-- A write that is refused stages nothing. -/
theorem Effect.unmoved_of_refused {c : Call} {failure : Failure}
    (h : Effect s c (.error failure) s') (hc : c.isWrite = true) : s.Unmoved tx s' := by
  cases h with
  | unknown => exact .refl s tx
  | duplicate other key row old t hopen hseen => exact unmoved_touched hopen key
  | missing other key fields t hopen hseen => exact unmoved_touched hopen key
  | misfit other key fields old failure t hopen hseen hrow => exact unmoved_touched hopen key
  | conflicted => cases hc

end Store

/-- One store for rows and audit records, behind which there may be faults: a call reaches the store
or fails. What is announced is heard elsewhere, and calls are not. -/
structure Backend.Fronts (backend : Backend β) (store : β → Store) (heard : β → H) : Prop where
  call : ∀ c b,
    (backend.call c b).1 = ((store b).step c).1 ∧
        store (backend.call c b).2 = ((store b).step c).2 ∨
      (∃ failure, (backend.call c b).1 = .error failure) ∧ store (backend.call c b).2 = store b
  silent : ∀ c b, heard (backend.call c b).2 = heard b

theorem Backend.memory_fronts : Backend.memory.Fronts Memory.store Memory.channel where
  call _ _ := .inl ⟨rfl, rfl⟩
  silent _ _ := rfl

theorem Backend.Fronts.faulty {backend : Backend β} {store : β → Store} {heard : β → H}
    (h : backend.Fronts store heard) :
    backend.faulty.Fronts (fun b => store b.inner) fun b => heard b.inner where
  call c b := by
    obtain ⟨inner, faults⟩ := b
    unfold Backend.faulty
    dsimp only
    generalize Fault.strike c.stage faults = struck
    obtain ⟨_ | failure, faults⟩ := struck
    · exact h.call c inner
    · exact .inr ⟨⟨failure, rfl⟩, rfl⟩
  silent c b := by
    obtain ⟨inner, faults⟩ := b
    unfold Backend.faulty
    dsimp only
    generalize Fault.strike c.stage faults = struck
    obtain ⟨_ | failure, faults⟩ := struck
    · exact h.silent c inner
    · rfl

/-- Since some point nothing has moved in a transaction and nothing was announced. -/
structure Backend.Rests (store : β → Store) (heard : β → H) (tx : TxId) (start b : β) : Prop where
  sound : (store b).Sound
  begun : tx.number < (store b).nextTx
  unmoved : (store start).Unmoved tx (store b)
  heard : heard b = heard start

section
variable {backend : Backend β} {store : β → Store} {heard : β → H} {tx : TxId} {start b : β}

/-- A call that does not move the transaction, or does not reach the store. -/
theorem Backend.Rests.call (hfronts : backend.Fronts store heard)
    (h : Backend.Rests store heard tx start b) {c : Call}
    (hc : (backend.call c b).1 = ((store b).step c).1 →
      (store b).Unmoved tx ((store b).step c).2) :
    Backend.Rests store heard tx start (backend.call c b).2 := by
  have hheard := (hfronts.silent c b).trans h.heard
  rcases hfronts.call c b with ⟨hanswer, hstore⟩ | ⟨-, hstore⟩
  · refine ⟨?_, ?_, ?_, hheard⟩
    · rw [hstore]
      exact h.sound.step c
    · rw [hstore]
      exact Nat.lt_of_lt_of_le h.begun (Store.effect_step h.sound c).nextTx_le
    · rw [hstore]
      exact h.unmoved.trans (hc hanswer)
  · refine ⟨?_, ?_, ?_, hheard⟩
    · rw [hstore]
      exact h.sound
    · rw [hstore]
      exact h.begun
    · rw [hstore]
      exact h.unmoved

theorem Backend.Fronts.guards (hfronts : backend.Fronts store heard) (tx : TxId) (start : β) :
    backend.Guards tx (Call.Looks tx) (Backend.Rests store heard tx start) := by
  intro c b hc h
  refine ⟨h.call hfronts fun _ => (Store.effect_step h.sound c).unmoved h.begun hc, ?_⟩
  cases c with
  | begin =>
    rcases hfronts.call .begin b with ⟨hanswer, -⟩ | ⟨⟨failure, hanswer⟩, -⟩
    · rw [hanswer]
      change (⟨(store b).nextTx⟩ : TxId) ≠ tx
      rintro rfl
      exact Nat.lt_irrefl _ h.begun
    · rw [hanswer]
      trivial
  | _ => trivial

/-- A write that is refused, by the store or on the way there. -/
theorem Backend.Rests.refused (hfronts : backend.Fronts store heard)
    (h : Backend.Rests store heard tx start b) {c : Call} (hc : c.isWrite = true)
    {failure : Failure} (hanswer : (backend.call c b).1 = .error failure) :
    Backend.Rests store heard tx start (backend.call c b).2 := by
  refine h.call hfronts fun hstep => ?_
  have heffect := Store.effect_step h.sound c
  rw [← hstep, hanswer] at heffect
  exact heffect.unmoved_of_refused hc

end

/-! ## Up to the write -/

namespace SessionM

/-- What fails is followed by nothing. -/
theorem run_bind_of_error {γ : Type} {m : SessionM β σ α} {f : α → SessionM β σ γ}
    {s s' : Scope β σ} {failure : Failure} (h : m.run s = (.error failure, s')) :
    (m >>= f).run s = (.error failure, s') := by
  rw [run_bind, h]

theorem withSpan_of_error {γ : Type} {m : SessionM β σ α} {f : α → SessionM β σ γ}
    {event : TraceEvent} {s s' : Scope β σ} {failure : Failure}
    (h : (withSpan event m).run s = (.error failure, s')) :
    (withSpan event (m >>= f)).run s = (.error failure, s') := by
  -- The span is left by the operation that failed as it would be by the whole.
  change (let out := m.run { s with world.trace := (s.world.trace.enter event).2 };
    (out.1, { out.2 with
      world.trace := out.2.world.trace.exit (s.world.trace.enter event).1 })) = _ at h
  change (let out := (m >>= f).run { s with world.trace := (s.world.trace.enter event).2 };
    (out.1, { out.2 with
      world.trace := out.2.world.trace.exit (s.world.trace.enter event).1 })) = _
  rw [run_bind]
  generalize m.run { s with world.trace := (s.world.trace.enter event).2 } = out at h ⊢
  obtain ⟨_ | a, s₁⟩ := out
  · simpa using h
  · cases h

end SessionM

/-- Nothing has moved in the transaction of a session, and nothing was announced. -/
structure Scope.Unmoved (store : β → Store) (heard : β → H) (s s' : Scope β σ) : Prop where
  store : (store s.world.backend).Unmoved s.session.tx (store s'.world.backend)
  heard : heard s'.world.backend = heard s.world.backend

namespace Session

open SessionM

variable {engine : Engine β σ} {s s' : Scope β σ} {failure : Failure}

/-- A create that fails up to its write has come to its end, whatever was to be done about the work
put off. -/
theorem createWith_of_head {record : Record E}
    (h : (createHead engine record).run s = (.error failure, s'))
    (drain : DeferredWork σ → SessionM β σ Unit) :
    (createWith engine drain record).run s = (.error failure, s') := by
  rw [createWith_eq]
  rw [createHead, run_bind] at h
  rw [run_bind]
  generalize (admitNew engine record).run s = out at h ⊢
  obtain ⟨_ | admitted, s₁⟩ := out
  · obtain ⟨hfailure, rfl⟩ := Prod.mk.inj h
    rw [Except.error.inj hfailure]
  · exact withSpan_of_error h

/-- The same for a save that fails up to its write, or up to its decision not to write. -/
theorem saveWith_of_head {record : Record E}
    (h : (saveHead engine record).run s = (.error failure, s'))
    (drain : DeferredWork σ → SessionM β σ Unit) :
    (saveWith engine drain record).run s = (.error failure, s') := by
  rw [saveWith_eq_head]
  rw [saveHead, run_bind] at h
  rw [run_bind]
  generalize (admitChange engine record).run s = out at h ⊢
  obtain ⟨_ | stored, s₁⟩ := out
  · obtain ⟨hfailure, rfl⟩ := Prod.mk.inj h
    rw [Except.error.inj hfailure]
  · exact withSpan_of_error h

section
variable {store : β → Store} {heard : β → H} (hfronts : engine.backend.Fronts store heard)
include hfronts

/-- An operation that leads up to one write and gets no further. -/
theorem rests_of_reaches {tx : TxId} {start b : β} {calls : Call → Prop} {idle made : α → Prop}
    (hcalls : ∀ c, calls c → c.isWrite = true)
    (h : Reaches engine (Backend.Rests store heard tx start) calls idle made (.error failure) b) :
    Backend.Rests store heard tx start b := by
  cases h with
  | short failure b hI => exact hI
  | refused c b failure cause hc hI hanswer => exact hI.refused hfronts (hcalls c hc) hanswer

variable (hsound : (store s.world.backend).Sound)
  (hbegun : s.session.tx.number < (store s.world.backend).nextTx)
  (hlooks : ∀ handler ∈ engine.registry.handlers E,
    handler.Heeds s.session.tx (Call.Looks s.session.tx) fun _ => True)
include hsound hbegun hlooks

theorem createHead_unmoved {record : Record E}
    (h : (createHead engine record).run s = (.error failure, s')) : s.Unmoved store heard s' := by
  have hguards := hfronts.guards s.session.tx s.world.backend
  have hhead : Leaves s.session.holder
      (Backend.Rests store heard s.session.tx s.world.backend) (createHead engine record)
      fun r b => ∀ failure, r = .error failure →
        Backend.Rests store heard s.session.tx s.world.backend b := by
    refine .after (admitNew_maintains hguards record) (fun _ _ hI _ _ => hI) fun admitted _ => ?_
    refine Leaves.withSpan ?_ _
    intro s₁ hs₁ hI
    obtain ⟨hwho, hreaches⟩ := insertNew_leaves hguards hlooks admitted s₁ hs₁ hI
    refine ⟨hwho, fun failure hfailure => ?_⟩
    rw [hfailure] at hreaches
    refine rests_of_reaches hfronts ?_ hreaches
    rintro c ⟨stamped, audit, -, rfl⟩
    rfl
  obtain ⟨-, hrests⟩ := hhead s rfl ⟨hsound, hbegun, .refl _ _, rfl⟩
  rw [h] at hrests
  have hend := hrests failure rfl
  exact ⟨hend.unmoved, hend.heard⟩

theorem saveHead_unmoved {record : Record E}
    (h : (saveHead engine record).run s = (.error failure, s')) : s.Unmoved store heard s' := by
  have hguards := hfronts.guards s.session.tx s.world.backend
  have hhead : Leaves s.session.holder
      (Backend.Rests store heard s.session.tx s.world.backend) (saveHead engine record)
      fun r b => ∀ failure, r = .error failure →
        Backend.Rests store heard s.session.tx s.world.backend b := by
    refine .after (admitChange_maintains hguards (fun _ _ => trivial) record)
      (fun _ _ hI _ _ => hI) fun stored hversion => ?_
    refine Leaves.withSpan ?_ _
    intro s₁ hs₁ hI
    obtain ⟨hwho, hreaches⟩ := updateChanged_leaves hguards hlooks hversion s₁ hs₁ hI
    refine ⟨hwho, fun failure hfailure => ?_⟩
    rw [hfailure] at hreaches
    refine rests_of_reaches hfronts ?_ hreaches
    rintro c ⟨before, proposed, audit, -, rfl⟩
    rfl
  obtain ⟨-, hrests⟩ := hhead s rfl ⟨hsound, hbegun, .refl _ _, rfl⟩
  rw [h] at hrests
  have hend := hrests failure rfl
  exact ⟨hend.unmoved, hend.heard⟩

end

end Session

/-! ## After the write -/

/-- A row of the type's table reads as a record. -/
def EntityType.Fits (E : EntityType) (key : RowKey) (row : Row) : Prop :=
  key.table = E.name → ∃ record : Record E, Record.ofRow E row = .ok record

/-- A type that shares the table of another is the other. -/
def EntityType.Tabled (E F : EntityType) : Prop := F.name = E.name → F = E

/-- The audit records of transactions that are open in a sound store reach an audit log that never
fails. -/
def Engine.Logs (engine : Engine β σ) (store : β → Store) : Prop :=
  ∀ tx record b, (store b).Sound → (store b).transactions.get? tx ≠ none →
    (engine.backend.call (.audit tx record) b).1 = .ok ()

/-- A call that does not end a transaction and leaves the rows of a type such as to read as
records. -/
structure Call.Tolerates (own : TxId) (E : EntityType) (c : Call) : Prop where
  commit : c ≠ .commit own
  rollback : c ≠ .rollback own
  upholds : ∀ answer, Event.Upholds E.Fits ⟨c, answer⟩

namespace Store

variable {s s' : Store} {own : TxId}

/-- What is done to one transaction takes no row out of sight. -/
theorem in_sight_holding {other : TxId} {t t₁ t₁' : Transaction}
    (hopen : s.transactions.get? own = some t) (hother : s.transactions.get? other = some t₁)
    (h : ∀ key, s.seen t₁ key ≠ none → s.seen t₁' key ≠ none) :
    ∃ t', (s.holding other t₁').transactions.get? own = some t' ∧
      ∀ key, s.seen t key ≠ none → (s.holding other t₁').seen t' key ≠ none := by
  by_cases hsame : other = own
  · subst hsame
    obtain rfl := Option.some.inj (hopen.symm.trans hother)
    exact ⟨t₁', by rw [get?_holding, if_pos rfl], h⟩
  · exact ⟨t, by rw [get?_holding, if_neg hsame]; exact hopen, fun _ hseen => hseen⟩

/-- A staged row is in sight, and no other goes out of it. -/
theorem in_sight_wrote (t : Transaction) {change : Change} {key : RowKey} {row : Row}
    (hw : change.written? = some (key, row)) (k : RowKey) (hseen : s.seen t k ≠ none) :
    s.seen ((s.touched t key).stage change) k ≠ none := by
  rw [seen, stagedRow?_wrote t hw]
  by_cases hk : key = k
  · simp [hk]
  · rw [if_neg hk]
    exact hseen

/-- As long as it is not ended, a transaction goes on seeing the rows that it sees. -/
theorem Effect.in_sight (hbegun : own.number < s.nextTx) {c : Call}
    {answer : Except Failure c.Answer} (h : Effect s c answer s') (hcommit : c ≠ .commit own)
    (hrollback : c ≠ .rollback own) {t : Transaction}
    (hopen : s.transactions.get? own = some t) :
    ∃ t', s'.transactions.get? own = some t' ∧
      ∀ key, s.seen t key ≠ none → s'.seen t' key ≠ none := by
  have htouched (t₁ : Transaction) (k key : RowKey) (hseen : s.seen t₁ key ≠ none) :
      s.seen (s.touched t₁ k) key ≠ none := by
    rw [seen, touched, Transaction.stagedRow?_touch]
    exact hseen
  cases h with
  | opened =>
    have hne : (⟨s.nextTx⟩ : TxId) ≠ own := by
      rintro rfl
      exact Nat.lt_irrefl _ hbegun
    exact ⟨t, (get?_holding s _ _ own).trans ((if_neg hne).trans hopen), fun _ hseen => hseen⟩
  | unknown => exact ⟨t, hopen, fun _ hseen => hseen⟩
  | fetched other k t₁ hother => exact in_sight_holding hopen hother (htouched t₁ k)
  | inserted other k row t₁ hother => exact in_sight_holding hopen hother (in_sight_wrote t₁ rfl)
  | duplicate other k row old t₁ hother => exact in_sight_holding hopen hother (htouched t₁ k)
  | updated other k fields old row t₁ hother =>
    exact in_sight_holding hopen hother (in_sight_wrote t₁ rfl)
  | missing other k fields t₁ hother => exact in_sight_holding hopen hother (htouched t₁ k)
  | misfit other k fields old failure t₁ hother =>
    exact in_sight_holding hopen hother (htouched t₁ k)
  | audited other record t₁ hother =>
    refine in_sight_holding hopen hother fun key hseen => ?_
    rw [seen, Transaction.stagedRow?_stage]
    exact hseen
  | committed other t₁ hother =>
    have hne : other ≠ own := by
      rintro rfl
      exact hcommit rfl
    refine ⟨t, by rw [get?_publish, if_neg hne]; exact hopen, fun key hseen => ?_⟩
    -- Publishing may put another committed image in place of one, but takes none away.
    rw [seen] at hseen ⊢
    rw [committedRow?_publish]
    cases hstaged : t.stagedRow? key with
    | some row => simp
    | none =>
      rw [hstaged, Option.none_or] at hseen
      cases imageIn t₁.changes key <;> simp [hseen]
  | conflicted other t₁ k hother =>
    have hne : other ≠ own := by
      rintro rfl
      exact hcommit rfl
    exact ⟨t, by rw [get?_without, if_neg hne]; exact hopen, fun _ hseen => hseen⟩
  | rolledBack other t₁ hother =>
    have hne : other ≠ own := by
      rintro rfl
      exact hrollback rfl
    exact ⟨t, by rw [get?_without, if_neg hne]; exact hopen, fun _ hseen => hseen⟩

/-- The rows of a type read as records, and a transaction that was begun sees certain rows. -/
structure Harbours (s : Store) (own : TxId) (E : EntityType) (keys : RowKey → Prop) : Prop where
  sound : s.Sound
  begun : own.number < s.nextTx
  rows : s.Throughout E.Fits
  sees : ∀ key, keys key → ∃ t, s.transactions.get? own = some t ∧ s.seen t key ≠ none

variable {keys : RowKey → Prop}

theorem Harbours.step (h : s.Harbours own E keys) {c : Call} (hc : c.Tolerates own E) :
    (s.step c).2.Harbours own E keys where
  sound := h.sound.step c
  begun := Nat.lt_of_lt_of_le h.begun (effect_step h.sound c).nextTx_le
  rows := h.rows.effect h.sound (effect_step h.sound c) (hc.upholds _)
  sees key hkey := by
    obtain ⟨t, hopen, hseen⟩ := h.sees key hkey
    obtain ⟨t', hopen', hsight⟩ :=
      (effect_step h.sound c).in_sight h.begun hc.commit hc.rollback hopen
    exact ⟨t', hopen', hsight key hseen⟩

/-- What the transaction sees under a key it sees is a row of a record. -/
theorem Harbours.reads (h : s.Harbours own E keys) {id : String} (hkey : keys (E.key id)) :
    ∃ t row record, s.transactions.get? own = some t ∧ s.seen t (E.key id) = some row ∧
      Record.ofRow E row = .ok record := by
  obtain ⟨t, hopen, hseen⟩ := h.sees _ hkey
  obtain ⟨row, hrow⟩ := Option.ne_none_iff_exists'.1 hseen
  obtain ⟨record, hrecord⟩ := h.rows.seen hopen hrow rfl
  exact ⟨t, row, record, hopen, hrow, hrecord⟩

end Store

namespace Store

variable {s : Store} {own : TxId} {keys : RowKey → Prop}

/-- A row that was inserted is in sight. -/
theorem Harbours.inserted (h : s.Harbours own E keys) {key : RowKey} {row : Row}
    (hc : (Call.insert own key row).Tolerates own E)
    (hok : (s.step (.insert own key row)).1 = .ok ()) :
    (s.step (.insert own key row)).2.Harbours own E (· = key) := by
  refine { h.step hc with sees := ?_ }
  have heffect := effect_step h.sound (.insert own key row)
  rw [hok] at heffect
  generalize (s.step (.insert own key row)).2 = s' at heffect ⊢
  rintro _ rfl
  cases heffect with
  | inserted _ _ _ t hopen hseen =>
    refine ⟨_, by rw [get?_holding, if_pos rfl], ?_⟩
    change s.seen _ _ ≠ none
    rw [seen, stagedRow?_wrote t rfl, if_pos rfl]
    simp

/-- A row that a fetch found is in sight. -/
theorem Harbours.fetched (h : s.Harbours own E keys) {key : RowKey} {row : Row}
    (hc : (Call.fetch own key).Tolerates own E)
    (hok : (s.step (.fetch own key)).1 = .ok (some row)) :
    (s.step (.fetch own key)).2.Harbours own E (· = key) := by
  refine { h.step hc with sees := ?_ }
  have heffect := effect_step h.sound (.fetch own key)
  generalize hanswer : (s.step (.fetch own key)).1 = answer at heffect
  obtain rfl := hok.symm.trans hanswer
  generalize (s.step (.fetch own key)).2 = s' at heffect ⊢
  rintro _ rfl
  generalize hfound : Except.ok (some row) = found at heffect
  cases heffect with
  | unknown => cases hfound
  | fetched _ _ t hopen =>
    refine ⟨_, by rw [get?_holding, if_pos rfl], ?_⟩
    change s.seen _ _ ≠ none
    rw [seen, touched, Transaction.stagedRow?_touch]
    change s.seen t _ ≠ none
    rw [← Except.ok.inj hfound]
    simp

end Store

/-- What create, save and fetch ask for is tolerated. -/
theorem Holder.grants_tolerated (who : Holder) (E : EntityType) :
    who.Grants E.Tabled fun e => e.call.Tolerates who.tx E where
  fetch F id answer := ⟨nofun, nofun, fun _ => trivial⟩
  insert F hF record answer := by
    refine ⟨nofun, nofun, fun answer => ?_⟩
    cases answer with
    | error failure => trivial
    | ok _ =>
      intro htable
      obtain rfl := hF htable
      exact ⟨record, Record.ofRow_toRow record⟩
  update F hF id stored proposed answer := by
    refine ⟨nofun, nofun, fun answer => ?_⟩
    cases answer with
    | error failure => trivial
    | ok _ =>
      intro old row hold hrow htable
      obtain rfl := hF htable
      exact Record.ofRow_overwrite (hold htable) hrow
  audit record answer := ⟨nofun, nofun, fun _ => trivial⟩

namespace Backend.KeepsRows

variable {backend : Backend β} {store : β → Store} {own : TxId} {keys : RowKey → Prop}

/-- In a backend whose rows are kept in a store, tolerated calls keep what it harbours. -/
theorem guards_harbours (h : backend.KeepsRows store) :
    backend.Guards own (Call.Tolerates own E) fun b => (store b).Harbours own E keys := by
  intro c b hc hI
  constructor
  · rcases h.store_call c b with hsame | hstep
    · rw [hsame]
      exact hI
    · rw [hstep]
      exact hI.step hc
  · cases c with
    | begin =>
      rw [(h.call .begin b fun _ _ hc => by cases hc).1]
      change (⟨(store b).nextTx⟩ : TxId) ≠ own
      rintro rfl
      exact Nat.lt_irrefl _ hI.begun
    | _ => trivial

theorem overhears_harbours (h : backend.KeepsRows store) :
    backend.Overhears fun b => (store b).Harbours own E keys := by
  intro notice b hI
  rw [h.announce notice b]
  exact hI

end Backend.KeepsRows

/-- A scope inside a span that was just entered. -/
def Scope.within (s : Scope β σ) (event : TraceEvent) : Scope β σ :=
  { s with world.trace := (s.world.trace.enter event).2 }

namespace SessionM

theorem run_bind_of_ok {γ : Type} {m : SessionM β σ α} {f : α → SessionM β σ γ} {s s' : Scope β σ}
    {a : α} (h : m.run s = (.ok a, s')) : (m >>= f).run s = (f a).run s' := by
  rw [run_bind, h]

/-- What goes well begins with what goes well. -/
theorem of_run_bind_ok {γ : Type} {m : SessionM β σ α} {f : α → SessionM β σ γ} {s s' : Scope β σ}
    {c : γ} (h : (m >>= f).run s = (.ok c, s')) :
    ∃ a s₁, m.run s = (.ok a, s₁) ∧ (f a).run s₁ = (.ok c, s') := by
  rw [run_bind] at h
  generalize m.run s = out at h
  obtain ⟨_ | a, s₁⟩ := out
  · cases h
  · exact ⟨a, s₁, rfl, h⟩

theorem error_of_isOk {m : SessionM β σ α} {s : Scope β σ} (h : (m.run s).1.isOk = false) :
    ∃ failure s', m.run s = (.error failure, s') := by
  generalize m.run s = out at h
  obtain ⟨failure | a, s'⟩ := out
  · exact ⟨failure, s', rfl⟩
  · cases h

theorem ok_of_isOk {m : SessionM β σ α} {s : Scope β σ} (h : (m.run s).1.isOk = true) :
    ∃ a s', m.run s = (.ok a, s') := by
  generalize m.run s = out at h
  obtain ⟨failure | a, s'⟩ := out
  · cases h
  · exact ⟨a, s', rfl⟩

/-- A span adds nothing to the result. -/
theorem withSpan_result (event : TraceEvent) (m : SessionM β σ α) (s : Scope β σ) :
    ((withSpan event m).run s).1 = (m.run (s.within event)).1 := rfl

/-- Whether an operation goes well is decided by a piece of work in some scope: if the work fails,
the operation fails with it, and if the work goes well, so does the operation. -/
def Decides (work : SessionM β σ Unit) (s : Scope β σ) (result : Except Failure α) : Prop :=
  (∀ failure, (work.run s).1 = .error failure → result = .error failure) ∧
    ((work.run s).1 = .ok () → ∃ a, result = .ok a)

end SessionM

namespace Session

open SessionM

variable {engine : Engine β σ} {store : β → Store} {s s₁ : Scope β σ} {keys : RowKey → Prop}
  {id : String}

section
variable (hkeeps : engine.backend.KeepsRows store)
include hkeeps

/-- A row that is in sight can be loaded. -/
theorem load_ok (h : (store s.world.backend).Harbours s.session.tx E keys)
    (hkey : keys (E.key id)) : ∃ record, ((load engine E id).run s).1 = .ok record := by
  obtain ⟨t, row, record, hopen, hseen, hrecord⟩ := h.reads hkey
  have hanswer : (engine.backend.call (.fetch s.session.tx (E.key id)) s.world.backend).1 =
      .ok (some row) := by
    rw [(hkeeps.call _ _ fun _ _ hc => by cases hc).1]
    change ((store s.world.backend).visibleRow s.session.tx (E.key id)).1 = _
    rw [Store.visibleRow_of_open hopen, hseen]
  have hcall := call_run engine .fetch (.fetch s.session.tx (E.key id)) s
  rw [hanswer] at hcall
  have hfetch : (fetch engine E id).run s = (SessionM.ofExcept
      ((Record.ofRow E row).map some)).run { s with world.backend :=
        (engine.backend.call (.fetch s.session.tx (E.key id)) s.world.backend).2 } :=
    run_bind_of_ok hcall
  rw [hrecord] at hfetch
  exact ⟨record, congrArg Prod.fst (run_bind_of_ok hfetch)⟩

/-- After the work put off there is only the row to be read back. -/
theorem drain_decides {work : SessionM β σ Unit} {who : Holder} (hs : s.session.holder = who)
    (h : (store s.world.backend).Harbours who.tx E keys) (hkey : keys (E.key id))
    (hwork : Maintains who (fun b => (store b).Harbours who.tx E keys) work fun _ => True) :
    Decides work s ((work >>= fun _ => load engine E id).run s).1 := by
  obtain ⟨hwho, hend, -⟩ := hwork s hs h
  unfold Decides
  rw [run_bind]
  generalize work.run s = out at hwho hend
  obtain ⟨_ | done, s'⟩ := out
  · exact ⟨fun failure hfailure => congrArg Except.error (Except.error.inj hfailure),
      fun hdone => by cases hdone⟩
  · refine ⟨fun failure hfailure => (by cases hfailure), fun _ => ?_⟩
    rw [← congrArg Holder.tx hwho] at hend
    exact load_ok hkeeps hend hkey

variable (hannounces : engine.Announces) (hlogs : engine.Logs store)
include hannounces hlogs

/-- In an open transaction a write is announced and audited. -/
theorem announced_ok (hsound : (store s.world.backend).Sound) {t : Transaction}
    (hopen : (store s.world.backend).transactions.get? s.session.tx = some t) (notice : Notice)
    (action : AuditAction) (changes : ChangeSet) :
    ((do
      SessionM.announce engine notice
      recordAudit engine action E id changes : SessionM β σ Unit).run s).1 = .ok () := by
  have hheard : (SessionM.announce engine notice).run s = (.ok (), { s with world.backend :=
      (engine.backend.announce notice s.world.backend).2 }) := by
    change (Except.mapError _ (engine.backend.announce notice s.world.backend).1, _) = _
    rw [hannounces]
    rfl
  rw [run_bind_of_ok hheard]
  change Except.mapError _ (engine.backend.call (.audit _ _) _).1 = _
  rw [hlogs]
  · rfl
  · change (store (engine.backend.announce notice s.world.backend).2).Sound
    rw [hkeeps.announce]
    exact hsound
  · change (store (engine.backend.announce notice s.world.backend).2).transactions.get? _ ≠ none
    rw [hkeeps.announce, hopen]
    exact Option.some_ne_none t

theorem announceNew_ok (hsound : (store s.world.backend).Sound) {t : Transaction}
    (hopen : (store s.world.backend).transactions.get? s.session.tx = some t)
    (written : Record E) : ((announceNew engine id written).run s).1 = .ok () :=
  announced_ok hkeeps hannounces hlogs hsound hopen _ _ _

theorem announceChange_ok (hsound : (store s.world.backend).Sound) {t : Transaction}
    (hopen : (store s.world.backend).transactions.get? s.session.tx = some t)
    (stored : Record E) (written : Option (Record E)) :
    ((announceChange engine id stored written).run s).1 = .ok () := by
  cases written with
  | none => rfl
  | some written => exact announced_ok hkeeps hannounces hlogs hsound hopen _ _ _

/-! ### Create and save -/

variable {who : Holder} {defers : SessionWork σ Unit → Prop}

/-- A create that has written goes well just if the work put off does. -/
theorem createWith_decided (hs : s.session.holder = who)
    (hheeds : ∀ handler ∈ engine.registry.handlers E,
      handler.Heeds who.tx (Call.Tolerates who.tx E) defers)
    (hI : (store s.world.backend).Harbours who.tx E fun _ => False) {record : Record E}
    {written : Record E × DeferredWork σ}
    (h : (createHead engine record).run s = (.ok written, s₁)) :
    DeferredWork.Holds defers written.2 ∧ ∃ s₂, ∀ drain : DeferredWork σ → SessionM β σ Unit,
      (∀ keys, Maintains who (fun b => (store b).Harbours who.tx E keys) (drain written.2)
        fun _ => True) →
      Decides (drain written.2) s₂ ((createWith engine drain record).run s).1 := by
  have hpermits := (who.grants_tolerated E).permits
  obtain ⟨admitted, sₐ, hadmitted, hspan⟩ := of_run_bind_ok h
  obtain ⟨hwhoₐ, hIₐ, -⟩ := admitNew_maintains hkeeps.guards_harbours record s hs hI
  rw [hadmitted] at hwhoₐ hIₐ
  let event : TraceEvent := .modelActivity E.name admitted.id .create
  -- The handlers ran and the row was inserted, so from there on it is in sight.
  obtain ⟨hwhoₒ, hreaches⟩ :=
    insertNew_leaves hkeeps.guards_harbours hheeds admitted (sₐ.within event) hwhoₐ hIₐ
  have hresult : ((insertNew engine admitted).run (sₐ.within event)).1 = .ok written :=
    congrArg Prod.fst hspan
  generalize hinsert : (insertNew engine admitted).run (sₐ.within event) = out
    at hwhoₒ hreaches hresult
  obtain ⟨_, sₒ⟩ := out
  obtain rfl := hresult
  obtain ⟨hqueue, hIₒ⟩ : DeferredWork.Holds defers written.2 ∧
      (store sₒ.world.backend).Harbours who.tx E (· = E.key admitted.id) := by
    dsimp only at hreaches
    generalize sₒ.world.backend = b at hreaches ⊢
    cases hreaches with
    | made c b answer a hc hIb hanswer hmade =>
      obtain ⟨stamped, audit, hcreation, rfl⟩ := hc
      refine ⟨hmade, ?_⟩
      obtain ⟨hstep, hstore⟩ := hkeeps.call (.insert who.tx (E.key admitted.id) stamped.toRow) b
        fun _ _ hc => by cases hc
      rw [hstore]
      exact hIb.inserted (hpermits.insert E (fun _ => rfl) _ stamped audit hcreation)
        (hstep.symm.trans hanswer)
    | idle a b hIb hidle => exact hidle.elim
  obtain ⟨t, -, -, hopen, -, -⟩ := hIₒ.reads rfl
  rw [← hwhoₒ] at hopen
  have hannounced : ((announceNew engine admitted.id written.1).run sₒ).1 = .ok () :=
    announceNew_ok hkeeps hannounces hlogs hIₒ.sound hopen written.1
  obtain ⟨hwho₂, hI₂, -⟩ := announceNew_maintains hkeeps.guards_harbours hpermits
    hkeeps.overhears_harbours admitted.id written.1 sₒ hwhoₒ hIₒ
  generalize hrest : (announceNew engine admitted.id written.1).run sₒ = rest
    at hannounced hwho₂ hI₂
  obtain ⟨_, s₂⟩ := rest
  obtain rfl := hannounced
  refine ⟨hqueue, s₂, fun drain hdrain => ?_⟩
  rw [createWith_eq, run_bind_of_ok hadmitted, withSpan_result, run_bind_of_ok hinsert,
    run_bind_of_ok hrest]
  exact drain_decides hkeeps hwho₂ hI₂ rfl (hdrain _)

omit hkeeps hannounces hlogs in
/-- What a save admits has an identifier, and was loaded under it. -/
theorem load_of_admitChange {record stored : Record E}
    (h : (admitChange engine record).run s = (.ok stored, s₁)) :
    record.id ≠ "" ∧ (load engine E record.id).run s = (.ok stored, s₁) := by
  unfold admitChange at h
  obtain ⟨_, s', hcheck, h⟩ := of_run_bind_ok h
  obtain rfl := (Prod.mk.inj hcheck).2
  by_cases hid : record.id.isEmpty
  · simp only [hid, if_true] at h
    obtain ⟨_, _, hthrow, -⟩ := of_run_bind_ok h
    cases hthrow
  simp only [hid, if_false, Bool.false_eq_true] at h
  obtain ⟨loaded, s', hload, h⟩ := of_run_bind_ok h
  obtain ⟨_, s'', hversion, h⟩ := of_run_bind_ok h
  obtain rfl := (Prod.mk.inj hversion).2
  obtain ⟨hloaded, rfl⟩ := Prod.mk.inj h
  refine ⟨by simpa using hid, ?_⟩
  rw [hload, Except.ok.inj hloaded]

/-- A save that has written, or found nothing to write, goes well just if the work put off does. -/
theorem saveWith_decided (hs : s.session.holder = who)
    (hheeds : ∀ handler ∈ engine.registry.handlers E,
      handler.Heeds who.tx (Call.Tolerates who.tx E) defers)
    (hI : (store s.world.backend).Harbours who.tx E fun _ => False) {record : Record E}
    {written : Option (Record E) × DeferredWork σ}
    (h : (saveHead engine record).run s = (.ok written, s₁)) :
    DeferredWork.Holds defers written.2 ∧ ∃ s₂, ∀ drain : DeferredWork σ → SessionM β σ Unit,
      (∀ keys, Maintains who (fun b => (store b).Harbours who.tx E keys) (drain written.2)
        fun _ => True) →
      (written.2.isEmpty = true → ((drain written.2).run s₂).1 = .ok ()) →
      Decides (drain written.2) s₂ ((saveWith engine drain record).run s).1 := by
  have hpermits := (who.grants_tolerated E).permits
  obtain ⟨stored, sₐ, hadmitted, hspan⟩ := of_run_bind_ok h
  have hversion : checkVersion record stored record.id = .ok () := by
    obtain ⟨-, -, hversion⟩ :=
      admitChange_maintains hkeeps.guards_harbours hpermits.fetch record s hs hI
    exact hversion stored (congrArg Prod.fst hadmitted)
  -- The row was loaded, so from there on it is in sight.
  obtain ⟨hwhoₐ, hIₐ⟩ : sₐ.session.holder = who ∧
      (store sₐ.world.backend).Harbours who.tx E (· = E.key record.id) := by
    obtain ⟨result, hload, hread⟩ := load_run engine E record.id s
    rw [(load_of_admitChange hadmitted).2] at hload
    obtain ⟨rfl, rfl⟩ := Prod.mk.inj hload
    obtain ⟨row, hanswer, -⟩ := hread stored rfl
    obtain ⟨hstep, hstore⟩ := hkeeps.call (.fetch s.session.tx (E.key record.id)) s.world.backend
      fun _ _ hc => by cases hc
    refine ⟨hs, ?_⟩
    dsimp only
    rw [hstore]
    subst hs
    exact hI.fetched (hpermits.fetch E record.id) (hstep.symm.trans hanswer)
  let event : TraceEvent := .modelActivity E.name record.id .update
  obtain ⟨hwhoₒ, hreaches⟩ :=
    updateChanged_leaves hkeeps.guards_harbours hheeds hversion (sₐ.within event) hwhoₐ hIₐ
  have hresult : ((updateChanged engine record stored).run (sₐ.within event)).1 = .ok written :=
    congrArg Prod.fst hspan
  generalize hupdate : (updateChanged engine record stored).run (sₐ.within event) = out
    at hwhoₒ hreaches hresult
  obtain ⟨_, sₒ⟩ := out
  obtain rfl := hresult
  have hqueue : DeferredWork.Holds defers written.2 := hreaches.result.elim And.right And.right
  have hIₒ : (store sₒ.world.backend).Harbours who.tx E (· = E.key record.id) := by
    refine hreaches.maintained hkeeps.guards_harbours ?_
    rintro c ⟨before, proposed, audit, hrevision, rfl⟩
    exact hpermits.update E (fun _ => rfl) record.id before proposed audit hrevision
  obtain ⟨t, -, -, hopen, -, -⟩ := hIₒ.reads rfl
  rw [← hwhoₒ] at hopen
  have hannounced : ((announceChange engine record.id stored written.1).run sₒ).1 = .ok () :=
    announceChange_ok hkeeps hannounces hlogs hIₒ.sound hopen stored written.1
  obtain ⟨hwho₂, hI₂, -⟩ := announceChange_maintains hkeeps.guards_harbours hpermits
    hkeeps.overhears_harbours record.id stored written.1 sₒ hwhoₒ hIₒ
  generalize hrest : (announceChange engine record.id stored written.1).run sₒ = rest
    at hannounced hwho₂ hI₂
  obtain ⟨_, s₂⟩ := rest
  obtain rfl := hannounced
  refine ⟨hqueue, s₂, fun drain hdrain hidle => ?_⟩
  rw [saveWith_eq_head, run_bind_of_ok hadmitted, withSpan_result, run_bind_of_ok hupdate,
    run_bind_of_ok hrest, closeSave]
  by_cases hnothing : (written.1.isNone && written.2.isEmpty) = true
  · -- Nothing was written and nothing was put off.
    rw [if_pos hnothing]
    rw [Bool.and_eq_true] at hnothing
    refine ⟨fun failure hfailure => ?_, fun _ => ⟨record, rfl⟩⟩
    rw [hidle hnothing.2] at hfailure
    cases hfailure
  · rw [if_neg hnothing]
    exact drain_decides hkeeps hwho₂ hI₂ rfl (hdrain _)

end

/-- **What a failed operation leaves behind.** Let a session be given whose transaction was begun.

If the handlers write nothing, then a create that fails up to and including its write, and a save
that fails up to its write or to the decision that there is nothing to write, leaves the
transaction with the changes it had staged, nothing committed and nothing announced; and that is
the end of the operation, whatever was to be done about the work that the handlers put off.

If announcements and audit records are always taken, the rows of the type read as records, and
neither handlers nor the work they put off end the transaction or spoil a row, then from there on,
at whatever depth, the operation goes well just if the work put off does. -/
theorem failing_before_and_after_write (engine : Engine β σ) (store : β → Store) (heard : β → H)
    (s : Scope β σ) (hsound : (store s.world.backend).Sound)
    (hbegun : s.session.tx.number < (store s.world.backend).nextTx) :
    (engine.backend.Fronts store heard →
      (∀ handler ∈ engine.registry.handlers E,
        handler.Heeds s.session.tx (Call.Looks s.session.tx) fun _ => True) →
      ∀ (record : Record E) (failure : Failure) (s' : Scope β σ),
        ((createHead engine record).run s = (.error failure, s') →
          s.Unmoved store heard s' ∧
            ∀ drain, (createWith engine drain record).run s = (.error failure, s')) ∧
        ((saveHead engine record).run s = (.error failure, s') →
          s.Unmoved store heard s' ∧
            ∀ drain, (saveWith engine drain record).run s = (.error failure, s'))) ∧
    (engine.backend.KeepsRows store → engine.Announces → engine.Logs store →
      (store s.world.backend).Throughout E.Fits →
      engine.Heeds s.session.tx (Call.Tolerates s.session.tx E) E.Tabled →
      ∀ record : Record E,
        (∀ written s₁, (createHead engine record).run s = (.ok written, s₁) → ∃ s₂, ∀ level,
          Decides (drain engine (operationsAt engine level) written.2) s₂
            (((operationsAt engine (level + 1)).create E record).run s).1) ∧
        (∀ written s₁, (saveHead engine record).run s = (.ok written, s₁) → ∃ s₂, ∀ level,
          Decides (drain engine (operationsAt engine level) written.2) s₂
            (((operationsAt engine (level + 1)).save E record).run s).1)) := by
  refine ⟨fun hfronts hlooks record failure s' => ⟨fun h => ?_, fun h => ?_⟩,
    fun hkeeps hannounces hlogs hrows hheeds record => ?_⟩
  · exact ⟨createHead_unmoved hfronts hsound hbegun hlooks h, createWith_of_head h⟩
  · exact ⟨saveHead_unmoved hfronts hsound hbegun hlooks h, saveWith_of_head h⟩
  have hstart : (store s.world.backend).Harbours s.session.tx E fun _ => False :=
    ⟨hsound, hbegun, hrows, fun _ hfalse => hfalse.elim⟩
  -- The work put off maintains what the store harbours, at every level.
  have hdrain {queue : DeferredWork σ} (hqueue : DeferredWork.Holds (fun work =>
        work.run.Heeds s.session.tx (Call.Tolerates s.session.tx E) E.Tabled) queue)
      (level : Nat) (keys : RowKey → Prop) : Maintains s.session.holder
        (fun b => (store b).Harbours s.session.tx E keys)
        (drain engine (operationsAt engine level) queue) fun _ => True :=
    drainAll_maintains hkeeps.guards_harbours (s.session.holder.grants_tolerated E).permits
      (operationsAt_maintains hkeeps.guards_harbours (s.session.holder.grants_tolerated E).permits
        hkeeps.overhears_harbours hheeds level) hqueue
  constructor
  · intro written s₁ h
    obtain ⟨hqueue, s₂, hdecided⟩ :=
      createWith_decided hkeeps hannounces hlogs rfl (hheeds E) hstart h
    exact ⟨s₂, fun level => hdecided _ (hdrain hqueue level)⟩
  · intro written s₁ h
    obtain ⟨hqueue, s₂, hdecided⟩ :=
      saveWith_decided hkeeps hannounces hlogs rfl (hheeds E) hstart h
    refine ⟨s₂, fun level => hdecided _ (hdrain hqueue level) fun hempty => ?_⟩
    have hnone : written.2.actions = [] := List.isEmpty_iff.1 hempty
    rw [drain, hnone]
    rfl

end Session

/-! ## A third customer -/

def customer (id name : String) : Record customerType :=
  ⟨[.text id, .text name, .integer 1], ⟨rfl, rfl, rfl, trivial⟩⟩

theorem customerScope_fits :
    (Memory.store customerScope.world.backend).Throughout customerType.Fits := by
  refine (Store.throughout_empty _).run Store.sound_empty _ ?_
  have hinsert (id name : String) : Event.Upholds customerType.Fits
      ⟨.insert ⟨1⟩ (customerType.key id) [.text id, .text name, .integer 1], .ok ()⟩ :=
    fun _ => ⟨customer id name, rfl⟩
  exact List.forall_mem_cons.2 ⟨trivial, List.forall_mem_cons.2 ⟨hinsert "c-1" "Ann",
    List.forall_mem_cons.2 ⟨hinsert "c-2" "Bob", List.forall_mem_cons.2 ⟨trivial,
      List.forall_mem_cons.2 ⟨trivial, List.forall_mem_nil _⟩⟩⟩⟩⟩

/-- A handler that looks at the second customer, and once more when the write is done. -/
def welcome : Handler Unit customerType where
  name := "welcome"
  trigger := none
  function cx _ proposed :=
    .call (.fetch cx.tx (customerType.key "c-2")) fun _ =>
      .defer "look" (do let _ ← SessionWork.fetch customerType "c-2") (.done (.ok proposed))

def welcomeEngine : Engine Memory Unit :=
  { noteEngine with registry := ⟨[⟨customerType, welcome⟩]⟩ }

/-- In a registry of one handler, what holds of the handler holds of all that are found. -/
theorem Registry.forall_handlers_singleton {handler : Handler σ E}
    {P : (F : EntityType) → Handler σ F → Prop} (h : P E handler) (F : EntityType) :
    ∀ found ∈ (Registry.mk [⟨E, handler⟩]).handlers F, P F found := by
  intro found hfound
  obtain ⟨registration, hregistration, hfor⟩ := List.mem_filterMap.1 hfound
  obtain rfl := List.mem_singleton.1 hregistration
  unfold Registration.handlerFor? at hfor
  split at hfor
  · next htype =>
    subst htype
    rw [← Option.some.inj hfor]
    exact h
  · cases hfor

/-- Whatever is allowed, as long as looking at rows is. -/
theorem welcome_heeds {own : TxId} {may : Call → Prop} (hmay : ∀ tx key, may (.fetch tx key))
    {defers : SessionWork Unit Unit → Prop}
    (hdefers : defers (do let _ ← SessionWork.fetch customerType "c-2")) (F : EntityType) :
    ∀ handler ∈ welcomeEngine.registry.handlers F, handler.Heeds own may defers := by
  have hwelcome : welcome.Heeds own may defers := fun cx _ _ _ =>
    ⟨hmay _ _, fun _ _ => ⟨hdefers, trivial⟩⟩
  exact Registry.forall_handlers_singleton
    (P := fun _ handler => handler.Heeds own may defers) hwelcome F

theorem welcome_logs : welcomeEngine.Logs Memory.store := by
  intro tx record b hsound hopen
  obtain ⟨t, ht⟩ := Option.ne_none_iff_exists'.1 hopen
  change (b.store.audit tx record).1 = .ok ()
  have hpin : ∀ key row, (Change.appendAudit record).written? = some (key, row) →
      t.bases.get? key ≠ none := fun _ _ h => by cases h
  rw [Store.audit, Store.stage_of_open ht (hsound.transactions tx t ht) hpin]

/-- A customer that is there cannot be created again, and the attempt leaves nothing behind; a third
one is created if the work put off goes well. -/
theorem failing_of_customers :
    (∃ failure s',
      (Session.createHead welcomeEngine (customer "c-1" "Eve")).run customerScope =
        (.error failure, s') ∧ customerScope.Unmoved Memory.store Memory.channel s' ∧
      ∀ drain, (Session.createWith welcomeEngine drain (customer "c-1" "Eve")).run customerScope =
        (.error failure, s')) ∧
    ∃ written s₂, ∀ level, SessionM.Decides
      (Session.drain welcomeEngine (Session.operationsAt welcomeEngine level) written) s₂
      (((Session.operationsAt welcomeEngine (level + 1)).create customerType
        (customer "c-3" "Eve")).run customerScope).1 := by
  obtain ⟨hbefore, hafter⟩ := Session.failing_before_and_after_write (E := customerType)
    welcomeEngine Memory.store Memory.channel customerScope (Store.sound_empty.run _) (by decide)
  constructor
  · have hfails : ((Session.createHead welcomeEngine (customer "c-1" "Eve")).run
        customerScope).1.isOk = false := by decide +kernel
    obtain ⟨failure, s', hrun⟩ := SessionM.error_of_isOk hfails
    have hlooks : ∀ handler ∈ welcomeEngine.registry.handlers customerType,
        handler.Heeds customerScope.session.tx (Call.Looks customerScope.session.tx)
          fun _ => True := welcome_heeds (fun _ _ => trivial) trivial customerType
    exact ⟨failure, s', hrun, (hbefore Backend.memory_fronts hlooks _ failure s').1 hrun⟩
  · have hwrites : ((Session.createHead welcomeEngine (customer "c-3" "Eve")).run
        customerScope).1.isOk = true := by decide +kernel
    obtain ⟨written, s', hrun⟩ := SessionM.ok_of_isOk hwrites
    have hengine : welcomeEngine.Heeds customerScope.session.tx
        (Call.Tolerates customerScope.session.tx customerType) customerType.Tabled :=
      welcome_heeds (fun _ _ => ⟨nofun, nofun, fun _ => trivial⟩) fun answer => by
        cases answer <;> trivial
    obtain ⟨s₂, hdecides⟩ := (hafter Backend.memory_keepsRows (fun _ _ => rfl) welcome_logs
      customerScope_fits hengine (customer "c-3" "Eve")).1 written s' hrun
    exact ⟨written.2, s₂, hdecides⟩

end RecordEngine
