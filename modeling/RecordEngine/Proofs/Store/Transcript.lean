import RecordEngine.Proofs.Store.Effect
/-!
Transcripts: the calls of a run together with their answers.

What the store promises about interleaved transactions is said about transcripts: which calls of a
transaction were carried out, which transactions were committed and in what order. A transcript
grows at its end, one event a call, so every notion defined here comes with the equation for one
more event.
-/

set_option autoImplicit false

namespace RecordEngine

/-- The places of a list with one more element are the places of the list and the end. -/
theorem snoc_eq_append_cons {α : Type} {l past future : List α} {last x : α} :
    l ++ [last] = past ++ x :: future ↔
      (l = past ∧ last = x ∧ future = []) ∨
        ∃ rest, future = rest ++ [last] ∧ l = past ++ x :: rest := by
  rcases List.eq_nil_or_concat future with rfl | ⟨rest, y, rfl⟩
  · constructor
    · intro h
      obtain ⟨rfl, hlast⟩ := List.append_inj' h rfl
      exact .inl ⟨rfl, (List.cons.inj hlast).1, rfl⟩
    · rintro (⟨rfl, rfl, -⟩ | ⟨rest, h, -⟩)
      · rfl
      · simp at h
  · rw [List.concat_eq_append, ← List.cons_append, ← List.append_assoc]
    constructor
    · intro h
      obtain ⟨hl, hlast⟩ := List.append_inj' h rfl
      obtain rfl := List.cons.inj hlast |>.1
      exact .inr ⟨rest, rfl, hl⟩
    · rintro (⟨-, -, h⟩ | ⟨rest', h, rfl⟩)
      · simp at h
      · obtain ⟨rfl, hlast⟩ := List.append_inj' h rfl
        rw [hlast]

/-- A call and what it was answered. -/
structure Event where
  call : Call
  answer : Except Failure call.Answer

namespace Event

/-- Whether the call was carried out. -/
def succeeded (e : Event) : Bool :=
  match e.answer with
  | .ok _ => true
  | .error _ => false

/-- The transaction that the event commits, if it does. -/
def commits? (e : Event) : Option TxId :=
  match e with
  | ⟨.commit tx, .ok _⟩ => some tx
  | _ => none

/-- The call, if it staged something in the transaction. -/
def stagedIn? (tx : TxId) (e : Event) : Option Call :=
  if e.succeeded && e.call.isWrite && e.call.tx? == some tx then some e.call else none

theorem stagedIn?_of_succeeded {e : Event} {tx : TxId} (hok : e.succeeded = true)
    (hwrite : e.call.isWrite = true) (htx : e.call.tx? = some tx) (other : TxId) :
    e.stagedIn? other = if tx = other then some e.call else none := by
  rw [stagedIn?, hok, hwrite, htx]
  by_cases h : tx = other <;> simp [h]

end Event

/-- The transactions committed in a transcript, in the order of their commits. -/
def committedIn (events : List Event) : List TxId := events.filterMap Event.commits?

/-- The calls that staged something in a transaction, in order. -/
def stagedCalls (tx : TxId) (events : List Event) : List Call :=
  events.filterMap (Event.stagedIn? tx)

theorem committedIn_append (a b : List Event) :
    committedIn (a ++ b) = committedIn a ++ committedIn b := List.filterMap_append

theorem committedIn_snoc (events : List Event) (e : Event) :
    committedIn (events ++ [e]) = committedIn events ++ e.commits?.toList := by
  simp only [committedIn, List.filterMap_append, List.filterMap_cons, List.filterMap_nil]
  cases e.commits? <;> rfl

theorem stagedCalls_snoc (tx : TxId) (events : List Event) (e : Event) :
    stagedCalls tx (events ++ [e]) = stagedCalls tx events ++ (e.stagedIn? tx).toList := by
  simp only [stagedCalls, List.filterMap_append, List.filterMap_cons, List.filterMap_nil]
  cases e.stagedIn? tx <;> rfl

theorem isWrite_of_mem_stagedCalls {tx : TxId} {events : List Event} {c : Call}
    (h : c ∈ stagedCalls tx events) : c.isWrite = true := by
  obtain ⟨e, -, he⟩ := List.mem_filterMap.1 h
  unfold Event.stagedIn? at he
  split at he
  · next hcond =>
    obtain rfl := Option.some.inj he
    simp only [Bool.and_eq_true] at hcond
    exact hcond.1.2
  · cases he

namespace Store

/-- The answers to a run of calls. -/
def transcript (s : Store) : List Call → List Event
  | [] => []
  | c :: rest => ⟨c, (s.step c).1⟩ :: (s.step c).2.transcript rest

@[simp] theorem run_nil (s : Store) : s.run [] = s := rfl

@[simp] theorem run_cons (s : Store) (c : Call) (rest : List Call) :
    s.run (c :: rest) = (s.step c).2.run rest := rfl

theorem run_append (s : Store) (a b : List Call) : s.run (a ++ b) = (s.run a).run b :=
  List.foldl_append

theorem run_snoc (s : Store) (calls : List Call) (c : Call) :
    s.run (calls ++ [c]) = ((s.run calls).step c).2 := run_append s calls [c]

theorem transcript_append (s : Store) (a b : List Call) :
    s.transcript (a ++ b) = s.transcript a ++ (s.run a).transcript b := by
  induction a generalizing s with
  | nil => rfl
  | cons c rest ih => simp only [List.cons_append, transcript, run_cons, ih]

theorem transcript_snoc (s : Store) (calls : List Call) (c : Call) :
    s.transcript (calls ++ [c]) =
      s.transcript calls ++ [⟨c, ((s.run calls).step c).1⟩] := transcript_append s calls [c]

/-! ## Staging without a store -/

end Store

/-- The change a write stages when rows look as given; none if the write is refused. -/
def Call.changeOn (visible : RowKey → Option Row) : Call → Option Change
  | .insert _ key row => if visible key = none then some (.insertRow key row) else none
  | .update _ key fields =>
    (visible key).bind fun old => (Store.overwrite key old fields).toOption.map (.updateRow key)
  | .audit _ record => some (.appendAudit record)
  | _ => none

/-- The same call in another transaction. -/
def Call.within (tx : TxId) : Call → Call
  | .begin => .begin
  | .commit _ => .commit tx
  | .rollback _ => .rollback tx
  | .fetch _ key => .fetch tx key
  | .insert _ key row => .insert tx key row
  | .update _ key fields => .update tx key fields
  | .audit _ record => .audit tx record

@[simp] theorem Call.changeOn_within (tx : TxId) (c : Call) (visible : RowKey → Option Row) :
    (c.within tx).changeOn visible = c.changeOn visible := by
  cases c <;> rfl

theorem Call.tx?_within {tx : TxId} {c : Call} (h : c.isWrite = true) :
    (c.within tx).tx? = some tx := by
  cases c with
  | insert => rfl
  | update => rfl
  | audit => rfl
  | _ => cases h

namespace Store

variable {s : Store}

/-- The transaction of a call after the call has looked at the rows it needs. -/
def prepared (s : Store) (t : Transaction) : Call → Transaction
  | .fetch _ key => s.touched t key
  | .insert _ key _ => s.touched t key
  | .update _ key _ => s.touched t key
  | _ => t

/-- A touch pins a row to the stamp it has, so it makes no difference to what is current. -/
theorem current_touched (hs : s.Sound) {tx : TxId} {t : Transaction}
    (hopen : s.transactions.get? tx = some t) (key k : RowKey) :
    s.Current (s.touched t key) k ↔ s.Current t k := by
  unfold Current
  rw [get?_bases_touched hs hopen]
  by_cases hk : key = k
  · subst hk
    -- A pin that was there stays; a new one is the stamp of the row itself.
    cases hbase : t.bases.get? key <;> simp
  · rw [if_neg hk]

theorem current_prepared (hs : s.Sound) {tx : TxId} {t : Transaction}
    (hopen : s.transactions.get? tx = some t) (c : Call) (k : RowKey) :
    s.Current (s.prepared t c) k ↔ s.Current t k := by
  cases c with
  | fetch => exact current_touched hs hopen _ k
  | insert => exact current_touched hs hopen _ k
  | update => exact current_touched hs hopen _ k
  | _ => exact Iff.rfl

@[simp] theorem stagedRow?_prepared (s : Store) (t : Transaction) (c : Call) (k : RowKey) :
    (s.prepared t c).stagedRow? k = t.stagedRow? k := by
  cases c with
  | fetch => exact Transaction.stagedRow?_touch t _ k _
  | insert => exact Transaction.stagedRow?_touch t _ k _
  | update => exact Transaction.stagedRow?_touch t _ k _
  | _ => rfl

@[simp] theorem changes_prepared (s : Store) (t : Transaction) (c : Call) :
    (s.prepared t c).changes = t.changes := by
  cases c with
  | fetch => exact Transaction.touch_changes t _ _
  | insert => exact Transaction.touch_changes t _ _
  | update => exact Transaction.touch_changes t _ _
  | _ => rfl

/-- What a call that stages a change in an open transaction does. -/
theorem Effect.of_changeOn {c : Call} {answer : Except Failure c.Answer} {s' : Store}
    (h : Effect s c answer s') {tx : TxId} {t : Transaction} {change : Change}
    (htx : c.tx? = some tx) (hopen : s.transactions.get? tx = some t)
    (hchange : c.changeOn (s.seen t) = some change) :
    Event.succeeded ⟨c, answer⟩ = true ∧ s' = s.holding tx ((s.prepared t c).stage change) := by
  cases h with
  | opened => cases htx
  | unknown c tx' htx' hclosed =>
    obtain rfl := Option.some.inj (htx.symm.trans htx')
    rw [hopen] at hclosed
    cases hclosed
  | inserted tx' key row u hopen' hseen =>
    obtain rfl := Option.some.inj htx
    obtain rfl := Option.some.inj (hopen.symm.trans hopen')
    rw [Call.changeOn, if_pos hseen] at hchange
    exact ⟨rfl, by rw [← Option.some.inj hchange]; rfl⟩
  | duplicate tx' key row old u hopen' hseen =>
    obtain rfl := Option.some.inj htx
    obtain rfl := Option.some.inj (hopen.symm.trans hopen')
    simp [Call.changeOn, hseen] at hchange
  | updated tx' key fields old row u hopen' hseen hrow =>
    obtain rfl := Option.some.inj htx
    obtain rfl := Option.some.inj (hopen.symm.trans hopen')
    simp only [Call.changeOn, hseen, hrow, Option.bind_some] at hchange
    exact ⟨rfl, by rw [← Option.some.inj hchange]; rfl⟩
  | missing tx' key fields u hopen' hseen =>
    obtain rfl := Option.some.inj htx
    obtain rfl := Option.some.inj (hopen.symm.trans hopen')
    simp [Call.changeOn, hseen] at hchange
  | misfit tx' key fields old failure u hopen' hseen hrow =>
    obtain rfl := Option.some.inj htx
    obtain rfl := Option.some.inj (hopen.symm.trans hopen')
    simp [Call.changeOn, hseen, hrow, Except.toOption] at hchange
  | audited tx' record u hopen' =>
    obtain rfl := Option.some.inj htx
    obtain rfl := Option.some.inj (hopen.symm.trans hopen')
    exact ⟨rfl, by rw [← Option.some.inj hchange]; rfl⟩
  | fetched => cases hchange
  | committed => cases hchange
  | conflicted => cases hchange
  | rolledBack => cases hchange

/-- What is current depends on the rows alone. -/
theorem current_congr {s' : Store} (h : s'.rows = s.rows) (t : Transaction) (key : RowKey) :
    s'.Current t key ↔ s.Current t key := by
  simp only [Current, stamp?, h]

theorem committedRow?_congr {s' : Store} (h : s'.rows = s.rows) :
    s'.committedRow? = s.committedRow? := by
  funext key
  simp only [committedRow?, h]

/-- A row that another transaction touched and still finds current after a commit was not written by
the commit: the stamp of the commit is ahead of every stamp seen before. -/
theorem current_of_publish (hs : s.Sound) {tx : TxId} {t : Transaction}
    (hopen : s.transactions.get? tx = some t) {other : TxId} {changes : List Change} {key : RowKey}
    (hpin : t.bases.get? key ≠ none) (h : (s.publish other changes).Current t key) :
    imageIn changes key = none ∧ s.Current t key := by
  obtain ⟨base, hbase⟩ := Option.ne_none_iff_exists'.1 hpin
  have hstamp := h base hbase
  rw [stamp?_publish] at hstamp
  by_cases himage : imageIn changes key = none
  · refine ⟨himage, fun base' hbase' => ?_⟩
    rw [if_pos himage] at hstamp
    rw [hstamp]
    exact Option.some.inj (hbase.symm.trans hbase')
  · rw [if_neg himage] at hstamp
    -- The pin would have to be the stamp of this very commit.
    have hle := (hs.transactions tx t hopen).base_le key (s.commits + 1) (hstamp ▸ hbase)
    omega

/-! ## Three kinds of events

Most of what a run does changes nothing that anybody can see. `Progress` sorts the effects by what
they contribute: nothing, one staged change, or the publication of a transaction. -/

/-- A step that neither stages nor publishes anything: transactions may come and go and pin more
rows, and what each of them staged and finds current stays as it is. -/
structure Quiet (s s' : Store) : Prop where
  rows : s'.rows = s.rows
  audits : s'.audits = s.audits
  commits : s'.commits = s.commits
  nextTx_le : s.nextTx ≤ s'.nextTx
  transactions : ∀ tx t', s'.transactions.get? tx = some t' →
    (s.nextTx ≤ tx.number ∧ t' = .start tx) ∨
      ∃ t, s.transactions.get? tx = some t ∧ t'.changes = t.changes ∧
        (∀ key, s.Current t' key ↔ s.Current t key) ∧
        ∀ key, t.bases.get? key ≠ none → t'.bases.get? key ≠ none

theorem Quiet.refl (s : Store) : Quiet s s where
  rows := rfl
  audits := rfl
  commits := rfl
  nextTx_le := Nat.le_refl _
  transactions _ t' h := .inr ⟨t', h, rfl, fun _ => Iff.rfl, fun _ => id⟩

theorem quiet_touched (hs : s.Sound) {tx : TxId} {t : Transaction}
    (hopen : s.transactions.get? tx = some t) (key : RowKey) :
    Quiet s (s.holding tx (s.touched t key)) where
  rows := rfl
  audits := rfl
  commits := rfl
  nextTx_le := Nat.le_refl _
  transactions other t' h := by
    rw [get?_holding] at h
    split at h
    · next htx =>
      obtain rfl := Option.some.inj h
      refine .inr ⟨t, htx ▸ hopen, Transaction.touch_changes t key _,
        fun k => current_touched hs hopen key k, fun k hpin => ?_⟩
      rw [get?_bases_touched hs hopen]
      split
      · exact Option.some_ne_none _
      · exact hpin
    · exact .inr ⟨t', h, rfl, fun _ => Iff.rfl, fun _ => id⟩

theorem quiet_without (s : Store) (tx : TxId) : Quiet s (s.without tx) where
  rows := rfl
  audits := rfl
  commits := rfl
  nextTx_le := Nat.le_refl _
  transactions other t' h := by
    rw [get?_without] at h
    split at h
    · cases h
    · exact .inr ⟨t', h, rfl, fun _ => Iff.rfl, fun _ => id⟩

theorem quiet_opened (s : Store) :
    Quiet s { s.holding ⟨s.nextTx⟩ (.start ⟨s.nextTx⟩) with nextTx := s.nextTx + 1 } where
  rows := rfl
  audits := rfl
  commits := rfl
  nextTx_le := Nat.le_succ _
  transactions other t' h := by
    change (s.holding _ _).transactions.get? other = some t' at h
    rw [get?_holding] at h
    split at h
    · next htx =>
      obtain rfl := Option.some.inj h
      exact .inl ⟨htx ▸ Nat.le_refl _, htx ▸ rfl⟩
    · exact .inr ⟨t', h, rfl, fun _ => Iff.rfl, fun _ => id⟩

/-- What an event contributes to a run. -/
inductive Progress (s : Store) : Event → Store → Prop where
  | quiet (e : Event) (s' : Store) (hcommits : e.commits? = none)
      (hstaged : ∀ tx, e.stagedIn? tx = none) (hquiet : Quiet s s') : Progress s e s'
  | staged (e : Event) (tx : TxId) (t : Transaction) (change : Change)
      (hcommits : e.commits? = none)
      (hstaged : ∀ other, e.stagedIn? other = if tx = other then some e.call else none)
      (hopen : s.transactions.get? tx = some t)
      (hchange : e.call.changeOn (s.seen t) = some change) :
      Progress s e (s.holding tx ((s.prepared t e.call).stage change))
  | published (tx : TxId) (t : Transaction) (hopen : s.transactions.get? tx = some t)
      (hcurrent : ∀ key, t.stagedRow? key ≠ none → s.Current t key) :
      Progress s ⟨.commit tx, .ok ()⟩ (s.publish tx t.changes)

theorem Effect.progress (hs : s.Sound) {c : Call} {answer : Except Failure c.Answer} {s' : Store}
    (h : Effect s c answer s') : Progress s ⟨c, answer⟩ s' := by
  cases h with
  | opened => exact .quiet _ _ rfl (fun _ => rfl) (quiet_opened s)
  | unknown tx htx hclosed => exact .quiet _ _ (by cases c <;> rfl) (fun _ => rfl) (.refl s)
  | fetched tx key t hopen => exact .quiet _ _ rfl (fun _ => rfl) (quiet_touched hs hopen key)
  | inserted tx key row t hopen hseen =>
    exact .staged ⟨.insert tx key row, .ok ()⟩ tx t _ rfl
      (Event.stagedIn?_of_succeeded rfl rfl rfl) hopen (if_pos hseen)
  | duplicate tx key row old t hopen =>
    exact .quiet _ _ rfl (fun _ => rfl) (quiet_touched hs hopen key)
  | updated tx key fields old row t hopen hseen hrow =>
    have hchange : (Call.update tx key fields).changeOn (s.seen t) = some (.updateRow key row) := by
      simp [Call.changeOn, hseen, hrow, Except.toOption]
    exact .staged ⟨.update tx key fields, .ok ()⟩ tx t _ rfl
      (Event.stagedIn?_of_succeeded rfl rfl rfl) hopen hchange
  | missing tx key fields t hopen =>
    exact .quiet _ _ rfl (fun _ => rfl) (quiet_touched hs hopen key)
  | misfit tx key fields old failure t hopen =>
    exact .quiet _ _ rfl (fun _ => rfl) (quiet_touched hs hopen key)
  | audited tx record t hopen =>
    exact .staged ⟨.audit tx record, .ok ()⟩ tx t _ rfl
      (Event.stagedIn?_of_succeeded rfl rfl rfl) hopen rfl
  | committed tx t hopen hcurrent => exact .published tx t hopen hcurrent
  | conflicted tx t key hopen => exact .quiet _ _ rfl (fun _ => rfl) (quiet_without s tx)
  | rolledBack tx t hopen => exact .quiet _ _ rfl (fun _ => rfl) (quiet_without s tx)

theorem progress_step (hs : s.Sound) (c : Call) :
    Progress s ⟨c, (s.step c).1⟩ (s.step c).2 := (effect_step hs c).progress hs

end Store

end RecordEngine
