import RecordEngine.Proofs.Store.Transcript
/-!
Runs without one of their transactions.

A transaction that came to nothing, because it was rolled back, because its commit was refused or
because it never ended, might as well not have been: take its calls out of a run, and every other
call is answered as before, and the rows with their stamps and the audit log end up the same.

Taking out a `begin` would move the numbers of all later transactions. A `Move` therefore carries
the number that is given out, whatever it is, and `Store.play` opens the transaction under it.

A transaction that was opened once ends once, so one that was rolled back or refused was not carried
through by any other commit of the run.

The proof compares two stores that agree on everything but the transactions outside a group
(`Store.AgreeOn`). A call of the group is answered the same on both and leaves them agreeing; any
other call leaves a store agreeing with itself, unless it is a commit that goes through.
-/

set_option autoImplicit false

namespace RecordEngine

/-! ## Moves -/

/-- A call of a run in which the numbers of the transactions are laid down beforehand. -/
structure Move where
  call : Call
  /-- The number that is given out if the call opens a transaction. -/
  given : TxId
  deriving DecidableEq, Repr

/-- The transaction that a move belongs to. -/
def Move.tx (m : Move) : TxId := m.call.tx?.getD m.given

/-- The transaction that an event belongs to. -/
def Event.tx? : Event → Option TxId
  | ⟨.begin, .ok tx⟩ => some tx
  | ⟨c, _⟩ => c.tx?

namespace Store

/-- Carries out a move. -/
def play (s : Store) (m : Move) : Event × Store :=
  match m.call with
  | .begin => (⟨.begin, .ok m.given⟩, s.openAs m.given)
  | c => (⟨c, (s.step c).1⟩, (s.step c).2)

/-- The store after a list of moves. -/
def playAll (s : Store) (moves : List Move) : Store := moves.foldl (fun s m => (s.play m).2) s

/-- The answers to a list of moves. -/
def answers (s : Store) : List Move → List Event
  | [] => []
  | m :: rest => (s.play m).1 :: (s.play m).2.answers rest

@[simp] theorem playAll_cons (s : Store) (m : Move) (rest : List Move) :
    s.playAll (m :: rest) = (s.play m).2.playAll rest := rfl

theorem play_begin (s : Store) (tx : TxId) :
    s.play ⟨.begin, tx⟩ = (⟨.begin, .ok tx⟩, s.holding tx (.start tx)) := rfl

theorem play_of_tx? (s : Store) {c : Call} {tx : TxId} (hc : c.tx? = some tx) (given : TxId) :
    s.play ⟨c, given⟩ = (⟨c, (s.step c).1⟩, (s.step c).2) := by
  cases c with
  | begin => cases hc
  | _ => rfl

/-- A move opens its transaction or makes a call in it. -/
theorem move_cases (m : Move) : (∃ tx, m = ⟨.begin, tx⟩ ∧ m.tx = tx) ∨
    ∃ c given tx, m = ⟨c, given⟩ ∧ c.tx? = some tx ∧ m.tx = tx := by
  obtain ⟨c, given⟩ := m
  cases hc : c.tx? with
  | none =>
    cases c with
    | begin => exact .inl ⟨given, rfl, rfl⟩
    | _ => cases hc
  | some tx => exact .inr ⟨c, given, tx, rfl, hc, by rw [Move.tx, hc, Option.getD_some]⟩

/-- An event belongs to the transaction of its move. -/
theorem tx?_play (s : Store) (m : Move) : (s.play m).1.tx? = some m.tx := by
  rcases move_cases m with ⟨tx, rfl, htx⟩ | ⟨c, given, tx, rfl, hc, htx⟩
  · rfl
  · rw [play_of_tx? s hc, htx]
    cases c with
    | begin => cases hc
    | _ => exact hc

/-! ## Stores that agree on a group of transactions -/

/-- Two stores with the same committed state in which the transactions of a group are the same. -/
structure AgreeOn (group : TxId → Prop) (s u : Store) : Prop where
  rows : u.rows = s.rows
  audits : u.audits = s.audits
  commits : u.commits = s.commits
  transactions : ∀ tx, group tx → u.transactions.get? tx = s.transactions.get? tx

variable {group : TxId → Prop} {s u : Store} {tx : TxId}

theorem AgreeOn.refl (s : Store) : s.AgreeOn group s where
  rows := rfl
  audits := rfl
  commits := rfl
  transactions _ _ := rfl

theorem AgreeOn.symm (h : s.AgreeOn group u) : u.AgreeOn group s where
  rows := h.rows.symm
  audits := h.audits.symm
  commits := h.commits.symm
  transactions tx htx := (h.transactions tx htx).symm

theorem AgreeOn.trans {v : Store} (h : s.AgreeOn group u) (h' : u.AgreeOn group v) :
    s.AgreeOn group v where
  rows := h'.rows.trans h.rows
  audits := h'.audits.trans h.audits
  commits := h'.commits.trans h.commits
  transactions tx htx := (h'.transactions tx htx).trans (h.transactions tx htx)

/-- The same is done to one transaction of both. -/
theorem AgreeOn.holding (h : s.AgreeOn group u) (tx : TxId) (t : Transaction) :
    (s.holding tx t).AgreeOn group (u.holding tx t) where
  rows := h.rows
  audits := h.audits
  commits := h.commits
  transactions other hother := by
    rw [get?_holding, get?_holding, h.transactions other hother]

/-- One transaction of both is dropped. -/
theorem AgreeOn.without (h : s.AgreeOn group u) (tx : TxId) :
    (s.without tx).AgreeOn group (u.without tx) where
  rows := h.rows
  audits := h.audits
  commits := h.commits
  transactions other hother := by
    rw [get?_without, get?_without, h.transactions other hother]

/-- Something is done to a transaction outside the group. -/
theorem agreeOn_holding (s : Store) (htx : ¬ group tx) (t : Transaction) :
    s.AgreeOn group (s.holding tx t) where
  rows := rfl
  audits := rfl
  commits := rfl
  transactions other hother := by
    have hne : tx ≠ other := by
      rintro rfl
      exact htx hother
    rw [get?_holding, if_neg hne]

/-- A transaction outside the group is dropped. -/
theorem agreeOn_without (s : Store) (htx : ¬ group tx) : s.AgreeOn group (s.without tx) where
  rows := rfl
  audits := rfl
  commits := rfl
  transactions other hother := by
    have hne : tx ≠ other := by
      rintro rfl
      exact htx hother
    rw [get?_without, if_neg hne]

/-- The same changes are published on both. -/
theorem AgreeOn.apply (h : s.AgreeOn group u) (stamp : Nat) (change : Change) :
    (apply stamp s change).AgreeOn group (apply stamp u change) := by
  cases change with
  | insertRow key row => exact { h with rows := by rw [Store.apply, Store.apply, h.rows] }
  | updateRow key row => exact { h with rows := by rw [Store.apply, Store.apply, h.rows] }
  | appendAudit record => exact h

theorem AgreeOn.foldl_apply (h : s.AgreeOn group u) (stamp : Nat) (changes : List Change) :
    (changes.foldl (Store.apply stamp) s).AgreeOn group (changes.foldl (Store.apply stamp) u) := by
  induction changes generalizing s u with
  | nil => exact h
  | cons change rest ih => exact ih (h.apply stamp change)

/-! ### Calls of the group -/

/-- Two results of the same operation that give the same answer. -/
structure AgreeOnResult {α : Type} (group : TxId → Prop) (r q : Except Failure α × Store) :
    Prop where
  answer : q.1 = r.1
  store : r.2.AgreeOn group q.2

theorem AgreeOn.stamp? (h : s.AgreeOn group u) (key : RowKey) : u.stamp? key = s.stamp? key := by
  simp only [Store.stamp?, h.rows]

theorem AgreeOn.visibleRow (h : s.AgreeOn group u) (htx : group tx) (key : RowKey) :
    AgreeOnResult group (s.visibleRow tx key) (u.visibleRow tx key) := by
  unfold Store.visibleRow
  rw [h.transactions tx htx]
  cases s.transactions.get? tx with
  | none => exact ⟨rfl, h⟩
  | some t =>
    cases hrow : t.stagedRow? key with
    | some row => simp only [hrow]; exact ⟨rfl, h⟩
    | none =>
      simp only [hrow, h.stamp? key, committedRow?_congr h.rows]
      exact ⟨rfl, h.holding tx _⟩

theorem AgreeOn.stage (h : s.AgreeOn group u) (htx : group tx) (change : Change)
    (stamp : Option Nat) :
    AgreeOnResult group (s.stage tx change stamp) (u.stage tx change stamp) := by
  unfold Store.stage
  rw [h.transactions tx htx]
  cases s.transactions.get? tx with
  | none => exact ⟨rfl, h⟩
  | some t =>
    cases hrecord : t.record change stamp with
    | error failure => simp only [hrecord]; exact ⟨rfl, h⟩
    | ok t' => simp only [hrecord]; exact ⟨rfl, h.holding tx t'⟩

theorem AgreeOn.insert (h : s.AgreeOn group u) (htx : group tx) (key : RowKey) (row : Row) :
    AgreeOnResult group (s.insert tx key row) (u.insert tx key row) := by
  obtain ⟨hanswer, hstore⟩ := h.visibleRow htx key
  unfold Store.insert
  -- Both look the row up first, find the same, and go on from stores that still agree.
  generalize s.visibleRow tx key = r at hanswer hstore ⊢
  generalize u.visibleRow tx key = q at hanswer hstore ⊢
  obtain ⟨answer, s'⟩ := r
  obtain ⟨answer', u'⟩ := q
  obtain rfl : answer' = answer := hanswer
  rcases answer' with failure | _ | old
  · exact ⟨rfl, hstore⟩
  · exact hstore.stage htx _ none
  · exact ⟨rfl, hstore⟩

theorem AgreeOn.update (h : s.AgreeOn group u) (htx : group tx) (key : RowKey)
    (fields : List (Nat × Value)) :
    AgreeOnResult group (s.update tx key fields) (u.update tx key fields) := by
  obtain ⟨hanswer, hstore⟩ := h.visibleRow htx key
  unfold Store.update
  generalize s.visibleRow tx key = r at hanswer hstore ⊢
  generalize u.visibleRow tx key = q at hanswer hstore ⊢
  obtain ⟨answer, s'⟩ := r
  obtain ⟨answer', u'⟩ := q
  obtain rfl : answer' = answer := hanswer
  rcases answer' with failure | _ | old
  · exact ⟨rfl, hstore⟩
  · exact ⟨rfl, hstore⟩
  · cases hrow : overwrite key old fields with
    | error failure => simp only [hrow]; exact ⟨rfl, hstore⟩
    | ok row =>
      simp only [hrow]
      rw [hstore.stamp? key]
      exact hstore.stage htx _ _

theorem AgreeOn.appendAudits (h : s.AgreeOn group u) (records : List AuditRecord) :
    (s.appendAudits records).AgreeOn group (u.appendAudits records) :=
  { h with audits := congrArg (· ++ records) h.audits }

theorem AgreeOn.publishRows (h : s.AgreeOn group u) (htx : group tx) :
    AgreeOnResult group (s.publishRows tx) (u.publishRows tx) := by
  have hdropped := h.without tx
  have hconflict (written : List (RowKey × Option Nat)) :
      conflict? { u with transactions := u.transactions.erase tx } written =
        conflict? { s with transactions := s.transactions.erase tx } written := by
    change conflict? (u.without tx) written = conflict? (s.without tx) written
    simp only [conflict?, hdropped.stamp?]
  unfold Store.publishRows
  rw [h.transactions tx htx]
  cases s.transactions.get? tx with
  | none => exact ⟨rfl, h⟩
  | some t =>
    dsimp only
    rw [hconflict]
    cases conflict? { s with transactions := s.transactions.erase tx } (id t.writtenRows) with
    | some key =>
      cases t.rollback with
      | error failure => exact ⟨rfl, hdropped⟩
      | ok _ => exact ⟨rfl, hdropped⟩
    | none =>
      -- The stamp is the next one, and that is the same on both.
      have hnext : Store.AgreeOn group { s.without tx with commits := s.commits + 1 }
          { u.without tx with commits := u.commits + 1 } :=
        { hdropped with commits := congrArg (· + 1) h.commits }
      cases t.commit with
      | error failure => exact ⟨rfl, hnext⟩
      | ok published =>
        simp only [h.commits] at hnext ⊢
        exact ⟨rfl, hnext.foldl_apply (s.commits + 1) published.1⟩

theorem AgreeOn.commit (h : s.AgreeOn group u) (htx : group tx) :
    AgreeOnResult group (s.commit tx) (u.commit tx) := by
  obtain ⟨hanswer, hstore⟩ := h.publishRows htx
  unfold Store.commit
  -- Both publish the same rows and have the same records left to append.
  generalize s.publishRows tx = r at hanswer hstore ⊢
  generalize u.publishRows tx = q at hanswer hstore ⊢
  obtain ⟨answer, s'⟩ := r
  obtain ⟨answer', u'⟩ := q
  obtain rfl : answer' = answer := hanswer
  cases answer' with
  | error failure => exact ⟨rfl, hstore⟩
  | ok records => exact ⟨rfl, hstore.appendAudits records⟩

theorem AgreeOn.rollback (h : s.AgreeOn group u) (htx : group tx) :
    AgreeOnResult group (s.rollback tx) (u.rollback tx) := by
  unfold Store.rollback
  rw [h.transactions tx htx]
  cases s.transactions.get? tx with
  | none => exact ⟨rfl, h⟩
  | some t => exact ⟨rfl, h.without tx⟩

/-- A call of the group is answered the same and leaves the stores agreeing. -/
theorem AgreeOn.step (h : s.AgreeOn group u) {c : Call} (hc : c.tx? = some tx) (htx : group tx) :
    AgreeOnResult group (s.step c) (u.step c) := by
  cases c with
  | begin => cases hc
  | commit => obtain rfl := Option.some.inj hc; exact h.commit htx
  | rollback => obtain rfl := Option.some.inj hc; exact h.rollback htx
  | fetch _ key => obtain rfl := Option.some.inj hc; exact h.visibleRow htx key
  | insert _ key row => obtain rfl := Option.some.inj hc; exact h.insert htx key row
  | update _ key fields => obtain rfl := Option.some.inj hc; exact h.update htx key fields
  | audit _ record => obtain rfl := Option.some.inj hc; exact h.stage htx _ none

/-- The same for a move, which may also open a transaction. -/
theorem AgreeOn.play (h : s.AgreeOn group u) {m : Move} (hm : group m.tx) :
    (u.play m).1 = (s.play m).1 ∧ (s.play m).2.AgreeOn group (u.play m).2 := by
  rcases move_cases m with ⟨tx, rfl, htx⟩ | ⟨c, given, tx, rfl, hc, htx⟩
  · exact ⟨rfl, h.holding tx (.start tx)⟩
  · rw [htx] at hm
    obtain ⟨hanswer, hstore⟩ := h.step hc hm
    rw [play_of_tx? s hc, play_of_tx? u hc]
    exact ⟨by rw [hanswer], hstore⟩

/-! ## What a call does to its transaction

With numbers given out freely the store need not be `Sound`: its counter may be behind the numbers
in use. What the comparison needs is less, and holds of every list of moves. -/

/-- Every open transaction is active. A commit of one that is not would take a stamp and then
fail. -/
def Live (s : Store) : Prop := ∀ tx t, s.transactions.get? tx = some t → t.state = .active

theorem live_empty : empty.Live := fun _ _ h => by cases h

theorem Live.holding (hs : s.Live) (tx : TxId) {t : Transaction} (ht : t.state = .active) :
    (s.holding tx t).Live := by
  intro other t' h
  rw [get?_holding] at h
  by_cases hother : tx = other
  · rw [if_pos hother] at h
    rw [← Option.some.inj h]
    exact ht
  · rw [if_neg hother] at h
    exact hs other t' h

theorem Live.without (hs : s.Live) (tx : TxId) : (s.without tx).Live := by
  intro other t h
  rw [get?_without] at h
  by_cases hother : tx = other
  · rw [if_pos hother] at h
    cases h
  · rw [if_neg hother] at h
    exact hs other t h

theorem Live.publish (hs : s.Live) (tx : TxId) (changes : List Change) :
    (s.publish tx changes).Live := by
  intro other t h
  rw [get?_publish] at h
  by_cases hother : tx = other
  · rw [if_pos hother] at h
    cases h
  · rw [if_neg hother] at h
    exact hs other t h

/-- Nothing happened but to one transaction, which was open and is active. -/
inductive Worked (s : Store) (tx : TxId) : Store → Prop where
  | idle : Worked s tx s
  | held (t : Transaction) (hopen : s.transactions.get? tx ≠ none) (hactive : t.state = .active) :
      Worked s tx (s.holding tx t)

theorem Worked.live {s' : Store} (h : s.Worked tx s') (hs : s.Live) : s'.Live := by
  cases h with
  | idle => exact hs
  | held t _ hactive => exact hs.holding tx hactive

theorem Worked.trans {s' s'' : Store} (h : s.Worked tx s') (h' : s'.Worked tx s'') :
    s.Worked tx s'' := by
  cases h with
  | idle => exact h'
  | held t hopen hactive =>
    cases h' with
    | idle => exact .held t hopen hactive
    | held t' _ hactive' =>
      rw [holding_holding]
      exact .held t' hopen hactive'

theorem worked_visibleRow (hs : s.Live) (tx : TxId) (key : RowKey) :
    s.Worked tx (s.visibleRow tx key).2 := by
  cases hopen : s.transactions.get? tx with
  | none =>
    unfold Store.visibleRow
    rw [hopen]
    exact .idle
  | some t =>
    rw [visibleRow_of_open hopen]
    refine .held _ (by simp [hopen]) ?_
    exact (Transaction.touch_state t key _).trans (hs tx t hopen)

/-- A transaction that takes a change stays in its state. -/
theorem state_of_record {t t' : Transaction} {change : Change} {stamp : Option Nat}
    (h : t.record change stamp = .ok t') : t'.state = t.state := by
  unfold Transaction.record at h
  cases hactive : t.checkActive "record change" with
  | error failure =>
    rw [hactive] at h
    cases h
  | ok _ =>
    rw [hactive] at h
    rw [← Except.ok.inj h]
    cases change.written? <;> rfl

theorem worked_stage (hs : s.Live) (tx : TxId) (change : Change) (stamp : Option Nat) :
    s.Worked tx (s.stage tx change stamp).2 := by
  unfold Store.stage
  cases hopen : s.transactions.get? tx with
  | none => exact .idle
  | some t =>
    cases hrecord : t.record change stamp with
    | error failure =>
      simp only [hrecord]
      exact .idle
    | ok t' =>
      simp only [hrecord]
      exact .held t' (by simp [hopen]) ((state_of_record hrecord).trans (hs tx t hopen))

theorem worked_insert (hs : s.Live) (tx : TxId) (key : RowKey) (row : Row) :
    s.Worked tx (s.insert tx key row).2 := by
  have hseen := worked_visibleRow hs tx key
  unfold Store.insert
  generalize s.visibleRow tx key = r at hseen ⊢
  obtain ⟨_ | _ | old, s'⟩ := r
  · exact hseen
  · exact hseen.trans (worked_stage (hseen.live hs) tx _ none)
  · exact hseen

theorem worked_update (hs : s.Live) (tx : TxId) (key : RowKey) (fields : List (Nat × Value)) :
    s.Worked tx (s.update tx key fields).2 := by
  have hseen := worked_visibleRow hs tx key
  unfold Store.update
  generalize s.visibleRow tx key = r at hseen ⊢
  obtain ⟨_ | _ | old, s'⟩ := r
  · exact hseen
  · exact hseen
  · cases hrow : overwrite key old fields with
    | error failure =>
      simp only [hrow]
      exact hseen
    | ok row =>
      simp only [hrow]
      exact hseen.trans (worked_stage (hseen.live hs) tx _ _)

end Store

/-- The transaction that an event ends: by a commit, whether or not it goes through, or a
rollback. -/
def Event.ends? : Event → Option TxId
  | ⟨.commit tx, .ok _⟩ | ⟨.commit tx, .error (.conflict _)⟩ | ⟨.rollback tx, .ok _⟩ => some tx
  | _ => none

namespace Store

variable {s : Store} {tx : TxId}

/-- The ways a call in a transaction can go. -/
inductive Moved (s : Store) (tx : TxId) : Event → Store → Prop where
  | worked (e : Event) (s' : Store) (hends : e.ends? = none) (h : s.Worked tx s') : Moved s tx e s'
  /-- A rollback, or a commit that is refused. -/
  | dropped (e : Event) (hends : e.ends? = some tx) (hcommits : e.commits? = none)
      (hopen : s.transactions.get? tx ≠ none) : Moved s tx e (s.without tx)
  | published (changes : List Change) (hopen : s.transactions.get? tx ≠ none) :
      Moved s tx ⟨.commit tx, .ok ()⟩ (s.publish tx changes)

theorem moved_commit (hs : s.Live) (tx : TxId) :
    s.Moved tx ⟨.commit tx, (s.commit tx).1⟩ (s.commit tx).2 := by
  unfold Store.commit Store.publishRows
  cases hopen : s.transactions.get? tx with
  | none => exact .worked _ s rfl .idle
  | some t =>
    have hsome : s.transactions.get? tx ≠ none := by simp [hopen]
    have hcheck (action : String) : t.checkActive action = .ok () := if_pos (hs tx t hopen)
    -- The transaction is taken out before the rows are looked at for a conflict.
    have hconflict : conflict? { s with transactions := s.transactions.erase tx }
        (id t.writtenRows) = s.conflict? t.writtenRows := rfl
    simp only [hconflict]
    cases s.conflict? t.writtenRows with
    | some key =>
      simp only [Transaction.rollback, hcheck]
      exact .dropped _ rfl rfl hsome
    | none =>
      simp only [Transaction.commit, hcheck]
      exact .published t.changes hsome

theorem moved_rollback (hs : s.Live) (tx : TxId) :
    s.Moved tx ⟨.rollback tx, (s.rollback tx).1⟩ (s.rollback tx).2 := by
  unfold Store.rollback
  cases hopen : s.transactions.get? tx with
  | none => exact .worked _ s rfl .idle
  | some t =>
    have hcheck : t.checkActive "rollback" = .ok () := if_pos (hs tx t hopen)
    simp only [Transaction.rollback, hcheck]
    exact .dropped _ rfl rfl (by simp [hopen])

theorem moved_step (hs : s.Live) {c : Call} (hc : c.tx? = some tx) :
    s.Moved tx ⟨c, (s.step c).1⟩ (s.step c).2 := by
  cases c with
  | begin => cases hc
  | commit => obtain rfl := Option.some.inj hc; exact moved_commit hs _
  | rollback => obtain rfl := Option.some.inj hc; exact moved_rollback hs _
  | fetch _ key =>
    obtain rfl := Option.some.inj hc
    exact .worked _ _ rfl (worked_visibleRow hs _ key)
  | insert _ key row =>
    obtain rfl := Option.some.inj hc
    exact .worked _ _ rfl (worked_insert hs _ key row)
  | update _ key fields =>
    obtain rfl := Option.some.inj hc
    exact .worked _ _ rfl (worked_update hs _ key fields)
  | audit _ record =>
    obtain rfl := Option.some.inj hc
    exact .worked _ _ rfl (worked_stage hs _ _ none)

theorem Moved.live {e : Event} {s' : Store} (h : s.Moved tx e s') (hs : s.Live) : s'.Live := by
  cases h with
  | worked e s' _ h => exact h.live hs
  | dropped => exact hs.without tx
  | published changes => exact hs.publish tx changes

theorem Live.play (hs : s.Live) (m : Move) : (s.play m).2.Live := by
  rcases move_cases m with ⟨tx, rfl, -⟩ | ⟨c, given, tx, rfl, hc, -⟩
  · exact hs.holding tx rfl
  · rw [play_of_tx? s hc]
    exact (moved_step hs hc).live hs

/-! ## A transaction ends once -/

/-- Whether a transaction is open, as a number. -/
def openCount (s : Store) (tx : TxId) : Nat := if s.transactions.get? tx = none then 0 else 1

theorem openCount_holding (s : Store) (other tx : TxId) (t : Transaction) :
    (s.holding other t).openCount tx = if other = tx then 1 else s.openCount tx := by
  rw [openCount, get?_holding]
  by_cases h : other = tx <;> simp [h, openCount]

theorem openCount_eq_of_ended {s' : Store} {other : TxId}
    (h : ∀ tx, s'.transactions.get? tx = if other = tx then none else s.transactions.get? tx) :
    s'.openCount tx = if other = tx then 0 else s.openCount tx := by
  rw [openCount, h]
  by_cases h : other = tx <;> simp [h, openCount]

/-- What a move ends was open before and is not open afterwards. -/
theorem ends_add_openCount_le (hs : s.Live) (m : Move) (tx : TxId) :
    [(s.play m).1].countP (·.ends? = some tx) + (s.play m).2.openCount tx ≤
      s.openCount tx + [m].count ⟨.begin, tx⟩ := by
  have hopen {other : TxId} (h : s.transactions.get? other ≠ none) : s.openCount other = 1 :=
    if_neg h
  rcases move_cases m with ⟨other, rfl, -⟩ | ⟨c, given, other, rfl, hc, -⟩
  · rw [play_begin, openCount_holding]
    by_cases hother : other = tx <;> simp [hother, Event.ends?]
  · rw [play_of_tx? s hc]
    have hmoved := moved_step hs hc
    generalize (⟨c, (s.step c).1⟩ : Event) = e at hmoved ⊢
    generalize (s.step c).2 = s' at hmoved ⊢
    cases hmoved with
    | worked e s' hends h =>
      cases h with
      | idle => simp [hends]
      | held t hsome =>
        rw [openCount_holding]
        by_cases hother : other = tx
        · have := hopen (hother ▸ hsome)
          simp [hends, hother, this]
        · simp [hends, hother]
    | dropped e hends _ hsome =>
      rw [openCount_eq_of_ended (get?_without s other)]
      by_cases hother : other = tx
      · have := hopen (hother ▸ hsome)
        simp [hends, hother, this]
      · simp [hends, hother]
    | published changes hsome =>
      rw [openCount_eq_of_ended (get?_publish s other changes)]
      by_cases hother : other = tx
      · have := hopen (hother ▸ hsome)
        simp [Event.ends?, hother, this]
      · simp [Event.ends?, hother]

/-- A transaction ends no more often than it was opened. -/
theorem countP_ends_le (hs : s.Live) (tx : TxId) (moves : List Move) :
    (s.answers moves).countP (·.ends? = some tx) + (s.playAll moves).openCount tx ≤
      s.openCount tx + moves.count ⟨.begin, tx⟩ := by
  induction moves generalizing s with
  | nil => simp [answers, playAll]
  | cons m rest ih =>
    have hstep := ends_add_openCount_le hs m tx
    have hrest := ih (hs.play m)
    rw [answers, playAll_cons, ← List.singleton_append, ← List.singleton_append (l := rest),
      List.countP_append, List.count_append]
    omega

/-- A transaction that was opened once and ended otherwise than by a commit that went through is
never committed. -/
theorem not_mem_committedIn_of_ended (tx : TxId) (moves : List Move)
    (hopened : moves.count ⟨.begin, tx⟩ ≤ 1)
    {e : Event} (he : e ∈ empty.answers moves) (hends : e.ends? = some tx)
    (hcommits : e.commits? = none) : tx ∉ committedIn (empty.answers moves) := by
  intro hmem
  obtain ⟨e', he', hcommits'⟩ := List.mem_filterMap.1 hmem
  have hends' : e'.ends? = some tx := by
    obtain ⟨c, answer⟩ := e'
    cases c with
    | commit other => cases answer <;> simp_all [Event.commits?, Event.ends?]
    | _ => simp [Event.commits?] at hcommits'
  have hcount := countP_ends_le live_empty tx moves
  have hfilter : ((empty.answers moves).filter (·.ends? = some tx)).length ≤ 1 := by
    rw [← List.countP_eq_length_filter]
    have : empty.openCount tx = 0 := rfl
    omega
  have hin : e ∈ (empty.answers moves).filter (·.ends? = some tx) := by simp [he, hends]
  have hin' : e' ∈ (empty.answers moves).filter (·.ends? = some tx) := by simp [he', hends']
  -- Both are the one event that ends the transaction.
  obtain ⟨last, hlast⟩ := List.length_eq_one_iff.1
    (Nat.le_antisymm hfilter (List.length_pos_of_mem hin))
  rw [hlast, List.mem_singleton] at hin hin'
  rw [hin, ← hin', hcommits'] at hcommits
  cases hcommits

/-- The ways a transaction comes to nothing in a run: it is opened once and rolled back, or its
commit is refused, or no commit of it goes through, as when it never ends. -/
inductive Fruitless (tx : TxId) (moves : List Move) : Prop where
  | rolledBack (hopened : moves.count ⟨.begin, tx⟩ ≤ 1)
      (h : ⟨.rollback tx, .ok ()⟩ ∈ empty.answers moves)
  | refused (hopened : moves.count ⟨.begin, tx⟩ ≤ 1) (reason : String)
      (h : ⟨.commit tx, .error (.conflict reason)⟩ ∈ empty.answers moves)
  | uncommitted (h : tx ∉ committedIn (empty.answers moves))

theorem Fruitless.not_mem_committedIn {moves : List Move} (h : Fruitless tx moves) :
    tx ∉ committedIn (empty.answers moves) := by
  cases h with
  | rolledBack hopened h => exact not_mem_committedIn_of_ended tx moves hopened h rfl rfl
  | refused hopened reason h => exact not_mem_committedIn_of_ended tx moves hopened h rfl rfl
  | uncommitted h => exact h

/-! ## Taking a transaction out -/

/-- What a transaction does on its own, short of a commit that goes through, nobody else sees. -/
theorem Moved.agreeOn {e : Event} {s' : Store} (h : s.Moved tx e s')
    (hcommits : e.commits? ≠ some tx) : s.AgreeOn (· ≠ tx) s' := by
  have hout : ¬ tx ≠ tx := fun h => h rfl
  cases h with
  | worked e s' _ h =>
    cases h with
    | idle => exact .refl s
    | held t =>
      refine agreeOn_holding s ?_ t
      exact hout
  | dropped => exact agreeOn_without s hout
  | published => exact absurd rfl hcommits

theorem agreeOn_play (hs : s.Live) {m : Move} (hm : m.tx = tx)
    (hcommits : (s.play m).1.commits? ≠ some tx) : s.AgreeOn (· ≠ tx) (s.play m).2 := by
  subst hm
  rcases move_cases m with ⟨tx, rfl, htx⟩ | ⟨c, given, tx, rfl, hc, htx⟩
  · rw [htx]
    exact agreeOn_holding s (fun h => h rfl) (.start tx)
  · rw [htx] at hcommits ⊢
    rw [play_of_tx? s hc] at hcommits ⊢
    exact (moved_step hs hc).agreeOn hcommits

/-- The moves of the other transactions are answered the same by a store that agrees with the given
one on them, and the stores agree afterwards. -/
theorem AgreeOn.answers {u : Store} (h : s.AgreeOn (· ≠ tx) u) (hs : s.Live) {moves : List Move}
    (htx : tx ∉ committedIn (s.answers moves)) :
    u.answers (moves.filter (·.tx ≠ tx)) =
        (s.answers moves).filter (·.tx? ≠ some tx) ∧
      (s.playAll moves).AgreeOn (· ≠ tx) (u.playAll (moves.filter (·.tx ≠ tx))) := by
  induction moves generalizing s u with
  | nil => exact ⟨rfl, h⟩
  | cons m rest ih =>
    have hlive := hs.play m
    have hfirst : (s.play m).1.commits? ≠ some tx := by
      intro hcommits
      exact htx (List.mem_filterMap.2 ⟨_, List.mem_cons_self, hcommits⟩)
    have hrest : tx ∉ committedIn ((s.play m).2.answers rest) := by
      intro hmem
      obtain ⟨e, he, hcommits⟩ := List.mem_filterMap.1 hmem
      exact htx (List.mem_filterMap.2 ⟨e, List.mem_cons_of_mem _ he, hcommits⟩)
    by_cases hm : m.tx = tx
    · -- A move of the transaction itself: only the run with it takes a step.
      have hstep := agreeOn_play hs hm hfirst
      obtain ⟨hanswers, hend⟩ := ih (hstep.symm.trans h) hlive hrest
      rw [List.filter_cons_of_neg (by simpa using hm), Store.answers,
        List.filter_cons_of_neg (by simp [tx?_play, hm])]
      exact ⟨hanswers, hend⟩
    · -- A move of another one: both take it.
      obtain ⟨hanswer, hstep⟩ := h.play hm
      obtain ⟨hanswers, hend⟩ := ih hstep hlive hrest
      rw [List.filter_cons_of_pos (by simpa using hm), Store.answers, Store.answers,
        List.filter_cons_of_pos (by simpa [tx?_play] using hm), hanswer, hanswers]
      exact ⟨rfl, hend⟩

/-- **A transaction that came to nothing leaves no trace.** Take out of a run the moves of a
transaction that was rolled back, whose commit was refused, or that no commit in the run carried
through: everybody else is answered as before, and the committed rows with their stamps, the audit
log and the count of commits are the same. -/
theorem answers_without (tx : TxId) (moves : List Move) (htx : Fruitless tx moves) :
    empty.answers (moves.filter (·.tx ≠ tx)) = (empty.answers moves).filter (·.tx? ≠ some tx) ∧
      (empty.playAll (moves.filter (·.tx ≠ tx))).rows = (empty.playAll moves).rows ∧
      (empty.playAll (moves.filter (·.tx ≠ tx))).audits = (empty.playAll moves).audits ∧
      (empty.playAll (moves.filter (·.tx ≠ tx))).commits = (empty.playAll moves).commits := by
  obtain ⟨hanswers, hend⟩ := (AgreeOn.refl empty).answers live_empty htx.not_mem_committedIn
  exact ⟨hanswers, hend.rows, hend.audits, hend.commits⟩

/-- Two transactions insert the same row, and the one that came second is refused; a third one looks
at the row. -/
def rivalMoves : List Move :=
  let opened (n : Nat) : Move := ⟨.begin, ⟨n⟩⟩
  let made (c : Call) : Move := ⟨c, ⟨0⟩⟩
  let key : RowKey := ⟨"note", "n1"⟩
  [opened 7, opened 3, made (.insert ⟨3⟩ key [.text "n1"]), made (.insert ⟨7⟩ key [.text "x"]),
    made (.audit ⟨7⟩ ⟨"bob", "bob", .create, "note", "n1", .empty⟩), made (.commit ⟨3⟩),
    made (.commit ⟨7⟩), opened 5, made (.fetch ⟨5⟩ key)]

/-- The refused transaction of `rivalMoves` left no trace. -/
theorem rivalMoves_without_refused :
    Fruitless ⟨7⟩ rivalMoves ∧
      empty.answers (rivalMoves.filter (·.tx ≠ ⟨7⟩)) =
        (empty.answers rivalMoves).filter (·.tx? ≠ some ⟨7⟩) ∧
      (empty.playAll (rivalMoves.filter (·.tx ≠ ⟨7⟩))).rows = (empty.playAll rivalMoves).rows ∧
      (empty.playAll (rivalMoves.filter (·.tx ≠ ⟨7⟩))).audits = (empty.playAll rivalMoves).audits ∧
      (empty.playAll (rivalMoves.filter (·.tx ≠ ⟨7⟩))).commits =
        (empty.playAll rivalMoves).commits :=
  have hrefused : Fruitless ⟨7⟩ rivalMoves :=
    .refused (by decide) "note:n1 was modified by another transaction"
      (List.mem_of_getElem? (i := 6) rfl)
  ⟨hrefused, answers_without ⟨7⟩ rivalMoves hrefused⟩

end Store

end RecordEngine
