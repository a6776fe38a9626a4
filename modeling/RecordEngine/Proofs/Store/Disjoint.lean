import RecordEngine.Proofs.Store.Erased
/-!
Transactions that keep off each other's rows do not notice the schedule.

A `Script` is a transaction laid down beforehand: its calls, and whether it ends in a commit or a
rollback. `Interleaves` says of a transcript that some scripts took turns in it, each under a number
of its own, and `Apart` that no row which one of them managed to write is named by another.

What a script is answered and what it stages can be computed from the committed rows it started on,
with nobody else around (`Script.exchanges`, `Script.published`). The proof follows a run from
call to call and keeps, for every script, that it stands where this computation says
(`Script.Stands`): the rows it names have not moved, so each look finds what it would find alone, and
every stamp it is pinned to is still the stamp of the row when it commits.
-/

set_option autoImplicit false

namespace RecordEngine

/-! ## Scripts -/

/-- Whether a call can stand between the begin of a transaction and its end. -/
def Call.isInner : Call → Bool
  | .fetch .. | .insert .. | .update .. | .audit .. => true
  | .begin | .commit _ | .rollback _ => false

/-- The row a call names. -/
def Call.key? : Call → Option RowKey
  | .fetch _ key | .insert _ key _ | .update _ key _ => some key
  | .begin | .commit _ | .rollback _ | .audit .. => none

/-- The audit record a call carries. -/
def Call.record? : Call → Option AuditRecord
  | .audit _ record => some record
  | _ => none

/-- The row an event wrote: it was inserted or updated, and the call went through. -/
def Event.wrote? : Event → Option RowKey
  | ⟨.insert _ key _, .ok _⟩ | ⟨.update _ key _, .ok _⟩ => some key
  | _ => none

/-- What a call is answered. The answer to a `begin` is the number of the transaction, which is a
matter of the schedule, and does not count. -/
abbrev Reply : Type := Except Failure (Option Row)

/-- What the call was answered: the row that a fetch found, and of any other call whether it went
through. -/
def Event.reply : Event → Reply
  | ⟨.fetch _ _, answer⟩ => answer
  | ⟨_, answer⟩ => answer.map fun _ => none

/-- A transaction laid down beforehand. -/
structure Script where
  /-- Its calls but for the first and the last. They are made under the number that the transaction
  is given, whatever number is written in them. -/
  body : List Call
  inner : ∀ c ∈ body, c.isInner = true
  /-- Whether it ends in a commit; else it is rolled back. -/
  commits : Bool

namespace Script

/-- The last call. -/
def ending (p : Script) (tx : TxId) : Call := if p.commits then .commit tx else .rollback tx

/-- All calls of the transaction. -/
def calls (p : Script) (tx : TxId) : List Call :=
  .begin :: (p.body.map (·.within tx) ++ [p.ending tx])

/-- Whether a row is named in one of the calls. -/
def Names (p : Script) (key : RowKey) : Prop := ∃ c ∈ p.body, c.key? = some key

instance (p : Script) : DecidablePred p.Names :=
  fun key => inferInstanceAs (Decidable (∃ c ∈ p.body, c.key? = some key))

/-- The audit records, in order. -/
def records (p : Script) : List AuditRecord := p.body.filterMap Call.record?

end Script

/-! ## Schedules -/

section Schedules

variable {ι : Type}

/-- Some scripts took turns in a transcript, each under a number of its own, and nobody else did
anything. -/
structure Interleaves (scripts : ι → Script) (number : ι → TxId) (events : List Event) : Prop where
  distinct : Function.Injective number
  calls : ∀ i, (events.filter (·.tx? = some (number i))).map (·.call) =
    (scripts i).calls (number i)
  only : ∀ e ∈ events, ∃ i, e.tx? = some (number i)

/-- No row that one of the scripts managed to write is named by another. -/
def Apart (scripts : ι → Script) (number : ι → TxId) (events : List Event) : Prop :=
  ∀ e ∈ events, ∀ key ∈ e.wrote?, ∀ i, e.tx? ≠ some (number i) → ¬ (scripts i).Names key

/-- The calls of a transaction and what they were answered, in order. -/
def exchangesOf (tx : TxId) (events : List Event) : List (Call × Reply) :=
  (events.filter (·.tx? = some tx)).map fun e => (e.call, e.reply)

/-- What the calls of a transaction were answered, in order. -/
def repliesTo (tx : TxId) (events : List Event) : List Reply := (exchangesOf tx events).map (·.2)

end Schedules

/-! ## A transaction on its own -/

/-- The rows as a transaction sees them that has staged some changes. -/
def overlaid (rows : RowKey → Option Row) (staged : List Change) (key : RowKey) : Option Row :=
  (imageIn staged key).or (rows key)

/-- What a call is answered when rows look as given. -/
def Call.replyOn (visible : RowKey → Option Row) : Call → Reply
  | .fetch _ key => .ok (visible key)
  | .insert _ key _ =>
    match visible key with
    | none => .ok none
    | some _ => .error (.execution (key.text ++ " already exists"))
  | .update _ key fields =>
    match visible key with
    | none => .error (.notFound key.table key.id)
    | some old => (Store.overwrite key old fields).map fun _ => none
  | _ => .ok none

@[simp] theorem Call.replyOn_within (tx : TxId) (c : Call) (visible : RowKey → Option Row) :
    (c.within tx).replyOn visible = c.replyOn visible := by
  cases c <;> rfl

/-- What calls stage on given committed rows, after some changes. -/
def stagesOn (rows : RowKey → Option Row) : List Change → List Call → List Change
  | staged, [] => staged
  | staged, c :: rest =>
    stagesOn rows (staged ++ (c.changeOn (overlaid rows staged)).toList) rest

namespace Script

/-- The calls that are left to a transaction which has staged some changes, each with what it is
answered if the transaction has the given committed rows to itself. -/
def exchanges (p : Script) (rows : RowKey → Option Row) (tx : TxId) :
    List Change → List Call → List (Call × Reply)
  | _, [] => [(p.ending tx, .ok none)]
  | staged, c :: rest =>
    (c.within tx, c.replyOn (overlaid rows staged)) ::
      p.exchanges rows tx (staged ++ (c.changeOn (overlaid rows staged)).toList) rest

/-- The whole of it. -/
def whole (p : Script) (rows : RowKey → Option Row) (tx : TxId) : List (Call × Reply) :=
  (.begin, .ok none) :: p.exchanges rows tx [] p.body

/-- What the transaction has staged when it comes to its end. -/
def staged (p : Script) (rows : RowKey → Option Row) : List Change := stagesOn rows [] p.body

theorem exchanges_calls (p : Script) (rows : RowKey → Option Row) (tx : TxId)
    (staged : List Change) (left : List Call) :
    (p.exchanges rows tx staged left).map (·.1) = left.map (·.within tx) ++ [p.ending tx] := by
  induction left generalizing staged with
  | nil => rfl
  | cons c rest ih => rw [exchanges, List.map_cons, ih, List.map_cons, List.cons_append]

theorem whole_calls (p : Script) (rows : RowKey → Option Row) (tx : TxId) :
    (p.whole rows tx).map (·.1) = p.calls tx := by
  rw [whole, List.map_cons, exchanges_calls, calls]

/-- The number of the transaction has no part in what it is answered. -/
theorem exchanges_replies (p : Script) (rows : RowKey → Option Row) (tx tx' : TxId)
    (staged : List Change) (left : List Call) :
    (p.exchanges rows tx staged left).map (·.2) = (p.exchanges rows tx' staged left).map (·.2) := by
  induction left generalizing staged with
  | nil => rfl
  | cons c rest ih => simp only [exchanges, List.map_cons, ih]

theorem whole_replies (p : Script) (rows : RowKey → Option Row) (tx tx' : TxId) :
    (p.whole rows tx).map (·.2) = (p.whole rows tx').map (·.2) := by
  rw [whole, List.map_cons, exchanges_replies p rows tx tx', whole, List.map_cons]

theorem ending_mem_whole (p : Script) (rows : RowKey → Option Row) (tx : TxId) :
    (p.ending tx, .ok none) ∈ p.whole rows tx := by
  have hleft (staged : List Change) (left : List Call) :
      (p.ending tx, .ok none) ∈ p.exchanges rows tx staged left := by
    induction left generalizing staged with
    | nil => exact List.mem_singleton_self _
    | cons c rest ih => exact List.mem_cons_of_mem _ (ih _)
  exact List.mem_cons_of_mem _ (hleft [] p.body)

end Script

/-- A call that stages an image of a row names the row. -/
theorem Call.key?_of_changeOn {c : Call} {visible : RowKey → Option Row} {change : Change}
    {key : RowKey} (h : c.changeOn visible = some change) (himage : change.imageOf? key ≠ none) :
    c.key? = some key := by
  cases c with
  | insert tx k row =>
    by_cases hk : k = key
    · rw [Call.key?, hk]
    · simp only [Call.changeOn] at h
      split at h
      · rw [← Option.some.inj h] at himage
        simp [Change.imageOf?, Change.written?, hk] at himage
      · cases h
  | update tx k fields =>
    by_cases hk : k = key
    · rw [Call.key?, hk]
    · obtain ⟨old, -, hrow⟩ := Option.bind_eq_some_iff.1 h
      obtain ⟨row, -, rfl⟩ := Option.map_eq_some_iff.1 hrow
      simp [Change.imageOf?, Change.written?, hk] at himage
  | audit tx record =>
    rw [← Option.some.inj h] at himage
    exact absurd rfl himage
  | _ => cases h

/-- Every audit record is staged, whatever becomes of the rows. -/
theorem auditsIn_changeOn {c : Call} (visible : RowKey → Option Row) :
    auditsIn (c.changeOn visible).toList = c.record?.toList := by
  cases c with
  | insert tx key row =>
    simp only [Call.changeOn]
    split <;> rfl
  | update tx key fields =>
    simp only [Call.changeOn]
    cases visible key with
    | none => rfl
    | some old =>
      rw [Option.bind_some]
      cases Store.overwrite key old fields <;> rfl
  | _ => rfl

theorem auditsIn_stagesOn (rows : RowKey → Option Row) (staged : List Change) (left : List Call) :
    auditsIn (stagesOn rows staged left) = auditsIn staged ++ left.filterMap Call.record? := by
  induction left generalizing staged with
  | nil => simp [stagesOn]
  | cons c rest ih =>
    rw [stagesOn, ih, auditsIn_append, auditsIn_changeOn, List.append_assoc, List.filterMap_cons]
    cases c.record? <;> rfl

theorem Script.auditsIn_staged (p : Script) (rows : RowKey → Option Row) :
    auditsIn (p.staged rows) = p.records := by
  rw [staged, auditsIn_stagesOn, auditsIn_nil, List.nil_append, records]

/-- A row is staged only if a call names it. -/
theorem names_of_imageIn {rows : RowKey → Option Row} {staged : List Change} {left : List Call}
    {key : RowKey} (h : imageIn (stagesOn rows staged left) key ≠ none) :
    imageIn staged key ≠ none ∨ ∃ c ∈ left, c.key? = some key := by
  induction left generalizing staged with
  | nil => exact .inl h
  | cons c rest ih =>
    rcases ih h with hstaged | ⟨d, hd, hkey⟩
    · rw [imageIn_append, Ne, Option.or_eq_none_iff, Classical.not_and_iff_not_or_not] at hstaged
      refine hstaged.symm.imp_right fun himage => ⟨c, List.mem_cons_self, ?_⟩
      cases hchange : c.changeOn (overlaid rows staged) with
      | none =>
        rw [hchange] at himage
        exact absurd rfl himage
      | some change =>
        rw [hchange, Option.toList_some, ← List.nil_append [change], imageIn_snoc] at himage
        exact Call.key?_of_changeOn hchange (by simpa using himage)
    · exact .inr ⟨d, List.mem_cons_of_mem c hd, hkey⟩

theorem Script.names_of_staged {p : Script} {rows : RowKey → Option Row} {key : RowKey}
    (h : imageIn (p.staged rows) key ≠ none) : p.Names key := by
  rcases names_of_imageIn h with hnil | hnames
  · exact absurd rfl hnil
  · exact hnames

/-! ## One call of a run -/

namespace Store

variable {s s' : Store} {tx : TxId} {t : Transaction} {c : Call} {answer : Except Failure c.Answer}

/-- The transaction after a call: it has looked at the row, and it has staged what the call stages
on the rows it sees. -/
def noted (s : Store) (t : Transaction) (c : Call) : Transaction :=
  match c.changeOn (s.seen t) with
  | some change => (s.prepared t c).stage change
  | none => s.prepared t c

theorem changes_noted (s : Store) (t : Transaction) (c : Call) :
    (s.noted t c).changes = t.changes ++ (c.changeOn (s.seen t)).toList := by
  unfold noted
  cases c.changeOn (s.seen t) with
  | none => rw [changes_prepared, Option.toList_none, List.append_nil]
  | some change => rw [Transaction.stage_changes, changes_prepared, Option.toList_some]

/-- A call adds to the pins of its transaction the stamp of the row it names, and no other. -/
theorem get?_bases_noted (hs : s.Sound) (hopen : s.transactions.get? tx = some t) {key : RowKey}
    {base : Option Nat} (h : (s.noted t c).bases.get? key = some base) :
    t.bases.get? key = some base ∨ c.key? = some key ∧ base = s.stamp? key := by
  have hprepared : (s.noted t c).bases = (s.prepared t c).bases := by
    unfold noted
    cases c.changeOn (s.seen t) <;> rfl
  have htouched {k : RowKey} (hk : (s.touched t k).bases.get? key = some base) :
      t.bases.get? key = some base ∨ k = key ∧ base = s.stamp? key := by
    rw [get?_bases_touched hs hopen] at hk
    by_cases hkey : k = key
    · subst hkey
      rw [if_pos rfl] at hk
      cases hold : t.bases.get? k with
      | some old => exact .inl (by rw [hold] at hk; exact hk)
      | none => exact .inr ⟨rfl, by rw [hold] at hk; exact (Option.some.inj hk).symm⟩
    · rw [if_neg hkey] at hk
      exact .inl hk
  rw [hprepared] at h
  cases c with
  | fetch _ k => exact (htouched h).imp_right fun hk => ⟨congrArg some hk.1, hk.2⟩
  | insert _ k => exact (htouched h).imp_right fun hk => ⟨congrArg some hk.1, hk.2⟩
  | update _ k => exact (htouched h).imp_right fun hk => ⟨congrArg some hk.1, hk.2⟩
  | _ => exact .inl h

/-- A call in an open transaction is answered by the rows that the transaction sees. -/
theorem Effect.of_inner (h : Effect s c answer s') (hinner : c.isInner = true)
    (htx : c.tx? = some tx) (hopen : s.transactions.get? tx = some t) :
    Event.reply ⟨c, answer⟩ = c.replyOn (s.seen t) ∧ s' = s.holding tx (s.noted t c) := by
  cases h with
  | unknown _ tx' htx' hclosed =>
    obtain rfl := Option.some.inj (htx.symm.trans htx')
    rw [hopen] at hclosed
    cases hclosed
  | fetched _ key u hu =>
    obtain rfl := Option.some.inj htx
    obtain rfl := Option.some.inj (hopen.symm.trans hu)
    exact ⟨rfl, rfl⟩
  | inserted _ key row u hu hseen =>
    obtain rfl := Option.some.inj htx
    obtain rfl := Option.some.inj (hopen.symm.trans hu)
    constructor
    · simp only [Call.replyOn, hseen]
      rfl
    · simp only [noted, Call.changeOn, if_pos hseen, prepared]
  | duplicate _ key row old u hu hseen =>
    obtain rfl := Option.some.inj htx
    obtain rfl := Option.some.inj (hopen.symm.trans hu)
    constructor
    · simp only [Call.replyOn, hseen]
      rfl
    · simp only [noted, Call.changeOn, hseen, reduceCtorEq, if_false, prepared]
  | updated _ key fields old row u hu hseen hrow =>
    obtain rfl := Option.some.inj htx
    obtain rfl := Option.some.inj (hopen.symm.trans hu)
    constructor
    · simp only [Call.replyOn, hseen, hrow]
      rfl
    · simp only [noted, Call.changeOn, hseen, hrow, Option.bind_some, prepared]
      rfl
  | missing _ key fields u hu hseen =>
    obtain rfl := Option.some.inj htx
    obtain rfl := Option.some.inj (hopen.symm.trans hu)
    constructor
    · simp only [Call.replyOn, hseen]
      rfl
    · simp only [noted, Call.changeOn, hseen, Option.bind_none, prepared]
  | misfit _ key fields old failure u hu hseen hrow =>
    obtain rfl := Option.some.inj htx
    obtain rfl := Option.some.inj (hopen.symm.trans hu)
    constructor
    · simp only [Call.replyOn, hseen, hrow]
      rfl
    · simp only [noted, Call.changeOn, hseen, hrow, Option.bind_some, prepared]
      rfl
  | audited _ record u hu =>
    obtain rfl := Option.some.inj htx
    obtain rfl := Option.some.inj (hopen.symm.trans hu)
    exact ⟨rfl, rfl⟩
  | opened => cases hinner
  | committed => cases hinner
  | conflicted => cases hinner
  | rolledBack => cases hinner

/-- An image that a call stages is a row that it wrote. -/
theorem Effect.wrote?_eq (h : Effect s c answer s') (htx : c.tx? = some tx)
    (hopen : s.transactions.get? tx = some t) {key : RowKey}
    (himage : imageIn (c.changeOn (s.seen t)).toList key ≠ none) :
    Event.wrote? ⟨c, answer⟩ = some key := by
  cases hchange : c.changeOn (s.seen t) with
  | none =>
    rw [hchange] at himage
    exact absurd rfl himage
  | some change =>
    rw [hchange, Option.toList_some, ← List.nil_append [change], imageIn_snoc] at himage
    have hkey : c.key? = some key := Call.key?_of_changeOn hchange (by simpa using himage)
    have hok := (h.of_changeOn htx hopen hchange).1
    cases answer with
    | error failure => cases hok
    | ok answer =>
      cases c with
      | insert => exact hkey
      | update => exact hkey
      | fetch => cases hchange
      | _ => cases hkey

end Store

/-! ## How far a script has come -/

/-- How a script stands in a run that began on a store `s` and has come to a store `u`, in terms of
the exchanges that are left to it. Rows for which others have a use are `foreign`. -/
inductive Script.Stands (p : Script) (tx : TxId) (s u : Store) (foreign : RowKey → Prop) :
    List (Call × Reply) → Prop where
  /-- It has not begun, and the rows it will name are those it began on. -/
  | waiting (hrows : ∀ key, p.Names key → u.rows.get? key = s.rows.get? key) :
      Stands p tx s u foreign (p.whole s.committedRow? tx)
  /-- It is open, and has come as far as it would have come alone. -/
  | working (t : Transaction) (left : List Call)
      (hrows : ∀ key, p.Names key → u.rows.get? key = s.rows.get? key)
      (hopen : u.transactions.get? tx = some t)
      (hpins : ∀ key base, t.bases.get? key = some base → p.Names key ∧ base = s.stamp? key)
      (hown : ∀ key, foreign key → imageIn t.changes key = none)
      (hleft : ∀ c ∈ left, c ∈ p.body)
      (hstaged : stagesOn s.committedRow? t.changes left = p.staged s.committedRow?) :
      Stands p tx s u foreign (p.exchanges s.committedRow? tx t.changes left)
  | ended : Stands p tx s u foreign []

theorem Call.key?_within (tx : TxId) (c : Call) : (c.within tx).key? = c.key? := by
  cases c <;> rfl

theorem Call.isInner_within (tx : TxId) (c : Call) : (c.within tx).isInner = c.isInner := by
  cases c <;> rfl

theorem Call.tx?_of_inner {tx : TxId} {c : Call} (h : c.isInner = true) :
    (c.within tx).tx? = some tx := by
  cases c with
  | begin => cases h
  | _ => rfl

/-- A call stages what it stages by the one row it names. -/
theorem Call.changeOn_eq {c : Call} {visible visible' : RowKey → Option Row}
    (h : ∀ key, c.key? = some key → visible' key = visible key) :
    c.changeOn visible' = c.changeOn visible := by
  cases c with
  | insert _ key => simp only [Call.changeOn, h key rfl]
  | update _ key => simp only [Call.changeOn, h key rfl]
  | _ => rfl

/-- A call is answered by the one row it names. -/
theorem Call.replyOn_eq {c : Call} {visible visible' : RowKey → Option Row}
    (h : ∀ key, c.key? = some key → visible' key = visible key) :
    c.replyOn visible' = c.replyOn visible := by
  cases c with
  | fetch _ key => simp only [Call.replyOn, h key rfl]
  | insert _ key => simp only [Call.replyOn, h key rfl]
  | update _ key => simp only [Call.replyOn, h key rfl]
  | _ => rfl

namespace Script.Stands

variable {p : Script} {tx : TxId} {s u u' : Store} {foreign : RowKey → Prop}
  {due : List (Call × Reply)}

/-- A script stays where it is as long as others leave its transaction and its rows alone. -/
theorem frame (h : p.Stands tx s u foreign due)
    (hrows : ∀ key, p.Names key → u'.rows.get? key = u.rows.get? key)
    (hopen : u'.transactions.get? tx = u.transactions.get? tx) : p.Stands tx s u' foreign due := by
  cases h with
  | waiting h => exact .waiting fun key hkey => (hrows key hkey).trans (h key hkey)
  | working t left h hheld hpins hown hleft hstaged =>
    exact .working t left (fun key hkey => (hrows key hkey).trans (h key hkey))
      (hopen.trans hheld) hpins hown hleft hstaged
  | ended => exact .ended

/-- What a script does to the store with one call, as far as others can tell: nothing, unless the
call is a commit, which goes through. -/
inductive Shows (p : Script) (tx : TxId) (s u : Store) (foreign : RowKey → Prop) :
    Event → List (Call × Reply) → Store → Prop where
  | nothing (e : Event) (rest : List (Call × Reply)) (u' : Store) (hcommits : e.commits? = none)
      (hrows : u'.rows = u.rows) (haudits : u'.audits = u.audits)
      (hothers : ∀ other, other ≠ tx → u'.transactions.get? other = u.transactions.get? other) :
      Shows p tx s u foreign e rest u'
  | published (hcommits : p.commits = true)
      (hown : ∀ key, foreign key → imageIn (p.staged s.committedRow?) key = none) :
      Shows p tx s u foreign ⟨.commit tx, .ok ()⟩ [] (u.publish tx (p.staged s.committedRow?))

/-- Others keep their transactions, and the rows they have a use for. -/
theorem Shows.spares {e : Event} {rest : List (Call × Reply)}
    (h : Shows p tx s u foreign e rest u') (other : TxId) (hother : other ≠ tx) :
    (∀ key, foreign key → u'.rows.get? key = u.rows.get? key) ∧
      u'.transactions.get? other = u.transactions.get? other := by
  cases h with
  | nothing e rest u' hcommits hrows haudits hothers =>
    exact ⟨fun key _ => by rw [hrows], hothers other hother⟩
  | published hcommits hown =>
    constructor
    · intro key hkey
      rw [Store.get?_rows_publish, hown key hkey]
      rfl
    · rw [Store.get?_publish, if_neg (Ne.symm hother)]

/-- The first call of a script. -/
theorem begins (hrows : ∀ key, p.Names key → u.rows.get? key = s.rows.get? key)
    (htx : (⟨u.nextTx⟩ : TxId) = tx) :
    p.Stands tx s (u.step .begin).2 foreign (p.exchanges s.committedRow? tx [] p.body) ∧
      Shows p tx s u foreign ⟨.begin, (u.step .begin).1⟩
        (p.exchanges s.committedRow? tx [] p.body) (u.step .begin).2 := by
  subst htx
  have hget (other : TxId) : (u.step .begin).2.transactions.get? other =
      if (⟨u.nextTx⟩ : TxId) = other then some (.start ⟨u.nextTx⟩)
      else u.transactions.get? other := Store.get?_holding u _ _ other
  constructor
  · refine .working (.start ⟨u.nextTx⟩) p.body hrows ?_ ?_ ?_ ?_ rfl
    · rw [hget, if_pos rfl]
    · intro key base hbase
      cases hbase
    · intro key _
      rfl
    · intro c hc
      exact hc
  · refine .nothing _ _ _ rfl rfl rfl fun other hother => ?_
    rw [hget, if_neg (Ne.symm hother)]

/-- A call of an open script finds the rows as they were when the script began, but for what the
script staged itself. -/
theorem works (hu : u.Sound) {t : Transaction} {c : Call} {left : List Call}
    (hrows : ∀ key, p.Names key → u.rows.get? key = s.rows.get? key)
    (hopen : u.transactions.get? tx = some t)
    (hpins : ∀ key base, t.bases.get? key = some base → p.Names key ∧ base = s.stamp? key)
    (hown : ∀ key, foreign key → imageIn t.changes key = none)
    (hleft : ∀ d ∈ c :: left, d ∈ p.body)
    (hstaged : stagesOn s.committedRow? t.changes (c :: left) = p.staged s.committedRow?)
    (hwrote : ∀ key, Event.wrote? ⟨c.within tx, (u.step (c.within tx)).1⟩ = some key →
      ¬ foreign key) :
    Event.reply ⟨c.within tx, (u.step (c.within tx)).1⟩ =
        c.replyOn (overlaid s.committedRow? t.changes) ∧
      p.Stands tx s (u.step (c.within tx)).2 foreign (p.exchanges s.committedRow? tx
        (t.changes ++ (c.changeOn (overlaid s.committedRow? t.changes)).toList) left) ∧
      Shows p tx s u foreign ⟨c.within tx, (u.step (c.within tx)).1⟩ (p.exchanges s.committedRow? tx
        (t.changes ++ (c.changeOn (overlaid s.committedRow? t.changes)).toList) left)
        (u.step (c.within tx)).2 := by
  have hmem : c ∈ p.body := hleft c List.mem_cons_self
  have hinner : (c.within tx).isInner = true := (Call.isInner_within tx c).trans (p.inner c hmem)
  have htx : (c.within tx).tx? = some tx := Call.tx?_of_inner (p.inner c hmem)
  have heffect := Store.effect_step hu (c.within tx)
  obtain ⟨hreply, hend⟩ := heffect.of_inner hinner htx hopen
  -- The one row that the call names has not moved.
  have hseen : ∀ key, (c.within tx).key? = some key →
      u.seen t key = overlaid s.committedRow? t.changes key := by
    intro key hkey
    rw [Call.key?_within] at hkey
    rw [Store.seen, hu.stagedRow? hopen, overlaid, Store.committedRow?, Store.committedRow?,
      hrows key ⟨c, hmem, hkey⟩]
  have hchange : (c.within tx).changeOn (u.seen t) =
      c.changeOn (overlaid s.committedRow? t.changes) := by
    rw [Call.changeOn_eq hseen, Call.changeOn_within]
  have hnoted : (u.noted t (c.within tx)).changes =
      t.changes ++ (c.changeOn (overlaid s.committedRow? t.changes)).toList := by
    rw [Store.changes_noted, hchange]
  have hheld : (u.step (c.within tx)).2.transactions.get? tx = some (u.noted t (c.within tx)) := by
    rw [hend, Store.get?_holding, if_pos rfl]
  refine ⟨?_, ?_, ?_⟩
  · rw [hreply, Call.replyOn_eq hseen, Call.replyOn_within]
  · rw [← hnoted]
    refine .working _ left ?_ hheld ?_ ?_ ?_ ?_
    · intro key hkey
      rw [hend, Store.holding_rows]
      exact hrows key hkey
    · intro key base hbase
      rcases Store.get?_bases_noted hu hopen hbase with hbase | ⟨hkey, rfl⟩
      · exact hpins key base hbase
      · rw [Call.key?_within] at hkey
        refine ⟨⟨c, hmem, hkey⟩, ?_⟩
        rw [Store.stamp?, Store.stamp?, hrows key ⟨c, hmem, hkey⟩]
    · intro key hforeign
      rw [Store.changes_noted, imageIn_append, hown key hforeign, Option.or_none]
      by_contra himage
      exact hwrote key (heffect.wrote?_eq htx hopen himage) hforeign
    · intro d hd
      exact hleft d (List.mem_cons_of_mem c hd)
    · rw [hnoted]
      exact hstaged
  · refine .nothing _ _ _ ?_ ?_ ?_ ?_
    · cases c with
      | commit => cases hinner
      | _ => rfl
    · rw [hend, Store.holding_rows]
    · rw [hend, Store.holding_audits]
    · intro other hother
      rw [hend, Store.get?_holding, if_neg (Ne.symm hother)]

/-- The last call of a script. A commit goes through: whatever the script wrote it had looked at, and
nobody has moved it. -/
theorem ends (hu : u.Sound) {t : Transaction}
    (hrows : ∀ key, p.Names key → u.rows.get? key = s.rows.get? key)
    (hopen : u.transactions.get? tx = some t)
    (hpins : ∀ key base, t.bases.get? key = some base → p.Names key ∧ base = s.stamp? key)
    (hown : ∀ key, foreign key → imageIn t.changes key = none)
    (hstaged : t.changes = p.staged s.committedRow?) :
    Event.reply ⟨p.ending tx, (u.step (p.ending tx)).1⟩ = .ok none ∧
      Shows p tx s u foreign ⟨p.ending tx, (u.step (p.ending tx)).1⟩ []
        (u.step (p.ending tx)).2 := by
  by_cases hcommits : p.commits = true
  · rw [show p.ending tx = .commit tx from if_pos hcommits]
    rcases Store.commit_of_open hu hopen with ⟨-, hcommit⟩ | ⟨key, -, hstale, -⟩
    · have hstep : u.step (.commit tx) = (.ok (), u.publish tx t.changes) := hcommit
      rw [hstep]
      rw [hstaged] at hown ⊢
      exact ⟨rfl, .published hcommits hown⟩
    · refine absurd (fun base hbase => ?_) hstale
      obtain ⟨hnames, rfl⟩ := hpins key base hbase
      rw [Store.stamp?, Store.stamp?, hrows key hnames]
  · rw [show p.ending tx = .rollback tx from if_neg hcommits]
    have heffect := Store.effect_step hu (.rollback tx)
    generalize (u.step (.rollback tx)).1 = answer at heffect ⊢
    generalize (u.step (.rollback tx)).2 = u' at heffect ⊢
    cases heffect with
    | unknown _ other hother hclosed =>
      obtain rfl := Option.some.inj hother
      rw [hopen] at hclosed
      cases hclosed
    | rolledBack _ t' hopen' =>
      refine ⟨rfl, .nothing _ _ _ rfl rfl rfl fun other hother => ?_⟩
      rw [Store.get?_without, if_neg (Ne.symm hother)]

/-- **One call of a script.** It is answered as it would be alone, and it takes the script one exchange
further. -/
theorem next (hu : u.Sound) (h : p.Stands tx s u foreign due) {c : Call} {later : List Call}
    (hdue : due.map (·.1) = c :: later) (htx : Event.tx? ⟨c, (u.step c).1⟩ = some tx)
    (hwrote : ∀ key, Event.wrote? ⟨c, (u.step c).1⟩ = some key → ¬ foreign key) :
    ∃ rest, due = (c, Event.reply ⟨c, (u.step c).1⟩) :: rest ∧
      p.Stands tx s (u.step c).2 foreign rest ∧
      Shows p tx s u foreign ⟨c, (u.step c).1⟩ rest (u.step c).2 := by
  cases h with
  | waiting hrows =>
    rw [Script.whole, List.map_cons] at hdue
    obtain ⟨rfl, -⟩ := List.cons.inj hdue
    exact ⟨_, rfl, begins hrows (Option.some.inj htx)⟩
  | working t left hrows hopen hpins hown hleft hstaged =>
    cases left with
    | nil =>
      rw [Script.exchanges, List.map_cons] at hdue
      obtain ⟨rfl, -⟩ := List.cons.inj hdue
      obtain ⟨hreply, hshows⟩ := ends hu hrows hopen hpins hown hstaged
      exact ⟨[], by rw [Script.exchanges, hreply], .ended, hshows⟩
    | cons d left =>
      rw [Script.exchanges, List.map_cons] at hdue
      obtain ⟨rfl, -⟩ := List.cons.inj hdue
      obtain ⟨hreply, hstands, hshows⟩ := works hu hrows hopen hpins hown hleft hstaged hwrote
      exact ⟨_, by rw [Script.exchanges, hreply], hstands, hshows⟩
  | ended => cases hdue

end Script.Stands

/-! ## Whole runs -/

section Runs

variable {ι : Type} {scripts : ι → Script} {number : ι → TxId} {s u : Store}

/-- The rows that scripts other than a given one name. -/
def foreignTo (scripts : ι → Script) (i : ι) (key : RowKey) : Prop :=
  ∃ j, j ≠ i ∧ (scripts j).Names key

/-- What some scripts did that were committed one after another, each with all it staged. -/
def publishedBy (scripts : ι → Script) (s : Store) (order : List ι) : List Change :=
  order.flatMap fun i => (scripts i).staged s.committedRow?

/-- The rest of a run in which every script goes through the exchanges that were left to it, and
some are committed in a certain order. -/
structure Completes (scripts : ι → Script) (number : ι → TxId) (s u : Store)
    (due : ι → List (Call × Reply)) (calls : List Call) (order : List ι) : Prop where
  exchanges : ∀ i, exchangesOf (number i) (u.transcript calls) = due i
  committed : committedIn (u.transcript calls) = order.map number
  once : order.Nodup
  pending : ∀ i ∈ order, due i ≠ []
  commits : ∀ i ∈ order, (scripts i).commits = true
  own : ∀ i ∈ order, ∀ key, foreignTo scripts i key →
    imageIn ((scripts i).staged s.committedRow?) key = none
  rows : ∀ key, (u.run calls).committedRow? key =
    (imageIn (publishedBy scripts s order) key).or (u.committedRow? key)
  audits : (u.run calls).audits = u.audits ++ auditsIn (publishedBy scripts s order)

section
variable [DecidableEq ι] {c : Call} {calls : List Call} {order : List ι}
  {due : ι → List (Call × Reply)} {i : ι} {left : List (Call × Reply)}

/-- With one more call in front, each script still has the exchanges that are due. -/
theorem Completes.exchanges_cons (hnumber : Function.Injective number)
    (hi : Event.tx? ⟨c, (u.step c).1⟩ = some (number i))
    (hleft : due i = (c, Event.reply ⟨c, (u.step c).1⟩) :: left)
    (h : Completes scripts number s (u.step c).2 (Function.update due i left) calls order)
    (j : ι) : exchangesOf (number j) (u.transcript (c :: calls)) = due j := by
  have hlater := h.exchanges j
  by_cases hj : j = i
  · rw [hj, Function.update_self] at hlater
    rw [hj, hleft, ← hlater, exchangesOf, Store.transcript,
      List.filter_cons_of_pos (by simpa using hi)]
    rfl
  · have hother : Event.tx? ⟨c, (u.step c).1⟩ ≠ some (number j) := by
      rw [hi]
      exact fun heq => hj (hnumber (Option.some.inj heq)).symm
    rw [Function.update_of_ne hj] at hlater
    rw [← hlater, exchangesOf, Store.transcript, List.filter_cons_of_neg (by simpa using hother),
      exchangesOf]

/-- What commits later had something due before the call as well. -/
theorem Completes.pending_cons
    (hleft : due i = (c, Event.reply ⟨c, (u.step c).1⟩) :: left)
    (h : Completes scripts number s (u.step c).2 (Function.update due i left) calls order) :
    ∀ j ∈ order, due j ≠ [] := by
  intro j hmem hnil
  have hlater := h.pending j hmem
  by_cases hj : j = i
  · rw [hj, hleft] at hnil
    cases hnil
  · rw [Function.update_of_ne hj] at hlater
    exact hlater hnil

/-- One more call in front of such a rest. -/
theorem Completes.cons (hnumber : Function.Injective number)
    (hi : Event.tx? ⟨c, (u.step c).1⟩ = some (number i))
    (hleft : due i = (c, Event.reply ⟨c, (u.step c).1⟩) :: left)
    (hshows : Script.Stands.Shows (scripts i) (number i) s u (foreignTo scripts i)
      ⟨c, (u.step c).1⟩ left (u.step c).2)
    (h : Completes scripts number s (u.step c).2 (Function.update due i left) calls order) :
    ∃ order', Completes scripts number s u due (c :: calls) order' := by
  have hexchanges := h.exchanges_cons hnumber hi hleft
  have hpending := h.pending_cons hleft
  have hcommitted : committedIn (u.transcript (c :: calls)) =
      (Event.commits? ⟨c, (u.step c).1⟩).toList ++ order.map number := by
    rw [← h.committed, committedIn, Store.transcript, List.filterMap_cons]
    cases Event.commits? ⟨c, (u.step c).1⟩ <;> rfl
  have hrows : ∀ key, (u.run (c :: calls)).committedRow? key =
      (imageIn (publishedBy scripts s order) key).or ((u.step c).2.committedRow? key) := h.rows
  have haudits : (u.run (c :: calls)).audits =
      (u.step c).2.audits ++ auditsIn (publishedBy scripts s order) := h.audits
  have honce : left = [] → i ∉ order := by
    intro hnil hmem
    refine h.pending i hmem ?_
    rw [Function.update_self, hnil]
  generalize (⟨c, (u.step c).1⟩ : Event) = e at hshows hcommitted hexchanges
  generalize (u.step c).2 = u' at hshows hrows haudits
  cases hshows with
  | nothing e left u' hcommits hrows' haudits' hothers =>
    rw [hcommits, Option.toList_none, List.nil_append] at hcommitted
    refine ⟨order, hexchanges, hcommitted, h.once, hpending, h.commits, h.own, ?_, ?_⟩
    · intro key
      rw [hrows, Store.committedRow?_congr hrows']
    · rw [haudits, haudits']
  | published hcommits hown =>
    refine ⟨i :: order, hexchanges, hcommitted, List.nodup_cons.2 ⟨honce rfl, h.once⟩, ?_, ?_, ?_,
      ?_, ?_⟩
    · rintro j (_ | ⟨_, hj⟩)
      · rw [hleft]
        exact List.cons_ne_nil _ _
      · exact hpending j hj
    · rintro j (_ | ⟨_, hj⟩)
      · exact hcommits
      · exact h.commits j hj
    · rintro j (_ | ⟨_, hj⟩)
      · exact hown
      · exact h.own j hj
    · intro key
      rw [hrows, Store.committedRow?_publish, publishedBy, publishedBy, List.flatMap_cons,
        imageIn_append, Option.or_assoc]
    · rw [haudits, Store.publish_audits, publishedBy, publishedBy, List.flatMap_cons,
        auditsIn_append, List.append_assoc]

end

/-- Scripts that keep off each other's rows go through the exchanges they would go through alone.
The induction is on the calls of the run; each belongs to one script, which takes a step, and the
others stand where they stood. -/
theorem exists_completes (hu : u.Sound) (hnumber : Function.Injective number)
    {due : ι → List (Call × Reply)}
    (hstands : ∀ i, (scripts i).Stands (number i) s u (foreignTo scripts i) (due i))
    {calls : List Call}
    (hcalls : ∀ i, ((u.transcript calls).filter (·.tx? = some (number i))).map (·.call) =
      (due i).map (·.1))
    (honly : ∀ e ∈ u.transcript calls, ∃ i, e.tx? = some (number i))
    (hapart : Apart scripts number (u.transcript calls)) :
    ∃ order, Completes scripts number s u due calls order := by
  classical
  induction calls generalizing u due with
  | nil =>
    have hnone (i : ι) : due i = [] := List.map_eq_nil_iff.1 (hcalls i).symm
    refine ⟨[], ⟨fun i => ?_, rfl, .nil, fun _ h => ?_, fun _ h => ?_, fun _ h => ?_, fun _ => rfl,
      ?_⟩⟩
    · rw [hnone]
      rfl
    · cases h
    · cases h
    · cases h
    · exact (List.append_nil _).symm
  | cons c rest ih =>
    obtain ⟨i, hi⟩ := honly _ List.mem_cons_self
    have hother {j : ι} (hj : j ≠ i) : Event.tx? ⟨c, (u.step c).1⟩ ≠ some (number j) := by
      rw [hi]
      exact fun h => hj (hnumber (Option.some.inj h)).symm
    have hdue : (due i).map (·.1) =
        c :: (((u.step c).2.transcript rest).filter (·.tx? = some (number i))).map (·.call) := by
      rw [← hcalls i, Store.transcript, List.filter_cons_of_pos (by simpa using hi)]
      rfl
    have hwrote : ∀ key, Event.wrote? ⟨c, (u.step c).1⟩ = some key →
        ¬ foreignTo scripts i key := by
      rintro key hkey ⟨j, hj, hnames⟩
      exact hapart _ List.mem_cons_self key hkey j (hother hj) hnames
    obtain ⟨left, hleft, hstep, hshows⟩ := (hstands i).next hu hdue hi hwrote
    -- The others stand where they stood.
    have hstands' : ∀ j, (scripts j).Stands (number j) s (u.step c).2 (foreignTo scripts j)
        (Function.update due i left j) := by
      intro j
      by_cases hj : j = i
      · rw [hj, Function.update_self]
        exact hstep
      · rw [Function.update_of_ne hj]
        obtain ⟨hrows, hopen⟩ := hshows.spares (number j) (fun h => hj (hnumber h))
        exact (hstands j).frame (fun key hkey => hrows key ⟨j, hj, hkey⟩) hopen
    have hcalls' : ∀ j, (((u.step c).2.transcript rest).filter
        (·.tx? = some (number j))).map (·.call) = (Function.update due i left j).map (·.1) := by
      intro j
      by_cases hj : j = i
      · rw [hj, Function.update_self]
        rw [hleft, List.map_cons] at hdue
        exact (List.cons.inj hdue).2.symm
      · rw [Function.update_of_ne hj, ← hcalls j, Store.transcript,
          List.filter_cons_of_neg (by simpa using hother hj)]
    obtain ⟨order, hrest⟩ := ih (hu.step c) hstands' hcalls'
      (fun e he => honly e (List.mem_cons_of_mem _ he))
      (fun e he => hapart e (List.mem_cons_of_mem _ he))
    exact hrest.cons hnumber hi hleft hshows

/-- Scripts that keep off each other's rows, from their begin to their end. -/
theorem exists_completes_whole (hs : s.Sound) {calls : List Call}
    (h : Interleaves scripts number (s.transcript calls))
    (hapart : Apart scripts number (s.transcript calls)) :
    ∃ order, Completes scripts number s s
      (fun i => (scripts i).whole s.committedRow? (number i)) calls order := by
  refine exists_completes hs h.distinct (fun i => .waiting fun key _ => rfl) (fun i => ?_) h.only
    hapart
  rw [Script.whole_calls]
  exact h.calls i

/-- Of scripts that ran from their begin to their end those are committed that are meant to be. -/
theorem Completes.mem_order_iff {calls : List Call} {order : List ι}
    (hnumber : Function.Injective number)
    (h : Completes scripts number s s (fun i => (scripts i).whole s.committedRow? (number i)) calls
      order) (i : ι) : i ∈ order ↔ (scripts i).commits = true := by
  refine ⟨h.commits i, fun hcommits => ?_⟩
  have hending := (scripts i).ending_mem_whole s.committedRow? (number i)
  rw [← h.exchanges i, Script.ending, if_pos hcommits] at hending
  obtain ⟨e, he, hcall⟩ := List.mem_map.1 hending
  obtain ⟨hcall, hreply⟩ := Prod.mk.inj hcall
  have hcommitted : e.commits? = some (number i) := by
    obtain ⟨c, answer⟩ := e
    obtain rfl : c = .commit (number i) := hcall
    cases answer with
    | error failure => cases hreply
    | ok _ => rfl
  have hmem : number i ∈ committedIn (s.transcript calls) :=
    List.mem_filterMap.2 ⟨e, (List.mem_filter.1 he).1, hcommitted⟩
  rw [h.committed] at hmem
  obtain ⟨j, hj, hnumbers⟩ := List.mem_map.1 hmem
  exact hnumber hnumbers ▸ hj

/-- In which order scripts are published makes no difference to a row that at most one of them
wrote. -/
theorem imageIn_publishedBy_perm {order order' : List ι} (hperm : order.Perm order') {key : RowKey}
    (hone : ∀ i ∈ order, ∀ j ∈ order, i ≠ j →
      imageIn ((scripts i).staged s.committedRow?) key = none ∨
        imageIn ((scripts j).staged s.committedRow?) key = none) :
    imageIn (publishedBy scripts s order) key = imageIn (publishedBy scripts s order') key := by
  induction hperm with
  | nil => rfl
  | cons i hperm ih =>
    rw [publishedBy, publishedBy, List.flatMap_cons, List.flatMap_cons, imageIn_append,
      imageIn_append]
    exact congrArg (Option.or · _) (ih fun j hj k hk =>
      hone j (List.mem_cons_of_mem i hj) k (List.mem_cons_of_mem i hk))
  | swap i j rest =>
    simp only [publishedBy, List.flatMap_cons, imageIn_append, Option.or_assoc]
    by_cases hij : i = j
    · rw [hij]
    · -- One of the two has no image, so they change places.
      have hnone := hone i (by simp) j (by simp) hij
      rcases hnone with hnone | hnone <;> simp only [hnone, Option.none_or, Option.or_none]
  | trans hperm _ ih ih' =>
    refine (ih hone).trans (ih' fun i hi j hj => ?_)
    exact hone i (hperm.mem_iff.2 hi) j (hperm.mem_iff.2 hj)

/-- A row that was written by one script is named by no other. -/
theorem Completes.image_unique {due : ι → List (Call × Reply)} {calls : List Call} {order : List ι}
    (h : Completes scripts number s u due calls order) {key : RowKey} :
    ∀ i ∈ order, ∀ j ∈ order, i ≠ j → imageIn ((scripts i).staged s.committedRow?) key = none ∨
      imageIn ((scripts j).staged s.committedRow?) key = none := by
  intro i hi j hj hij
  by_cases hnone : imageIn ((scripts i).staged s.committedRow?) key = none
  · exact .inl hnone
  · exact .inr (h.own j hj key ⟨i, hij, Script.names_of_staged hnone⟩)

theorem auditsIn_publishedBy (scripts : ι → Script) (s : Store) (order : List ι) :
    auditsIn (publishedBy scripts s order) = order.flatMap fun i => (scripts i).records := by
  induction order with
  | nil => rfl
  | cons i rest ih =>
    rw [publishedBy, List.flatMap_cons, auditsIn_append, Script.auditsIn_staged, List.flatMap_cons,
      ← ih, publishedBy]

/-- **Transactions on disjoint rows do not depend on the schedule.** Scripts take turns on a store in
two ways, and in neither is a row that one of them managed to write named by another. Then every call
gets the same answer, every commit goes through, the committed rows are the same, and the audit
logs hold the records of the same scripts, those of each together and in order, in the order of the
commits. -/
theorem independent_of_schedule (hs : s.Sound) {number' : ι → TxId} {calls calls' : List Call}
    (h : Interleaves scripts number (s.transcript calls))
    (h' : Interleaves scripts number' (s.transcript calls'))
    (hapart : Apart scripts number (s.transcript calls))
    (hapart' : Apart scripts number' (s.transcript calls')) :
    (∀ i, repliesTo (number i) (s.transcript calls) = repliesTo (number' i) (s.transcript calls')) ∧
      (∀ key, (s.run calls).committedRow? key = (s.run calls').committedRow? key) ∧
      ∃ order order' : List ι, order.Perm order' ∧
        (∀ i, i ∈ order ↔ (scripts i).commits = true) ∧
        committedIn (s.transcript calls) = order.map number ∧
        committedIn (s.transcript calls') = order'.map number' ∧
        (s.run calls).audits = s.audits ++ order.flatMap (fun i => (scripts i).records) ∧
        (s.run calls').audits = s.audits ++ order'.flatMap (fun i => (scripts i).records) ∧
        (s.run calls).audits.Perm (s.run calls').audits := by
  obtain ⟨order, hdone⟩ := exists_completes_whole hs h hapart
  obtain ⟨order', hdone'⟩ := exists_completes_whole hs h' hapart'
  have hmem := hdone.mem_order_iff h.distinct
  have hmem' := hdone'.mem_order_iff h'.distinct
  have hperm : order.Perm order' :=
    (List.perm_ext_iff_of_nodup hdone.once hdone'.once).2 fun i => (hmem i).trans (hmem' i).symm
  have haudits : (s.run calls).audits =
      s.audits ++ order.flatMap fun i => (scripts i).records := by
    rw [hdone.audits, auditsIn_publishedBy]
  have haudits' : (s.run calls').audits =
      s.audits ++ order'.flatMap fun i => (scripts i).records := by
    rw [hdone'.audits, auditsIn_publishedBy]
  refine ⟨fun i => ?_, fun key => ?_, order, order', hperm, hmem, hdone.committed,
    hdone'.committed, haudits, haudits', ?_⟩
  · rw [repliesTo, repliesTo, hdone.exchanges i, hdone'.exchanges i]
    exact (scripts i).whole_replies s.committedRow? (number i) (number' i)
  · rw [hdone.rows, hdone'.rows, imageIn_publishedBy_perm hperm hdone.image_unique]
  · rw [haudits, haudits']
    exact (hperm.flatMap_right _).append_left s.audits

end Runs

/-! ## Three clerks -/

/-- A store with one note. -/
def deskStore : Store :=
  Store.empty.run [.begin, .insert ⟨1⟩ ⟨"note", "n1"⟩ [.text "n1", .text "old"], .commit ⟨1⟩]

/-- One clerk changes the note that is there; one files a new note, tries to file it again and to
change one that is missing; one thinks better of it. -/
def deskScripts : Fin 3 → Script
  | 0 =>
    { body := [.fetch ⟨0⟩ ⟨"note", "n1"⟩, .update ⟨0⟩ ⟨"note", "n1"⟩ [(1, .text "new")],
        .audit ⟨0⟩ ⟨"ann", "ann", .update, "note", "n1", .empty⟩, .fetch ⟨0⟩ ⟨"note", "n1"⟩]
      inner := by decide
      commits := true }
  | 1 =>
    { body := [.insert ⟨0⟩ ⟨"note", "n2"⟩ [.text "n2"],
        .audit ⟨0⟩ ⟨"bob", "bob", .create, "note", "n2", .empty⟩,
        .insert ⟨0⟩ ⟨"note", "n2"⟩ [.text "again"], .update ⟨0⟩ ⟨"note", "n9"⟩ [(0, .text "x")],
        .audit ⟨0⟩ ⟨"bob", "ann", .create, "note", "n2", .empty⟩]
      inner := by decide
      commits := true }
  | 2 =>
    { body := [.insert ⟨0⟩ ⟨"note", "n3"⟩ [.text "n3"], .fetch ⟨0⟩ ⟨"note", "n9"⟩]
      inner := by decide
      commits := false }

/-- One of the ways in which they take turns. -/
def deskCalls : List Call :=
  [.begin, .begin, .fetch ⟨2⟩ ⟨"note", "n1"⟩, .insert ⟨3⟩ ⟨"note", "n2"⟩ [.text "n2"],
    .update ⟨2⟩ ⟨"note", "n1"⟩ [(1, .text "new")],
    .audit ⟨3⟩ ⟨"bob", "bob", .create, "note", "n2", .empty⟩, .begin,
    .audit ⟨2⟩ ⟨"ann", "ann", .update, "note", "n1", .empty⟩, .fetch ⟨2⟩ ⟨"note", "n1"⟩,
    .insert ⟨3⟩ ⟨"note", "n2"⟩ [.text "again"], .commit ⟨2⟩,
    .insert ⟨4⟩ ⟨"note", "n3"⟩ [.text "n3"], .update ⟨3⟩ ⟨"note", "n9"⟩ [(0, .text "x")],
    .audit ⟨3⟩ ⟨"bob", "ann", .create, "note", "n2", .empty⟩, .fetch ⟨4⟩ ⟨"note", "n9"⟩,
    .rollback ⟨4⟩, .commit ⟨3⟩]

/-- Another one, in which the numbers and the order of the commits are different. -/
def deskCalls' : List Call :=
  [.begin, .insert ⟨2⟩ ⟨"note", "n3"⟩ [.text "n3"], .begin,
    .insert ⟨3⟩ ⟨"note", "n2"⟩ [.text "n2"], .begin, .fetch ⟨4⟩ ⟨"note", "n1"⟩,
    .audit ⟨3⟩ ⟨"bob", "bob", .create, "note", "n2", .empty⟩,
    .insert ⟨3⟩ ⟨"note", "n2"⟩ [.text "again"], .update ⟨3⟩ ⟨"note", "n9"⟩ [(0, .text "x")],
    .audit ⟨3⟩ ⟨"bob", "ann", .create, "note", "n2", .empty⟩, .commit ⟨3⟩,
    .update ⟨4⟩ ⟨"note", "n1"⟩ [(1, .text "new")], .fetch ⟨2⟩ ⟨"note", "n9"⟩,
    .audit ⟨4⟩ ⟨"ann", "ann", .update, "note", "n1", .empty⟩, .fetch ⟨4⟩ ⟨"note", "n1"⟩,
    .rollback ⟨2⟩, .commit ⟨4⟩]

theorem deskCalls_interleaves :
    Interleaves deskScripts (fun i => ⟨i.val + 2⟩) (deskStore.transcript deskCalls) ∧
      Apart deskScripts (fun i => ⟨i.val + 2⟩) (deskStore.transcript deskCalls) := by
  refine ⟨⟨fun i j h => ?_, by decide, by decide⟩, ?_⟩
  · have hnumber := TxId.mk.inj h
    omega
  · unfold Apart
    decide

theorem deskCalls'_interleaves :
    Interleaves deskScripts (fun i => ⟨4 - i.val⟩) (deskStore.transcript deskCalls') ∧
      Apart deskScripts (fun i => ⟨4 - i.val⟩) (deskStore.transcript deskCalls') := by
  refine ⟨⟨fun i j h => ?_, by decide, by decide⟩, ?_⟩
  · have hnumber := TxId.mk.inj h
    omega
  · unfold Apart
    decide

/-- The clerks do not notice in which of the two ways they took turns. The notes are filed the same,
and the audit log has the records of one clerk before those of the other or after them. -/
theorem clerks_independent :
    deskStore.Sound ∧
      (Interleaves deskScripts (fun i => ⟨i.val + 2⟩) (deskStore.transcript deskCalls) ∧
        Apart deskScripts (fun i => ⟨i.val + 2⟩) (deskStore.transcript deskCalls)) ∧
      (Interleaves deskScripts (fun i => ⟨4 - i.val⟩) (deskStore.transcript deskCalls') ∧
        Apart deskScripts (fun i => ⟨4 - i.val⟩) (deskStore.transcript deskCalls')) ∧
      (∀ i : Fin 3, repliesTo ⟨i.val + 2⟩ (deskStore.transcript deskCalls) =
        repliesTo ⟨4 - i.val⟩ (deskStore.transcript deskCalls')) ∧
      (∀ key, (deskStore.run deskCalls).committedRow? key =
        (deskStore.run deskCalls').committedRow? key) ∧
      (deskStore.run deskCalls).audits.Perm (deskStore.run deskCalls').audits ∧
      (deskStore.run deskCalls).audits ≠ (deskStore.run deskCalls').audits := by
  have hsound : deskStore.Sound := Store.sound_empty.run _
  obtain ⟨hreplies, hrows, _, _, _, _, _, _, _, _, hperm⟩ :=
    independent_of_schedule hsound deskCalls_interleaves.1 deskCalls'_interleaves.1
      deskCalls_interleaves.2 deskCalls'_interleaves.2
  exact ⟨hsound, deskCalls_interleaves, deskCalls'_interleaves, hreplies, hrows, hperm, by decide⟩

end RecordEngine
