import RecordEngine.Proofs.Store.Conflict
import RecordEngine.Proofs.Store.Erased
/-!
The life of a transaction in the store.

A transaction enters the store with `begin` and is active there until a commit or a rollback finds
it. Both take it out before they do anything else, so whatever they answer it is gone, and no later
call finds it. That is why the store never meets a transaction that is not active, and why the
number of open ones is a matter of counting events.

`Counts` ties what the store counts to the events behind it; beside `Sound` it needs `Follows`,
since the commit behind a stamp is found in the history and not in the store. `LifeCycle` is what
comes of it for every state that a run can reach, the failing calls included.
-/

set_option autoImplicit false

namespace RecordEngine

/-- The event is a commit or a rollback that found its transaction: it went through, or it failed
otherwise than for want of the transaction. -/
def Event.concludes : Event → Bool
  | ⟨.commit tx, .error failure⟩ | ⟨.rollback tx, .error failure⟩ =>
    failure ≠ Store.unknownTransaction tx
  | ⟨.commit _, .ok _⟩ | ⟨.rollback _, .ok _⟩ => true
  | _ => false

/-- A row carries the stamp of a commit that published it: it came after as many others as the stamp
says, and its transaction had written the row. -/
def StampedBy (stamp : Nat) (key : RowKey) (events : List Event) : Prop :=
  ∃ past tx future, events = past ++ ⟨.commit tx, .ok ()⟩ :: future ∧
    (committedIn past).length + 1 = stamp ∧ Wrote tx key past

theorem StampedBy.snoc {stamp : Nat} {key : RowKey} {events : List Event}
    (h : StampedBy stamp key events) (e : Event) : StampedBy stamp key (events ++ [e]) := by
  obtain ⟨past, tx, future, rfl, hstamp, hwrote⟩ := h
  exact ⟨past, tx, future ++ [e], by simp, hstamp, hwrote⟩

/-- A commit has a place among the commits, and no other commit has it. -/
theorem commit_unique {past past' future future' : List Event} {tx tx' : TxId}
    (h : past ++ ⟨.commit tx, .ok ()⟩ :: future = past' ++ ⟨.commit tx', .ok ()⟩ :: future')
    (hplace : (committedIn past).length = (committedIn past').length) :
    past = past' ∧ tx = tx' := by
  -- Whichever prefix is the longer one holds the other's commit, and with it one commit more.
  have hlonger {past rest future future' : List Event} {tx tx' : TxId}
      (h : (⟨.commit tx, .ok ()⟩ : Event) :: future = rest ++ ⟨.commit tx', .ok ()⟩ :: future')
      (hplace : (committedIn past).length = (committedIn (past ++ rest)).length) :
      rest = [] ∧ tx = tx' := by
    cases rest with
    | nil => exact ⟨rfl, Call.commit.inj (congrArg Event.call (List.cons.inj h).1)⟩
    | cons e rest =>
      obtain ⟨rfl, -⟩ := List.cons.inj h
      have hcons : committedIn (⟨.commit tx, .ok ()⟩ :: rest) = tx :: committedIn rest := rfl
      rw [committedIn_append, hcons, List.length_append, List.length_cons] at hplace
      omega
  rcases List.append_eq_append_iff.1 h with ⟨rest, rfl, hrest⟩ | ⟨rest, rfl, hrest⟩
  · obtain ⟨rfl, rfl⟩ := hlonger hrest hplace
    exact ⟨(List.append_nil past).symm, rfl⟩
  · obtain ⟨rfl, rfl⟩ := hlonger hrest hplace.symm
    exact ⟨List.append_nil past', rfl⟩

namespace Store

variable {s : Store} {tx : TxId}

/-! ## Ended transactions -/

/-- The transaction was open once and is no more. -/
structure Ended (s : Store) (tx : TxId) : Prop where
  begun : tx.number < s.nextTx
  closed : s.transactions.get? tx = none

theorem Effect.ended {c : Call} {answer : Except Failure c.Answer} {s' : Store}
    (h : Effect s c answer s') (htx : s.Ended tx) : s'.Ended tx := by
  have hholding {other : TxId} {t t' : Transaction} (hopen : s.transactions.get? other = some t) :
      (s.holding other t').Ended tx := by
    have hne : other ≠ tx := by
      rintro rfl
      exact Option.some_ne_none t (hopen.symm.trans htx.closed)
    exact ⟨htx.begun, by rw [get?_holding, if_neg hne, htx.closed]⟩
  have hwithout (other : TxId) : (s.without other).Ended tx :=
    ⟨htx.begun, by rw [get?_without, htx.closed, ite_self]⟩
  cases h with
  | opened =>
    have hne : (⟨s.nextTx⟩ : TxId) ≠ tx := by
      rintro rfl
      exact Nat.lt_irrefl _ htx.begun
    refine ⟨Nat.lt_succ_of_lt htx.begun, ?_⟩
    change (s.holding _ _).transactions.get? tx = none
    rw [get?_holding, if_neg hne, htx.closed]
  | unknown => exact htx
  | fetched other key t hopen => exact hholding hopen
  | inserted other key row t hopen => exact hholding hopen
  | duplicate other key row old t hopen => exact hholding hopen
  | updated other key fields old row t hopen => exact hholding hopen
  | missing other key fields t hopen => exact hholding hopen
  | misfit other key fields old failure t hopen => exact hholding hopen
  | audited other record t hopen => exact hholding hopen
  | committed other t =>
    refine ⟨by rw [publish_nextTx]; exact htx.begun, ?_⟩
    rw [get?_publish, htx.closed, ite_self]
  | conflicted other => exact hwithout other
  | rolledBack other => exact hwithout other

/-- A commit or a rollback ends its transaction, whatever it is answered. -/
theorem Sound.ended_step (hs : s.Sound) {c : Call} (hc : c = .commit tx ∨ c = .rollback tx)
    (hopen : s.transactions.get? tx ≠ none) : (s.step c).2.Ended tx := by
  obtain ⟨t, ht⟩ := Option.ne_none_iff_exists'.1 hopen
  have hbegun := hs.fresh tx t ht
  have hwithout : (s.without tx).Ended tx := ⟨hbegun, by rw [get?_without, if_pos rfl]⟩
  have heffect := effect_step hs c
  generalize (s.step c).1 = answer at heffect
  generalize (s.step c).2 = s' at heffect ⊢
  rcases hc with rfl | rfl
  · cases heffect with
    | unknown _ tx' htx' hclosed =>
      obtain rfl := Option.some.inj htx'
      exact absurd hclosed hopen
    | committed => exact ⟨by rw [publish_nextTx]; exact hbegun, by rw [get?_publish, if_pos rfl]⟩
    | conflicted => exact hwithout
  · cases heffect with
    | unknown _ tx' htx' hclosed =>
      obtain rfl := Option.some.inj htx'
      exact absurd hclosed hopen
    | rolledBack => exact hwithout

theorem Sound.ended_run (hs : s.Sound) (htx : s.Ended tx) (calls : List Call) :
    (s.run calls).Ended tx := by
  induction calls generalizing s with
  | nil => exact htx
  | cons c rest ih => exact ih (hs.step c) ((effect_step hs c).ended htx)

theorem Sound.live (hs : s.Sound) : s.Live := fun tx t hopen => (hs.transactions tx t hopen).active

/-- Only a commit or a rollback of an open transaction ends one. -/
theorem Effect.of_ends? {c : Call} {answer : Except Failure c.Answer} {s' : Store}
    (h : Effect s c answer s') (hends : Event.ends? ⟨c, answer⟩ = some tx) :
    (c = .commit tx ∨ c = .rollback tx) ∧ s.transactions.get? tx ≠ none := by
  cases h with
  | committed _ t hopen =>
    obtain rfl := Option.some.inj hends
    exact ⟨.inl rfl, by simp [hopen]⟩
  | conflicted _ t _ hopen =>
    obtain rfl := Option.some.inj hends
    exact ⟨.inl rfl, by simp [hopen]⟩
  | rolledBack _ t hopen =>
    obtain rfl := Option.some.inj hends
    exact ⟨.inr rfl, by simp [hopen]⟩
  | unknown _ other => cases c <;> cases hends
  | _ => cases hends

/-- A commit or a rollback that finds its transaction ends it. -/
theorem Effect.concludes_eq {c : Call} {answer : Except Failure c.Answer} {s' : Store}
    (h : Effect s c answer s') :
    Event.concludes ⟨c, answer⟩ = (Event.ends? ⟨c, answer⟩).isSome := by
  cases h with
  | unknown _ other htx =>
    cases c with
    | commit => obtain rfl := Option.some.inj htx; exact decide_eq_false fun h => h rfl
    | rollback => obtain rfl := Option.some.inj htx; exact decide_eq_false fun h => h rfl
    | _ => rfl
  | _ => rfl

/-! ## The count of open transactions -/

theorem activeCount_holding (hopen : s.transactions.get? tx ≠ none) (t : Transaction) :
    (s.holding tx t).activeCount = s.activeCount := by
  rw [activeCount, holding, Keyed.size_put, if_neg hopen, activeCount]

theorem activeCount_without (hopen : s.transactions.get? tx ≠ none) :
    (s.without tx).activeCount + 1 = s.activeCount :=
  Keyed.size_erase_of_get? hopen

theorem activeCount_publish (hopen : s.transactions.get? tx ≠ none) (changes : List Change) :
    (s.publish tx changes).activeCount + 1 = s.activeCount := by
  rw [activeCount, publish_transactions]
  exact activeCount_without hopen

/-- A `begin` adds one to the open transactions, and what ends a transaction takes one away. -/
theorem Sound.activeCount_step (hs : s.Sound) (c : Call) :
    (s.step c).2.activeCount + [(⟨c, (s.step c).1⟩ : Event)].countP Event.concludes =
      s.activeCount + [c].count .begin := by
  have hconcludes := (effect_step hs c).concludes_eq
  rw [List.countP_singleton, hconcludes]
  -- `begin` is the one call for no transaction; any other moves only its own.
  cases htx : c.tx? with
  | none =>
    cases c with
    | begin =>
      have hnew : s.transactions.get? ⟨s.nextTx⟩ = none := by
        by_contra hopen
        obtain ⟨t, ht⟩ := Option.ne_none_iff_exists'.1 hopen
        exact Nat.lt_irrefl _ (hs.fresh _ t ht)
      have hsize : (s.step .begin).2.activeCount = s.activeCount + 1 := by
        exact (Keyed.size_put s.transactions _ _).trans (if_pos hnew)
      rw [hsize]
      rfl
    | _ => cases htx
  | some tx =>
    have hbegin : [c].count .begin = 0 := by
      rw [List.count_singleton, if_neg]
      intro h
      rw [beq_iff_eq] at h
      rw [h] at htx
      cases htx
    have hmoved := moved_step hs.live htx
    generalize (⟨c, (s.step c).1⟩ : Event) = e at hmoved ⊢
    generalize (s.step c).2 = s' at hmoved ⊢
    rw [hbegin]
    cases hmoved with
    | worked e s' hends hworked =>
      rw [hends]
      cases hworked with
      | idle => rfl
      | held t hopen => exact activeCount_holding hopen t
    | dropped e hends _ hopen =>
      rw [hends]
      exact activeCount_without hopen
    | published changes hopen => exact activeCount_publish hopen changes

/-! ## What the store and its history count -/

/-- What a store counts is what the events behind it tell. -/
structure Counts (s : Store) (events : List Event) : Prop where
  follows : Follows s events
  commits : s.commits = (committedIn events).length
  stamped : ∀ key stored, s.rows.get? key = some stored → StampedBy stored.stamp key events
  ended : ∀ e ∈ events, ∀ tx, e.ends? = some tx → s.Ended tx
  active : s.activeCount + events.countP Event.concludes = events.countP (·.call = .begin)

theorem counts_empty : Counts empty [] where
  follows := follows_empty
  commits := rfl
  stamped _ _ h := by cases h
  ended _ h := by cases h
  active := rfl

variable {events : List Event}

/-- A commit that goes through takes the next stamp; nothing else takes one. -/
theorem Progress.commits_eq {e : Event} {s' : Store} (h : Progress s e s') :
    s'.commits = s.commits + e.commits?.toList.length := by
  cases h with
  | quiet _ _ hcommits _ hquiet => rw [hcommits, hquiet.commits]; rfl
  | staged _ _ _ _ hcommits => rw [hcommits]; rfl
  | published => exact publish_commits s _ _

/-- A row has the stamp it had, or was published just now by a transaction that had written it. -/
theorem Counts.stamped_step (h : Counts s events) {e : Event} {s' : Store}
    (hp : Progress s e s') {key : RowKey} {stored : StoredRow}
    (hstored : s'.rows.get? key = some stored) :
    StampedBy stored.stamp key (events ++ [e]) := by
  cases hp with
  | quiet _ _ _ _ hquiet =>
    rw [hquiet.rows] at hstored
    exact (h.stamped key stored hstored).snoc e
  | staged => exact (h.stamped key stored hstored).snoc e
  | published tx t hopen =>
    rw [get?_rows_publish] at hstored
    cases himage : imageIn t.changes key with
    | none =>
      rw [himage] at hstored
      exact (h.stamped key stored hstored).snoc _
    | some row =>
      -- This commit is the last event, so nothing but it counts towards its stamp.
      rw [himage] at hstored
      obtain rfl := Option.some.inj hstored
      have hwrote : Wrote tx key events := by
        refine (h.follows.staged tx t key hopen).1 ?_
        rw [h.follows.sound.stagedRow? hopen, himage]
        exact Option.some_ne_none row
      exact ⟨events, tx, [], rfl, by rw [h.commits], hwrote⟩

theorem Counts.step (h : Counts s events) (c : Call) :
    Counts (s.step c).2 (events ++ [⟨c, (s.step c).1⟩]) where
  follows := h.follows.effect (effect_step h.follows.sound c)
  commits := by
    rw [(progress_step h.follows.sound c).commits_eq, committedIn_snoc, List.length_append,
      h.commits]
  stamped _ _ hstored := h.stamped_step (progress_step h.follows.sound c) hstored
  ended e he tx hends := by
    have heffect := effect_step h.follows.sound c
    -- What had ended stays so; what ends now was open until now.
    rcases List.mem_append.1 he with he | he
    · exact heffect.ended (h.ended e he tx hends)
    · obtain rfl := List.mem_singleton.1 he
      obtain ⟨hc, hopen⟩ := heffect.of_ends? hends
      exact h.follows.sound.ended_step hc hopen
  active := by
    have hstep := h.follows.sound.activeCount_step c
    have hbegin : [(⟨c, (s.step c).1⟩ : Event)].countP (·.call = .begin) = [c].count .begin := by
      rw [List.countP_singleton, List.count_singleton]
      rfl
    have hbefore := h.active
    rw [List.countP_append, List.countP_append, hbegin]
    omega

theorem counts_run (calls : List Call) : Counts (empty.run calls) (empty.transcript calls) := by
  induction calls using List.reverseRecOn with
  | nil => exact counts_empty
  | append_singleton calls c ih =>
    rw [run_snoc, transcript_snoc]
    exact ih.step c

/-- Two rows with one stamp were published by one commit, because the stamp is its place. -/
theorem Counts.shared (h : Counts s events) {key key' : RowKey} {stored stored' : StoredRow}
    (hstored : s.rows.get? key = some stored) (hstored' : s.rows.get? key' = some stored')
    (hsame : stored.stamp = stored'.stamp) :
    ∃ past tx future, events = past ++ ⟨.commit tx, .ok ()⟩ :: future ∧
      (committedIn past).length + 1 = stored.stamp ∧ Wrote tx key past ∧ Wrote tx key' past := by
  obtain ⟨past, tx, future, hsplit, hstamp, hwrote⟩ := h.stamped key stored hstored
  obtain ⟨past', tx', future', hsplit', hstamp', hwrote'⟩ := h.stamped key' stored' hstored'
  obtain ⟨rfl, rfl⟩ := commit_unique (hsplit.symm.trans hsplit') (by omega)
  exact ⟨past, tx, future, hsplit, hstamp, hwrote, hwrote'⟩

/-! ## Failures of inactive transactions -/

/-- A text ends as its last part does. -/
theorem getLast?_toList_append {a b : String} {c : Char} (h : b.toList.getLast? = some c) :
    (a ++ b).toList.getLast? = some c := by
  rw [String.toList_append, List.getLast?_append, h, Option.some_or]

theorem exists_getLast?_toString (n : Nat) :
    ∃ c, (toString n).toList.getLast? = some c ∧ c.isDigit = true := by
  rw [Nat.toString_eq_repr, Nat.toList_repr]
  have hne := mt List.getLast?_eq_none_iff.1 (Nat.toDigits_ne_nil (n := n) (b := 10))
  obtain ⟨c, hc⟩ := Option.ne_none_iff_exists'.1 hne
  exact ⟨c, hc, Nat.isDigit_of_mem_toDigits (by decide) (by decide) (List.mem_of_getLast? hc)⟩

/-- What an inactive transaction fails with ends as the name of its state does. -/
theorem of_checkActive_eq_error {t : Transaction} {action : String} {failure : Failure}
    (h : t.checkActive action = .error failure) :
    ∃ text : String, failure = .execution text ∧ text.toList.getLast? = some 'D' := by
  unfold Transaction.checkActive at h
  split at h
  · cases h
  · next hstate =>
    refine ⟨_, (Except.error.inj h).symm, getLast?_toList_append ?_⟩
    cases hs : t.state with
    | active => exact absurd hs hstate
    | committed => rfl
    | aborted => rfl

theorem overwrite_eq_error {key : RowKey} {row : Row} {fields : List (Nat × Value)}
    {failure : Failure} (h : overwrite key row fields = .error failure) :
    ∃ index : Nat, failure = .execution (key.text ++ " has no field #" ++ toString index) := by
  induction fields generalizing row with
  | nil => cases h
  | cons field rest ih =>
    rw [overwrite] at h
    split at h
    · exact ih h
    · exact ⟨field.1, (Except.error.inj h).symm⟩

/-- The failures of the store itself end otherwise. -/
theorem Effect.getLast?_ne {c : Call} {s' : Store} {text : String}
    (h : Effect s c (.error (.execution text)) s') : text.toList.getLast? ≠ some 'D' := by
  generalize hfailure : Failure.execution text = failure at h
  cases h with
  | unknown _ tx =>
    obtain rfl := Failure.execution.inj hfailure
    have hlast : (" not found" : String).toList.getLast? = some 'd' := rfl
    rw [getLast?_toList_append hlast]
    decide
  | duplicate =>
    obtain rfl := Failure.execution.inj hfailure
    have hlast : (" already exists" : String).toList.getLast? = some 's' := rfl
    rw [getLast?_toList_append hlast]
    decide
  | missing => cases hfailure
  | misfit _ _ _ _ _ _ _ _ hrow =>
    obtain ⟨index, rfl⟩ := overwrite_eq_error hrow
    obtain rfl := Failure.execution.inj hfailure
    obtain ⟨c, hlast, hdigit⟩ := exists_getLast?_toString index
    rw [getLast?_toList_append hlast]
    intro h
    rw [Option.some.inj h] at hdigit
    exact absurd hdigit (by decide)
  | conflicted => cases hfailure

/-- No call is refused because of the state of a transaction. -/
theorem Sound.ne_checkActive (hs : s.Sound) (c : Call) {t : Transaction} {action : String}
    {failure : Failure} (hcheck : t.checkActive action = .error failure) :
    (s.step c).1 ≠ .error failure := by
  intro hanswer
  obtain ⟨text, rfl, hlast⟩ := of_checkActive_eq_error hcheck
  exact (hanswer ▸ effect_step hs c).getLast?_ne hlast

/-! ## Stamps handed over with a change -/

/-- Carries out one operation, handing over a given stamp with the change it stages in place of the
one that it hands over itself. -/
def stepWith (stamp : Option Nat) (s : Store) : (c : Call) → Except Failure c.Answer × Store
  | .insert tx key row =>
    match s.visibleRow tx key with
    | (.error failure, s) => (.error failure, s)
    | (.ok (some _), s) => (.error (.execution (key.text ++ " already exists")), s)
    | (.ok none, s) => s.stage tx (.insertRow key row) stamp
  | .update tx key fields =>
    match s.visibleRow tx key with
    | (.error failure, s) => (.error failure, s)
    | (.ok none, s) => (.error (.notFound key.table key.id), s)
    | (.ok (some row), s) =>
      match overwrite key row fields with
      | .error failure => (.error failure, s)
      | .ok row => s.stage tx (.updateRow key row) stamp
  | .audit tx record => s.stage tx (.appendAudit record) stamp
  | .begin => s.step .begin
  | .commit tx => s.step (.commit tx)
  | .rollback tx => s.step (.rollback tx)
  | .fetch tx key => s.step (.fetch tx key)

/-- The look at a row, with which an insert and an update begin, pins it, so the stamp that comes
with the change decides nothing. -/
theorem Sound.stepWith_eq (hs : s.Sound) (stamp : Option Nat) (c : Call) :
    s.stepWith stamp c = s.step c := by
  cases c with
  | insert tx key row =>
    cases hopen : s.transactions.get? tx with
    | none => simp only [stepWith, Store.step, Store.insert, visibleRow, hopen]
    | some t =>
      rw [stepWith, Store.step, Store.insert, visibleRow_of_open hopen]
      cases s.seen t key with
      | none =>
        exact (stage_touched hs hopen _ rfl stamp).trans (stage_touched hs hopen _ rfl _).symm
      | some old => rfl
  | update tx key fields =>
    cases hopen : s.transactions.get? tx with
    | none => simp only [stepWith, Store.step, Store.update, visibleRow, hopen]
    | some t =>
      rw [stepWith, Store.step, Store.update, visibleRow_of_open hopen]
      cases s.seen t key with
      | none => rfl
      | some old =>
        cases hrow : overwrite key old fields with
        | error failure => simp only [hrow]
        | ok row =>
          simp only [hrow]
          exact (stage_touched hs hopen _ rfl stamp).trans (stage_touched hs hopen _ rfl _).symm
  | _ => rfl

/-! ## The life of a transaction -/

/-- What holds of a store that has seen some events. -/
structure LifeCycle (s : Store) (events : List Event) : Prop where
  /-- Every transaction in the store is active. -/
  active : ∀ tx t, s.transactions.get? tx = some t → t.state = .active
  /-- Every row that a transaction staged is pinned to a stamp, or to there being no row. -/
  pinned : ∀ tx t key, s.transactions.get? tx = some t → t.stagedRow? key ≠ none →
    ∃ base, t.bases.get? key = some base
  /-- Every row carries the stamp of a commit. -/
  stamped : ∀ key stored, s.rows.get? key = some stored →
    1 ≤ stored.stamp ∧ stored.stamp ≤ s.commits
  /-- No transaction knows of a stamp that has not been given out. -/
  known : ∀ tx t key stamp, s.transactions.get? tx = some t →
    t.bases.get? key = some (some stamp) → stamp ≤ s.commits
  /-- Two rows share a stamp only if one commit wrote both. -/
  shared : ∀ key key' stored stored', s.rows.get? key = some stored →
    s.rows.get? key' = some stored' → stored.stamp = stored'.stamp →
    ∃ past tx future, events = past ++ ⟨.commit tx, .ok ()⟩ :: future ∧
      (committedIn past).length + 1 = stored.stamp ∧ Wrote tx key past ∧ Wrote tx key' past
  /-- No call is answered with what an inactive transaction fails with, whatever it is asked for. -/
  permitted : ∀ (c : Call) (t : Transaction) (action : String) (failure : Failure),
    t.checkActive action = .error failure → (s.step c).1 ≠ .error failure
  /-- The stamp handed over with a change decides nothing. -/
  indifferent : ∀ stamp c, s.stepWith stamp c = s.step c
  /-- A transaction that was committed, refused or rolled back is not found by any later call, and
  the call changes nothing. -/
  gone : ∀ e ∈ events, ∀ tx, e.ends? = some tx → ∀ c : Call, c.tx? = some tx →
    s.step c = (.error (.execution ("Transaction " ++ tx.text ++ " not found")), s)
  /-- There are as many open transactions as were begun and not found by a commit or a rollback. -/
  counted : s.activeCount + events.countP Event.concludes = events.countP (·.call = .begin)

/-- **The life cycle of transactions.** In every state that a run of interleaved transactions can
reach, whatever was answered in it: the open transactions are active, pinned on what they staged and
know of no stamp that was not given out; rows that share a stamp were written by one commit; nothing
fails because a transaction is not active, and no pin comes from the stamp that a change is handed
over with; a transaction that has ended is not found again; and the open ones are those that were
begun and have not ended. -/
theorem life_cycle_run (calls : List Call) :
    (empty.run calls).LifeCycle (empty.transcript calls) := by
  have h := counts_run calls
  have hs := h.follows.sound
  exact
    { active := fun tx t hopen => (hs.transactions tx t hopen).active
      pinned := fun tx t key hopen hkey =>
        Option.ne_none_iff_exists'.1 ((hs.transactions tx t hopen).pinned key hkey)
      stamped := hs.stamps
      known := fun tx t key stamp hopen => (hs.transactions tx t hopen).base_le key stamp
      shared := fun _ _ _ _ => h.shared
      permitted := fun c _ _ _ => hs.ne_checkActive c
      indifferent := hs.stepWith_eq
      gone := fun e he tx hends _ hc => step_of_closed hc (h.ended e he tx hends).closed
      counted := h.active }

end Store

end RecordEngine
