import RecordEngine.Proofs.Store.Transcript
/-!
Which commits are refused.

The store decides a commit by comparing stamps. What the stamps stand for is a statement about the
history: a transaction is overtaken on a row when another one that wrote the row was committed
between the first look at it and now. `Follows` relates the two along a run, and the answer of a
commit is read off it: a commit is granted exactly when the transaction was overtaken on none of the
rows it wrote.
-/

set_option autoImplicit false

namespace RecordEngine

/-! ## Looks, writes and overtaking in a history -/

/-- The row a call looks at, with the transaction it does so in. -/
def Call.row? : Call → Option (TxId × RowKey)
  | .fetch tx key => some (tx, key)
  | .insert tx key _ => some (tx, key)
  | .update tx key _ => some (tx, key)
  | _ => none

theorem Call.tx?_of_row? {c : Call} {tx : TxId} {key : RowKey} (h : c.row? = some (tx, key)) :
    c.tx? = some tx := by
  cases c with
  | fetch => exact congrArg (Option.map Prod.fst) h
  | insert => exact congrArg (Option.map Prod.fst) h
  | update => exact congrArg (Option.map Prod.fst) h
  | _ => cases h

namespace Event

/-- The event is a fetch, an insert or an update of a row, whatever came of it. -/
def Touches (tx : TxId) (key : RowKey) (e : Event) : Prop := e.call.row? = some (tx, key)

/-- The event is an insert or an update of a row that was carried out. -/
def Writes (tx : TxId) (key : RowKey) (e : Event) : Prop :=
  e.succeeded = true ∧ e.call.isWrite = true ∧ e.call.row? = some (tx, key)

/-- The event is a commit of a transaction that was granted. -/
def Commits (tx : TxId) (e : Event) : Prop := e = ⟨.commit tx, .ok ()⟩

end Event

/-- A transaction was opened. -/
def Begun (tx : TxId) (events : List Event) : Prop := ⟨.begin, .ok tx⟩ ∈ events

/-- A transaction looked at a row, by a call that may have failed. Calls that named the transaction
before it was opened are not its own. -/
def Touched (tx : TxId) (key : RowKey) (events : List Event) : Prop :=
  ∃ past since, events = past ++ ⟨.begin, .ok tx⟩ :: since ∧ ∃ e ∈ since, e.Touches tx key

/-- A transaction inserted or updated a row. -/
def Wrote (tx : TxId) (key : RowKey) (events : List Event) : Prop :=
  ∃ e ∈ events, e.Writes tx key

/-- Another transaction that had written a row was committed after a transaction first looked at
it. -/
def Overtaken (tx : TxId) (key : RowKey) (events : List Event) : Prop :=
  ∃ past e future, events = past ++ e :: future ∧ Touched tx key past ∧
    ∃ other, other ≠ tx ∧ e.Commits other ∧ Wrote other key past

variable {tx : TxId} {key : RowKey} {events : List Event} {e : Event}

theorem begun_snoc : Begun tx (events ++ [e]) ↔ Begun tx events ∨ e = ⟨.begin, .ok tx⟩ := by
  simp only [Begun, List.mem_append, List.mem_singleton, eq_comm]

theorem wrote_snoc : Wrote tx key (events ++ [e]) ↔ Wrote tx key events ∨ e.Writes tx key := by
  simp only [Wrote, List.mem_append, List.mem_singleton, or_and_right, exists_or, exists_eq_left]

theorem touched_snoc :
    Touched tx key (events ++ [e]) ↔
      Touched tx key events ∨ (Begun tx events ∧ e.Touches tx key) := by
  constructor
  · rintro ⟨past, since, hsplit, found, hmem, htouch⟩
    -- The new event is the `begin` itself, after which nothing has happened, or comes after it.
    rcases snoc_eq_append_cons.1 hsplit with ⟨-, -, rfl⟩ | ⟨rest, rfl, rfl⟩
    · cases hmem
    · rcases List.mem_append.1 hmem with hmem | hmem
      · exact .inl ⟨past, rest, rfl, found, hmem, htouch⟩
      · obtain rfl := List.mem_singleton.1 hmem
        refine .inr ⟨?_, htouch⟩
        simp [Begun]
  · rintro (⟨past, since, rfl, found, hmem, htouch⟩ | ⟨hbegun, htouch⟩)
    · exact ⟨past, since ++ [e], by simp, found, List.mem_append_left _ hmem, htouch⟩
    · obtain ⟨past, since, rfl⟩ := List.append_of_mem hbegun
      exact ⟨past, since ++ [e], by simp, e, by simp, htouch⟩

theorem overtaken_snoc :
    Overtaken tx key (events ++ [e]) ↔
      Overtaken tx key events ∨
        (Touched tx key events ∧
          ∃ other, other ≠ tx ∧ e.Commits other ∧ Wrote other key events) := by
  constructor
  · rintro ⟨past, x, future, hsplit, hby⟩
    rcases snoc_eq_append_cons.1 hsplit with ⟨rfl, rfl, -⟩ | ⟨rest, -, rfl⟩
    · exact .inr hby
    · exact .inl ⟨past, x, rest, rfl, hby⟩
  · rintro (⟨past, x, future, rfl, hby⟩ | hby)
    · exact ⟨past, x, future ++ [e], by simp, hby⟩
    · exact ⟨events, e, [], rfl, hby⟩

/-- A transaction looks only at rows after it was opened. -/
theorem Touched.begun (h : Touched tx key events) : Begun tx events := by
  obtain ⟨past, since, rfl, -⟩ := h
  simp [Begun]

theorem Overtaken.begun (h : Overtaken tx key events) : Begun tx events := by
  obtain ⟨past, e, future, rfl, htouched, -⟩ := h
  exact List.mem_append_left _ htouched.begun

namespace Store

/-! ## What a call does to the transactions that stay open -/

variable {s s' : Store}

/-- What becomes of an open transaction that an event leaves open: the rows it has pinned, staged
and still finds current are told by the event. -/
structure Carried (s : Store) (e : Event) (s' : Store) (tx : TxId) (t t' : Transaction) : Prop where
  pinned : ∀ key, t'.bases.get? key ≠ none ↔ t.bases.get? key ≠ none ∨ e.Touches tx key
  staged : ∀ key, t'.stagedRow? key ≠ none ↔ t.stagedRow? key ≠ none ∨ e.Writes tx key
  current : ∀ key, s'.Current t' key ↔ s.Current t key ∧
    ¬ (t.bases.get? key ≠ none ∧ ∃ other u, other ≠ tx ∧ e.Commits other ∧
      s.transactions.get? other = some u ∧ u.stagedRow? key ≠ none)

/-- An event that is not of a transaction and commits nothing leaves it as it is. -/
theorem Carried.untouched {t : Transaction} (hrows : s'.rows = s.rows)
    (hforeign : e.call.tx? ≠ some tx) (hcommits : ∀ other, ¬ e.Commits other) :
    Carried s e s' tx t t where
  pinned key := by
    have : ¬ e.Touches tx key := fun h => hforeign (Call.tx?_of_row? h)
    simp [this]
  staged key := by
    have : ¬ e.Writes tx key := fun h => hforeign (Call.tx?_of_row? h.2.2)
    simp [this]
  current key := by simp [hcommits, current_congr hrows]

/-- An event that looks at no row and commits nothing changes neither pins nor rows. -/
theorem Carried.same {t t' : Transaction} (hrows : s'.rows = s.rows) (hbases : t'.bases = t.bases)
    (hstaged : ∀ key, t'.stagedRow? key = t.stagedRow? key) (hrow : e.call.row? = none)
    (hcommits : ∀ other, ¬ e.Commits other) : Carried s e s' tx t t' where
  pinned key := by simp [Event.Touches, hrow, hbases]
  staged key := by simp [Event.Writes, hrow, hstaged]
  current key := by
    rw [current_congr hrows]
    simp [hcommits, Current, hbases]

/-- A row looked at is pinned; if nothing is staged, that is all. -/
theorem Carried.touched (hs : s.Sound) {t : Transaction}
    (hopen : s.transactions.get? tx = some t) (hrow : e.call.row? = some (tx, key))
    (hcommits : ∀ other, ¬ e.Commits other)
    (hwrites : ¬ e.Writes tx key) (hrows : s'.rows = s.rows) :
    Carried s e s' tx t (s.touched t key) where
  pinned k := by
    rw [get?_bases_touched hs hopen, Event.Touches, hrow]
    by_cases hk : key = k <;> simp [hk]
  staged k := by
    have : ¬ e.Writes tx k := by
      intro h
      obtain ⟨-, rfl⟩ := Prod.mk.inj (Option.some.inj (hrow.symm.trans h.2.2))
      exact hwrites h
    simp [Store.touched, this]
  current k := by simp [hcommits, current_congr hrows, current_touched hs hopen]

/-- A row written is pinned and staged. -/
theorem Carried.wrote (hs : s.Sound) {t : Transaction} {change : Change} {row : Row}
    (hopen : s.transactions.get? tx = some t) (hrow : e.call.row? = some (tx, key))
    (hcommits : ∀ other, ¬ e.Commits other)
    (hwrites : e.Writes tx key) (hw : change.written? = some (key, row))
    (hrows : s'.rows = s.rows) :
    Carried s e s' tx t ((s.touched t key).stage change) where
  pinned k := by
    rw [Transaction.stage_bases, get?_bases_touched hs hopen, Event.Touches, hrow]
    by_cases hk : key = k <;> simp [hk]
  staged k := by
    rw [Transaction.stagedRow?_stage, Change.imageOf?, hw]
    by_cases hk : key = k
    · subst hk
      simp [hwrites]
    · have : ¬ e.Writes tx k := by
        intro h
        exact hk (Prod.mk.inj (Option.some.inj (hrow.symm.trans h.2.2))).2
      simp [hk, this, Store.touched]
  current k := by
    simp [hcommits, current_congr hrows]
    exact current_touched hs hopen key k

/-- What an event does to its own transaction decides what it does to all. -/
theorem Carried.holding {t t' : Transaction} (h : Carried s e (s.holding tx t') tx t t')
    (hopen : s.transactions.get? tx = some t) (htx : e.call.tx? = some tx)
    (hcommits : ∀ other, ¬ e.Commits other) {other : TxId} {u' : Transaction}
    (hopen' : (s.holding tx t').transactions.get? other = some u') :
    ∃ u, s.transactions.get? other = some u ∧ Carried s e (s.holding tx t') other u u' := by
  rw [get?_holding] at hopen'
  by_cases heq : tx = other
  · subst heq
    rw [if_pos rfl] at hopen'
    obtain rfl := Option.some.inj hopen'
    exact ⟨t, hopen, h⟩
  · rw [if_neg heq] at hopen'
    have hforeign : e.call.tx? ≠ some other := fun hother =>
      heq (Option.some.inj (htx.symm.trans hother))
    exact ⟨u', hopen', .untouched rfl hforeign hcommits⟩

/-- A commit takes a row away from those who looked at it before, and from nobody else. -/
theorem current_publish (hs : s.Sound) {t : Transaction} (hopen : s.transactions.get? tx = some t)
    (other : TxId) (changes : List Change) :
    (s.publish other changes).Current t key ↔
      s.Current t key ∧ ¬ (t.bases.get? key ≠ none ∧ imageIn changes key ≠ none) := by
  constructor
  · intro h
    -- A row that was never looked at is current by default, before and after.
    by_cases hpin : t.bases.get? key = none
    · refine ⟨fun base hbase => ?_, fun hboth => hboth.1 hpin⟩
      rw [hpin] at hbase
      cases hbase
    · obtain ⟨himage, hcurrent⟩ := current_of_publish hs hopen hpin h
      exact ⟨hcurrent, fun hboth => hboth.2 himage⟩
  · rintro ⟨hcurrent, hfree⟩ base hbase
    have himage : imageIn changes key = none := by
      by_contra himage
      exact hfree ⟨by rw [hbase]; exact Option.some_ne_none base, himage⟩
    rw [stamp?_publish, if_pos himage]
    exact hcurrent base hbase

theorem Carried.published (hs : s.Sound) {t u : Transaction}
    (hopen : s.transactions.get? tx = some t) {other : TxId} (hne : other ≠ tx)
    (hother : s.transactions.get? other = some u) :
    Carried s ⟨.commit other, .ok ()⟩ (s.publish other u.changes) tx t t where
  pinned key := by simp [Event.Touches, Call.row?]
  staged key := by simp [Event.Writes, Call.row?]
  current key := by
    rw [current_publish hs hopen, ← (hs.transactions other u hother).staged]
    refine and_congr_right fun _ => not_congr (and_congr_right fun _ => ⟨fun h => ?_, ?_⟩)
    · exact ⟨other, u, hne, rfl, hother, h⟩
    · rintro ⟨other', u', -, hcommits, hother', h⟩
      obtain rfl : other = other' := by
        have hcall := congrArg Event.call hcommits
        exact Call.commit.inj hcall
      rwa [Option.some.inj (hother.symm.trans hother')]

/-- Every transaction open after a call was opened by it or carried through it. -/
theorem Effect.carried (hs : s.Sound) {c : Call} {answer : Except Failure c.Answer}
    (h : Effect s c answer s') {t' : Transaction} (hopen' : s'.transactions.get? tx = some t') :
    ((⟨c, answer⟩ : Event) = ⟨.begin, .ok tx⟩ ∧ s.nextTx ≤ tx.number ∧ t' = .start tx) ∨
      ∃ t, s.transactions.get? tx = some t ∧ Carried s ⟨c, answer⟩ s' tx t t' := by
  cases h with
  | opened =>
    change (s.holding _ _).transactions.get? tx = some t' at hopen'
    rw [get?_holding] at hopen'
    split at hopen'
    · next heq =>
      obtain rfl := Option.some.inj hopen'
      exact .inl ⟨by rw [heq], heq ▸ Nat.le_refl _, by rw [heq]⟩
    · exact .inr ⟨t', hopen', .untouched rfl (fun h => by cases h) (fun _ h => by cases h)⟩
  | unknown _ tx₀ htx hclosed =>
    refine .inr ⟨t', hopen', .untouched rfl (fun h => ?_) (fun _ h => ?_)⟩
    -- The transaction of the refused call is not open, so it is not the one carried.
    · obtain rfl := Option.some.inj (htx.symm.trans h)
      rw [hclosed] at hopen'
      cases hopen'
    · cases h
  | fetched tx₀ key t hopen =>
    refine .inr (Carried.holding (.touched hs hopen rfl ?_ ?_ rfl) hopen rfl ?_ hopen')
    · exact fun _ h => by cases h
    · exact fun h => by cases h.2.1
    · exact fun _ h => by cases h
  | inserted tx₀ key row t hopen hseen =>
    refine .inr (Carried.holding (.wrote hs hopen rfl ?_ ⟨rfl, rfl, rfl⟩ rfl rfl) hopen rfl ?_
      hopen')
    · exact fun _ h => by cases h
    · exact fun _ h => by cases h
  | duplicate tx₀ key row old t hopen =>
    refine .inr (Carried.holding (.touched hs hopen rfl ?_ ?_ rfl) hopen rfl ?_ hopen')
    · exact fun _ h => by cases h
    · exact fun h => by cases h.1
    · exact fun _ h => by cases h
  | updated tx₀ key fields old row t hopen hseen hrow =>
    refine .inr (Carried.holding (.wrote hs hopen rfl ?_ ⟨rfl, rfl, rfl⟩ rfl rfl) hopen rfl ?_
      hopen')
    · exact fun _ h => by cases h
    · exact fun _ h => by cases h
  | missing tx₀ key fields t hopen =>
    refine .inr (Carried.holding (.touched hs hopen rfl ?_ ?_ rfl) hopen rfl ?_ hopen')
    · exact fun _ h => by cases h
    · exact fun h => by cases h.1
    · exact fun _ h => by cases h
  | misfit tx₀ key fields old failure t hopen =>
    refine .inr (Carried.holding (.touched hs hopen rfl ?_ ?_ rfl) hopen rfl ?_ hopen')
    · exact fun _ h => by cases h
    · exact fun h => by cases h.1
    · exact fun _ h => by cases h
  | audited tx₀ record t hopen =>
    have hsame : Carried s ⟨.audit tx₀ record, .ok ()⟩
        (s.holding tx₀ (t.stage (.appendAudit record))) tx₀ t (t.stage (.appendAudit record)) :=
      .same rfl rfl (fun _ => rfl) rfl fun _ h => by cases h
    exact .inr (hsame.holding hopen rfl (fun _ h => by cases h) hopen')
  | committed tx₀ t hopen =>
    rw [get?_publish] at hopen'
    split at hopen'
    · cases hopen'
    · next hne => exact .inr ⟨t', hopen', .published hs hopen' hne hopen⟩
  | conflicted tx₀ t key hopen =>
    rw [get?_without] at hopen'
    split at hopen'
    · cases hopen'
    · exact .inr ⟨t', hopen', .same rfl rfl (fun _ => rfl) rfl (fun _ h => by cases h)⟩
  | rolledBack tx₀ t hopen =>
    rw [get?_without] at hopen'
    split at hopen'
    · cases hopen'
    · exact .inr ⟨t', hopen', .same rfl rfl (fun _ => rfl) rfl (fun _ h => by cases h)⟩

/-- A transaction that is opened or writes has a number that was given out. -/
theorem Effect.number_lt (hs : s.Sound) {c : Call} {answer : Except Failure c.Answer}
    (h : Effect s c answer s')
    (hnamed : (⟨c, answer⟩ : Event) = ⟨.begin, .ok tx⟩ ∨ ∃ key, Event.Writes tx key ⟨c, answer⟩) :
    tx.number < s'.nextTx := by
  rcases hnamed with hbegin | ⟨key, hok, hwrite, hrow⟩
  · cases h with
    | opened =>
      obtain rfl : (⟨s.nextTx⟩ : TxId) = tx := by simpa using hbegin
      exact Nat.lt_succ_self s.nextTx
    | unknown _ _ htx => cases hbegin
    | _ => cases hbegin
  · cases h with
    | inserted tx₀ key₀ row t hopen =>
      obtain rfl := (Prod.mk.inj (Option.some.inj hrow)).1
      exact hs.fresh _ t hopen
    | updated tx₀ key₀ fields old row t hopen =>
      obtain rfl := (Prod.mk.inj (Option.some.inj hrow)).1
      exact hs.fresh _ t hopen
    | opened => cases hrow
    | fetched => cases hwrite
    | audited => cases hrow
    | committed => cases hrow
    | rolledBack => cases hrow
    | _ => cases hok

theorem Effect.open_of_commits {c : Call} {answer : Except Failure c.Answer}
    (h : Effect s c answer s') {other : TxId} (hcommits : Event.Commits other ⟨c, answer⟩) :
    ∃ u, s.transactions.get? other = some u := by
  cases h with
  | committed tx₀ t hopen =>
    obtain rfl := Call.commit.inj (congrArg Event.call hcommits)
    exact ⟨t, hopen⟩
  | _ => cases hcommits

/-! ## The store follows the history -/

/-- What the open transactions know is what the history tells about them. -/
structure Follows (s : Store) (events : List Event) : Prop where
  sound : s.Sound
  begun : ∀ tx t, s.transactions.get? tx = some t → Begun tx events
  pinned : ∀ tx t key, s.transactions.get? tx = some t →
    (t.bases.get? key ≠ none ↔ Touched tx key events)
  staged : ∀ tx t key, s.transactions.get? tx = some t →
    (t.stagedRow? key ≠ none ↔ Wrote tx key events)
  current : ∀ tx t key, s.transactions.get? tx = some t →
    (s.Current t key ↔ ¬ Overtaken tx key events)
  unused : ∀ tx : TxId, s.nextTx ≤ tx.number → ¬ Begun tx events ∧ ∀ key, ¬ Wrote tx key events

theorem follows_empty : Follows empty [] where
  sound := sound_empty
  begun _ _ h := by cases h
  pinned _ _ _ h := by cases h
  staged _ _ _ h := by cases h
  current _ _ _ h := by cases h
  unused _ _ := ⟨List.not_mem_nil, fun _ ⟨_, h, _⟩ => List.not_mem_nil h⟩

/-- A commit in the history overtakes a transaction exactly when its changes take a row away. -/
theorem Follows.overtaken_snoc (h : Follows s events) {c : Call} {answer : Except Failure c.Answer}
    (heffect : Effect s c answer s') {t : Transaction} (hopen : s.transactions.get? tx = some t) :
    Overtaken tx key (events ++ [⟨c, answer⟩]) ↔
      ¬ s.Current t key ∨ (t.bases.get? key ≠ none ∧ ∃ other u, other ≠ tx ∧
        Event.Commits other ⟨c, answer⟩ ∧ s.transactions.get? other = some u ∧
        u.stagedRow? key ≠ none) := by
  rw [RecordEngine.overtaken_snoc, h.current tx t key hopen, Classical.not_not,
    ← h.pinned tx t key hopen]
  refine or_congr_right (and_congr_right fun _ => ⟨?_, ?_⟩)
  · rintro ⟨other, hne, hcommits, hwrote⟩
    obtain ⟨u, hu⟩ := heffect.open_of_commits hcommits
    exact ⟨other, u, hne, hcommits, hu, (h.staged other u key hu).2 hwrote⟩
  · rintro ⟨other, u, hne, hcommits, hu, hstaged⟩
    exact ⟨other, hne, hcommits, (h.staged other u key hu).1 hstaged⟩

theorem Follows.effect (h : Follows s events) {c : Call} {answer : Except Failure c.Answer}
    (heffect : Effect s c answer s') : Follows s' (events ++ [⟨c, answer⟩]) := by
  have hcarried : ∀ (tx : TxId) (t' : Transaction), s'.transactions.get? tx = some t' →
      ((⟨c, answer⟩ : Event) = ⟨.begin, .ok tx⟩ ∧ s.nextTx ≤ tx.number ∧ t' = .start tx) ∨
        ∃ t, s.transactions.get? tx = some t ∧ Carried s ⟨c, answer⟩ s' tx t t' :=
    fun _ _ hopen' => heffect.carried h.sound hopen'
  -- Nothing in the history is about a transaction opened just now.
  have hnew : ∀ tx : TxId, s.nextTx ≤ tx.number →
      (⟨c, answer⟩ : Event) = ⟨.begin, .ok tx⟩ → ∀ key,
        ¬ Touched tx key (events ++ [⟨c, answer⟩]) ∧ ¬ Wrote tx key (events ++ [⟨c, answer⟩]) ∧
          ¬ Overtaken tx key (events ++ [⟨c, answer⟩]) := by
    intro tx hfresh hbegin key
    obtain ⟨hbegun, hwrote⟩ := h.unused tx hfresh
    rw [touched_snoc, wrote_snoc, RecordEngine.overtaken_snoc, hbegin]
    refine ⟨?_, ?_, ?_⟩
    · rintro (htouched | ⟨hbegun', -⟩)
      · exact hbegun htouched.begun
      · exact hbegun hbegun'
    · rintro (hwrote' | hwrites)
      · exact hwrote key hwrote'
      · cases hwrites.2.1
    · rintro (hovertaken | ⟨htouched, -⟩)
      · exact hbegun hovertaken.begun
      · exact hbegun htouched.begun
  -- Each field: the transaction was opened by this event, or was carried through it and the field
  -- held of it before.
  refine ⟨h.sound.effect heffect, fun tx t' hopen' => ?_, fun tx t' key hopen' => ?_,
    fun tx t' key hopen' => ?_, fun tx t' key hopen' => ?_, fun tx hfresh => ?_⟩
  · rw [begun_snoc]
    rcases hcarried tx t' hopen' with ⟨hbegin, -, -⟩ | ⟨t, hopen, -⟩
    · exact .inr hbegin
    · exact .inl (h.begun tx t hopen)
  · rcases hcarried tx t' hopen' with ⟨hbegin, hfresh, rfl⟩ | ⟨t, hopen, hcarry⟩
    · simp [(hnew tx hfresh hbegin key).1, Transaction.start]
    · have hbegun := h.begun tx t hopen
      rw [touched_snoc, hcarry.pinned, h.pinned tx t key hopen]
      simp [hbegun]
  · rcases hcarried tx t' hopen' with ⟨hbegin, hfresh, rfl⟩ | ⟨t, hopen, hcarry⟩
    · simp [(hnew tx hfresh hbegin key).2.1, Transaction.start, Transaction.stagedRow?]
    · rw [wrote_snoc, hcarry.staged, h.staged tx t key hopen]
  · rcases hcarried tx t' hopen' with ⟨hbegin, hfresh, rfl⟩ | ⟨t, hopen, hcarry⟩
    · simp [(hnew tx hfresh hbegin key).2.2, Current, Transaction.start]
    · rw [h.overtaken_snoc heffect hopen, hcarry.current, not_or, Classical.not_not]
  · have hle : s.nextTx ≤ tx.number := Nat.le_trans heffect.nextTx_le hfresh
    obtain ⟨hbegun, hwrote⟩ := h.unused tx hle
    refine ⟨fun hbegun' => ?_, fun key hwrote' => ?_⟩
    · have hlt := (begun_snoc.1 hbegun').resolve_left hbegun
      have := heffect.number_lt h.sound (.inl hlt)
      omega
    · have hwrites := (wrote_snoc.1 hwrote').resolve_left (hwrote key)
      have := heffect.number_lt h.sound (.inr ⟨key, hwrites⟩)
      omega

theorem follows_run (calls : List Call) : Follows (empty.run calls) (empty.transcript calls) := by
  induction calls using List.reverseRecOn with
  | nil => exact follows_empty
  | append_singleton calls c ih =>
    rw [run_snoc, transcript_snoc]
    exact ih.effect (effect_step ih.sound c)

/-- **First committer wins, exactly.** In every state that a run of interleaved transactions can
reach, the commit of an open transaction is granted if and only if the transaction was overtaken on
none of the rows it wrote. Otherwise it is answered with the conflict on one of those it was
overtaken on. -/
theorem commit_ok_iff_not_overtaken (calls : List Call) (tx : TxId) (t : Transaction)
    (hopen : (empty.run calls).transactions.get? tx = some t) :
    (((empty.run calls).commit tx).1 = .ok () ↔
        ∀ key, Wrote tx key (empty.transcript calls) →
          ¬ Overtaken tx key (empty.transcript calls)) ∧
      (((empty.run calls).commit tx).1 ≠ .ok () →
        ∃ key, Wrote tx key (empty.transcript calls) ∧ Overtaken tx key (empty.transcript calls) ∧
          ((empty.run calls).commit tx).1 =
            .error (.conflict (key.text ++ " was modified by another transaction"))) := by
  have h := follows_run calls
  have heffect := effect_commit h.sound hopen
  -- The commit is open to three effects; the transaction is there, so two of them are left.
  generalize hanswer : ((empty.run calls).commit tx).1 = answer at heffect ⊢
  generalize ((empty.run calls).commit tx).2 = s' at heffect
  cases heffect with
  | unknown _ tx' htx hclosed =>
    obtain rfl := Option.some.inj htx
    rw [hclosed] at hopen
    cases hopen
  | committed _ u hu hcurrent =>
    obtain rfl := Option.some.inj (hopen.symm.trans hu)
    refine ⟨⟨fun _ key hwrote => ?_, fun _ => rfl⟩, fun hfail => absurd rfl hfail⟩
    exact (h.current tx t key hopen).1 (hcurrent key ((h.staged tx t key hopen).2 hwrote))
  | conflicted _ u key hu hkey hstale =>
    obtain rfl := Option.some.inj (hopen.symm.trans hu)
    have hwrote := (h.staged tx t key hopen).1 hkey
    have hovertaken : Overtaken tx key (empty.transcript calls) := by
      by_contra hnot
      exact hstale ((h.current tx t key hopen).2 hnot)
    refine ⟨⟨fun hok => ?_, fun hall => absurd hovertaken (hall key hwrote)⟩, fun _ => ?_⟩
    · cases hok
    · exact ⟨key, hwrote, hovertaken, rfl⟩

/-- Two transactions read a row and write it; the first of them is committed. -/
def lostUpdate : List Call :=
  let key : RowKey := ⟨"account", "1"⟩
  [.begin, .insert ⟨1⟩ key [.integer 0], .commit ⟨1⟩, .begin, .begin, .fetch ⟨2⟩ key,
    .fetch ⟨3⟩ key,
    .update ⟨2⟩ key [(0, .integer 1)], .update ⟨3⟩ key [(0, .integer 2)], .commit ⟨3⟩]

theorem commit_lostUpdate_refused :
    ((empty.run lostUpdate).commit ⟨2⟩).1 ≠ .ok () ∧
      ∃ key, Wrote ⟨2⟩ key (empty.transcript lostUpdate) ∧
        Overtaken ⟨2⟩ key (empty.transcript lostUpdate) ∧
        ((empty.run lostUpdate).commit ⟨2⟩).1 =
          .error (.conflict (key.text ++ " was modified by another transaction")) := by
  have hrefused : ((empty.run lostUpdate).commit ⟨2⟩).1 ≠ .ok () := by decide
  exact ⟨hrefused, (commit_ok_iff_not_overtaken lostUpdate ⟨2⟩ _ rfl).2 hrefused⟩

end Store

end RecordEngine
