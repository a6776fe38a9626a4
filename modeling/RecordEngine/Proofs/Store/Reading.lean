import RecordEngine.Proofs.Store.Conflict
import RecordEngine.Proofs.Store.Disjoint
import RecordEngine.Proofs.Store.Serial
/-!
What a transaction reads.

A transaction keeps two accounts of what it staged: the overlay, which its reads consult, and the
log of changes, which its commit plays back. Here both are told from the calls of the run.
`LastLeft` is the image that the last write of a row left behind, and the overlay holds just that,
through any number of further inserts, updates and refused calls. Reads of rows that are not staged
are not snapshots: two of them may differ. They agree when the transaction goes on to commit a write
of the row, and the reason is the pinned stamp: a row that is still current shows what it showed at
every early read.
-/

set_option autoImplicit false

namespace RecordEngine

/-! ## Audit records staged by calls -/

/-- Calls that stage changes one after another stage their audit records in this order. -/
theorem auditsIn_of_restage {rows : RowKey → Option Row} {calls : List Call}
    {changes : List Change} (h : restage rows calls = some changes) :
    auditsIn changes = calls.filterMap Call.record? := by
  induction calls using List.reverseRecOn generalizing changes with
  | nil =>
    obtain rfl := Option.some.inj h
    rfl
  | append_singleton calls c ih =>
    rw [restage_snoc] at h
    obtain ⟨before, hbefore, hlast⟩ := Option.bind_eq_some_iff.1 h
    obtain ⟨change, hchange, rfl⟩ := Option.map_eq_some_iff.1 hlast
    have haudit : auditsIn [change] = c.record?.toList := by
      rw [← auditsIn_changeOn, hchange, Option.toList_some]
    rw [auditsIn_append, ih hbefore, haudit, List.filterMap_append]
    cases hrecord : c.record? <;> simp [hrecord]

namespace Store

/-! ## The last image left of a row -/

/-- The image that a write leaves of a row: the row inserted, or the row that the transaction sees
with some fields overwritten. -/
inductive Leaves (s : Store) (tx : TxId) (key : RowKey) : Call → Row → Prop where
  | insert (row : Row) : Leaves s tx key (.insert tx key row) row
  | update {fields : List (Nat × Value)} {old row : Row}
      (hfound : (s.fetch tx key).1 = .ok (some old)) (hrow : overwrite key old fields = .ok row) :
      Leaves s tx key (.update tx key fields) row

/-- The image left by the last insert or update of a row that a transaction carried out. -/
def LastLeft (calls : List Call) (tx : TxId) (key : RowKey) (row : Row) : Prop :=
  ∃ past c since, calls = past ++ c :: since ∧
    Event.Writes tx key ⟨c, ((empty.run past).step c).1⟩ ∧ (empty.run past).Leaves tx key c row ∧
    ¬ Wrote tx key (((empty.run past).step c).2.transcript since)

variable {s s' : Store} {tx : TxId} {key : RowKey} {row : Row} {t t' : Transaction}

theorem lastLeft_snoc {calls : List Call} {c : Call} :
    LastLeft (calls ++ [c]) tx key row ↔
      (Event.Writes tx key ⟨c, ((empty.run calls).step c).1⟩ ∧
          (empty.run calls).Leaves tx key c row) ∨
        (¬ Event.Writes tx key ⟨c, ((empty.run calls).step c).1⟩ ∧ LastLeft calls tx key row) := by
  constructor
  · rintro ⟨past, c', since, hsplit, hwrites, hleaves, hlast⟩
    rcases snoc_eq_append_cons.1 hsplit with ⟨rfl, rfl, -⟩ | ⟨rest, rfl, rfl⟩
    · exact .inl ⟨hwrites, hleaves⟩
    · rw [transcript_snoc, wrote_snoc, not_or] at hlast
      refine .inr ⟨?_, past, c', rest, rfl, hwrites, hleaves, hlast.1⟩
      rw [run_append, run_cons]
      exact hlast.2
  · rintro (⟨hwrites, hleaves⟩ | ⟨hnot, past, c', since, rfl, hwrites, hleaves, hlast⟩)
    · refine ⟨calls, c, [], rfl, hwrites, hleaves, ?_⟩
      rintro ⟨e, hmem, -⟩
      cases hmem
    · refine ⟨past, c', since ++ [c], by simp, hwrites, hleaves, ?_⟩
      rw [transcript_snoc, wrote_snoc, not_or]
      rw [run_append, run_cons] at hnot
      exact ⟨hlast, hnot⟩

theorem fetch_of_open (hopen : s.transactions.get? tx = some t) (key : RowKey) :
    (s.fetch tx key).1 = .ok (s.seen t key) := by
  rw [fetch, visibleRow_of_open hopen]

/-- The change that a write stages holds the image that the write leaves, and of no other row. -/
theorem imageOf?_of_changeOn {c : Call} {change : Change}
    (hopen : s.transactions.get? tx = some t) (htx : c.tx? = some tx)
    (hchange : c.changeOn (s.seen t) = some change) (key : RowKey) :
    (change.imageOf? key = none ∧ c.row? ≠ some (tx, key)) ∨
      ∃ image, change.imageOf? key = some image ∧ c.row? = some (tx, key) ∧
        ∀ row, s.Leaves tx key c row ↔ row = image := by
  cases c with
  | insert tx' key' image =>
    obtain rfl := Option.some.inj htx
    have hstaged : change = .insertRow key' image := by
      simp only [Call.changeOn] at hchange
      split at hchange
      · exact (Option.some.inj hchange).symm
      · cases hchange
    by_cases hkey : key' = key
    · subst hkey
      refine .inr ⟨image, by simp [hstaged, Change.imageOf?, Change.written?], rfl, ?_⟩
      intro row
      constructor
      · rintro ⟨⟩
        rfl
      · rintro rfl
        exact .insert row
    · left
      simp [hstaged, Change.imageOf?, Change.written?, Call.row?, hkey]
  | update tx' key' fields =>
    obtain rfl := Option.some.inj htx
    obtain ⟨old, hold, hmap⟩ := Option.bind_eq_some_iff.1 hchange
    obtain ⟨image, himage, rfl⟩ := Option.map_eq_some_iff.1 hmap
    have hrow : overwrite key' old fields = .ok image := by
      revert himage
      cases overwrite key' old fields with
      | error failure => intro h; cases h
      | ok image' => intro h; rw [Option.some.inj h]
    have hfound : (s.fetch tx' key').1 = .ok (some old) := by
      rw [fetch_of_open hopen, hold]
    by_cases hkey : key' = key
    · subst hkey
      refine .inr ⟨image, by simp [Change.imageOf?, Change.written?], rfl, ?_⟩
      intro row
      constructor
      · rintro (_ | ⟨hfound', hrow'⟩)
        rw [hfound] at hfound'
        obtain rfl := Option.some.inj (Except.ok.inj hfound')
        rw [hrow] at hrow'
        exact (Except.ok.inj hrow').symm
      · rintro rfl
        exact .update hfound hrow
    · left
      simp [Change.imageOf?, Change.written?, Call.row?, hkey]
  | audit tx' record =>
    obtain rfl := Option.some.inj hchange
    left
    simp [Change.imageOf?, Change.written?, Call.row?]
  | _ => cases hchange

theorem of_stagedIn?_eq_some {e : Event} {c : Call} (h : e.stagedIn? tx = some c) :
    e.succeeded = true ∧ e.call.isWrite = true ∧ e.call.tx? = some tx := by
  unfold Event.stagedIn? at h
  split at h
  · next hcond =>
    simp only [Bool.and_eq_true, beq_iff_eq] at hcond
    exact ⟨hcond.1.1, hcond.1.2, hcond.2⟩
  · cases h

theorem not_writes_of_stagedIn? {e : Event} (h : e.stagedIn? tx = none) : ¬ e.Writes tx key := by
  rintro ⟨hok, hwrite, hrow⟩
  rw [Event.stagedIn?_of_succeeded hok hwrite (Call.tx?_of_row? hrow), if_pos rfl] at h
  cases h

/-- What one event does to the images staged in a transaction that it leaves open: it stages the
image it leaves, if it is a write, and keeps the others. -/
theorem Progress.stagedRow?_iff {e : Event} (h : Progress s e s') (hs : s.Sound) (hs' : s'.Sound)
    (hopen' : s'.transactions.get? tx = some t') :
    (s.nextTx ≤ tx.number ∧ t' = .start tx) ∨
      ∃ t, s.transactions.get? tx = some t ∧ ∀ key row, t'.stagedRow? key = some row ↔
        (e.Writes tx key ∧ s.Leaves tx key e.call row) ∨
          (¬ e.Writes tx key ∧ t.stagedRow? key = some row) := by
  cases h with
  | quiet _ _ hcommits hstaged hquiet =>
    rcases hquiet.transactions tx t' hopen' with hnew | ⟨t, hopen, hchanges, -, -⟩
    · exact .inl hnew
    · refine .inr ⟨t, hopen, fun key row => ?_⟩
      rw [hs'.stagedRow? hopen', hchanges, ← hs.stagedRow? hopen]
      simp [not_writes_of_stagedIn? (hstaged tx)]
  | staged _ tx₀ t₀ change hcommits hstaged hopen hchange =>
    rw [get?_holding] at hopen'
    by_cases heq : tx₀ = tx
    · subst heq
      rw [if_pos rfl] at hopen'
      obtain rfl := Option.some.inj hopen'
      have hown : e.stagedIn? tx₀ = some e.call := by
        rw [hstaged, if_pos rfl]
      obtain ⟨hok, hwrite, htx⟩ := of_stagedIn?_eq_some hown
      refine .inr ⟨t₀, hopen, fun key row => ?_⟩
      rw [Transaction.stagedRow?_stage, stagedRow?_prepared]
      rcases imageOf?_of_changeOn hopen htx hchange key with
        ⟨himage, hrow⟩ | ⟨image, himage, hrow, hleaves⟩
      · have hnot : ¬ e.Writes tx₀ key := fun hwrites => hrow hwrites.2.2
        simp [himage, hnot]
      · have hwrites : e.Writes tx₀ key := ⟨hok, hwrite, hrow⟩
        simp [himage, hwrites, hleaves, eq_comm]
    · rw [if_neg heq] at hopen'
      have hnone : e.stagedIn? tx = none := by
        rw [hstaged, if_neg heq]
      exact .inr ⟨t', hopen', fun key row => by simp [not_writes_of_stagedIn? hnone]⟩
  | published tx₀ t₀ hopen hcurrent =>
    rw [get?_publish] at hopen'
    split at hopen'
    · cases hopen'
    · refine .inr ⟨t', hopen', fun key row => ?_⟩
      have hnot : ¬ Event.Writes tx key ⟨.commit tx₀, .ok ()⟩ := by
        intro hwrites
        cases hwrites.2.1
      simp [hnot]

/-- The overlay of an open transaction holds the image that its last write of each row left. -/
theorem stagedRow?_iff_lastLeft (calls : List Call) :
    ∀ tx t, (empty.run calls).transactions.get? tx = some t → ∀ key row,
      t.stagedRow? key = some row ↔ LastLeft calls tx key row := by
  induction calls using List.reverseRecOn with
  | nil => exact fun _ _ h => by cases h
  | append_singleton calls c ih =>
    intro tx t' hopen' key row
    have hfollows := follows_run calls
    have hprogress := progress_step hfollows.sound c
    have hopen := hopen'
    rw [run_snoc] at hopen
    rcases hprogress.stagedRow?_iff hfollows.sound (hfollows.sound.step c) hopen with
      ⟨hfresh, rfl⟩ | ⟨t, hopen, hstaged⟩
    -- A transaction opened just now has no writes in the history, and the event is none of its own.
    · have hnone : ¬ Wrote tx key (empty.transcript (calls ++ [c])) := by
        intro hwrote
        exact ((follows_run (calls ++ [c])).staged tx _ key hopen').2 hwrote rfl
      rw [transcript_snoc, wrote_snoc, not_or] at hnone
      rw [lastLeft_snoc]
      constructor
      · intro h
        cases h
      · rintro (⟨hwrites, -⟩ | ⟨-, past, c', since, rfl, hwrites, -, -⟩)
        · exact absurd hwrites hnone.2
        · refine absurd ?_ hnone.1
          rw [transcript_append]
          exact ⟨_, List.mem_append_right _ List.mem_cons_self, hwrites⟩
    · rw [hstaged key row, ih tx t hopen key row, lastLeft_snoc]

/-! ## Early reads -/

/-- A transaction was shown something of a row before it first wrote the row. -/
def ReadEarly (tx : TxId) (key : RowKey) (answer : Except Failure (Option Row))
    (events : List Event) : Prop :=
  ∃ past since, events = past ++ ⟨.fetch tx key, answer⟩ :: since ∧ Begun tx past ∧
    ¬ Wrote tx key past

variable {answer : Except Failure (Option Row)} {events : List Event}

theorem readEarly_snoc {e : Event} :
    ReadEarly tx key answer (events ++ [e]) ↔
      ReadEarly tx key answer events ∨
        (e = ⟨.fetch tx key, answer⟩ ∧ Begun tx events ∧ ¬ Wrote tx key events) := by
  constructor
  · rintro ⟨past, since, hsplit, hearly⟩
    rcases snoc_eq_append_cons.1 hsplit with ⟨rfl, rfl, -⟩ | ⟨rest, -, rfl⟩
    · exact .inr ⟨rfl, hearly⟩
    · exact .inl ⟨past, rest, rfl, hearly⟩
  · rintro (⟨past, since, rfl, hearly⟩ | ⟨rfl, hearly⟩)
    · exact ⟨past, since ++ [e], by simp, hearly⟩
    · exact ⟨events, [], rfl, hearly⟩

theorem ReadEarly.touched (h : ReadEarly tx key answer events) : Touched tx key events := by
  obtain ⟨past, since, rfl, hbegun, -⟩ := h
  obtain ⟨before, after, rfl⟩ := List.append_of_mem hbegun
  exact ⟨before, after ++ ⟨.fetch tx key, answer⟩ :: since, by simp, _,
    List.mem_append_right _ List.mem_cons_self, rfl⟩

/-- A row that a transaction has pinned and still finds current is what it was before the event. -/
theorem Progress.committedRow?_of_current {e : Event} (h : Progress s e s') (hs : s.Sound)
    (hopen : s.transactions.get? tx = some t) (hopen' : s'.transactions.get? tx = some t')
    (hpin : t.bases.get? key ≠ none) (hcurrent : s'.Current t' key) :
    s'.committedRow? key = s.committedRow? key := by
  cases h with
  | quiet _ _ hcommits hstaged hquiet => rw [committedRow?_congr hquiet.rows]
  | staged => rw [committedRow?_holding]
  | published tx₀ t₀ hopen₀ =>
    rw [get?_publish] at hopen'
    split at hopen'
    · cases hopen'
    · rw [hopen] at hopen'
      obtain rfl := Option.some.inj hopen'
      rw [committedRow?_publish, (current_of_publish hs hopen hpin hcurrent).1, Option.none_or]

/-- What a fetch of an open transaction is answered is what the transaction sees. -/
theorem Effect.answer_fetch {answer : Except Failure (Option Row)}
    (h : Effect s (.fetch tx key) answer s') (hopen : s.transactions.get? tx = some t) :
    answer = .ok (s.seen t key) ∧ s'.committedRow? = s.committedRow? := by
  cases h with
  | unknown _ tx' htx hclosed =>
    obtain rfl := Option.some.inj htx
    rw [hclosed] at hopen
    cases hopen
  | fetched _ _ u hu =>
    rw [hopen] at hu
    rw [Option.some.inj hu]
    exact ⟨rfl, rfl⟩

/-- As long as a row is current for a transaction, all that it was shown of the row before it wrote
it is the row committed now. -/
theorem answer_of_readEarly (calls : List Call) :
    ∀ tx t key answer, (empty.run calls).transactions.get? tx = some t →
      (empty.run calls).Current t key → ReadEarly tx key answer (empty.transcript calls) →
      answer = .ok ((empty.run calls).committedRow? key) := by
  induction calls using List.reverseRecOn with
  | nil => exact fun _ _ _ _ h => by cases h
  | append_singleton calls c ih =>
    intro tx t' key answer hopen' hcurrent' hearly
    rw [run_snoc] at hopen' hcurrent' ⊢
    rw [transcript_snoc, readEarly_snoc] at hearly
    have hfollows := follows_run calls
    have heffect := effect_step hfollows.sound c
    have hbegun : Begun tx (empty.transcript calls) := by
      rcases hearly with hearly | ⟨-, hbegun, -⟩
      · exact hearly.touched.begun
      · exact hbegun
    rcases heffect.carried hfollows.sound hopen' with ⟨-, hfresh, -⟩ | ⟨t, hopen, hcarried⟩
    · exact absurd hbegun (hfollows.unused tx hfresh).1
    · have hcurrent := ((hcarried.current key).1 hcurrent').1
      rcases hearly with hearly | ⟨he, -, hunwritten⟩
      -- A read of before: its row is pinned, so the event has not changed it.
      · have hpin := (hfollows.pinned tx t key hopen).2 hearly.touched
        have hprogress := heffect.progress hfollows.sound
        rw [hprogress.committedRow?_of_current hfollows.sound hopen hopen' hpin hcurrent']
        exact ih tx t key answer hopen hcurrent hearly
      -- A read made just now: nothing is staged, so it shows the committed row.
      · obtain ⟨rfl, hanswer⟩ := Event.mk.inj he
        obtain rfl := eq_of_heq hanswer
        have hstaged : t.stagedRow? key = none := by
          by_contra hstaged
          exact hunwritten ((hfollows.staged tx t key hopen).1 hstaged)
        obtain ⟨hseen, hrows⟩ := heffect.answer_fetch hopen
        rw [hseen, hrows, seen, hstaged, Option.none_or]

/-! ## Reads against commits -/

/-- What an open transaction reads, and what its commit makes of the rows, the stamps and the audit
records of the store. -/
structure ReadsAsPublished (calls : List Call) (tx : TxId) : Prop where
  /-- A row that the transaction wrote has a last image. -/
  written : ∀ key, Wrote tx key (empty.transcript calls) → ∃ row, LastLeft calls tx key row
  /-- The last image is what the transaction reads, and what its commit publishes. -/
  own : ∀ key row, LastLeft calls tx key row →
    ((empty.run calls).fetch tx key).1 = .ok (some row) ∧
      (((empty.run calls).commit tx).1 = .ok () →
        ((empty.run calls).commit tx).2.committedRow? key = some row)
  /-- Of a row that it did not write the transaction reads the committed image, and its commit
  leaves the image and the stamp as they were. -/
  unwritten : ∀ key, ¬ Wrote tx key (empty.transcript calls) →
    ((empty.run calls).fetch tx key).1 = .ok ((empty.run calls).committedRow? key) ∧
      (((empty.run calls).commit tx).1 = .ok () →
        ((empty.run calls).commit tx).2.rows.get? key = (empty.run calls).rows.get? key)
  /-- A commit appends the audit records of the transaction, in the order they were recorded. -/
  audits : ((empty.run calls).commit tx).1 = .ok () →
    ((empty.run calls).commit tx).2.audits = (empty.run calls).audits ++
      (stagedCalls tx (empty.transcript calls)).filterMap Call.record?
  /-- A commit that is refused changes neither rows nor stamps nor audit records. -/
  refused : ((empty.run calls).commit tx).1 ≠ .ok () →
    ((empty.run calls).commit tx).2.rows = (empty.run calls).rows ∧
      ((empty.run calls).commit tx).2.audits = (empty.run calls).audits
  /-- If the commit goes through, every read of a row that the transaction wrote, made before it
  first wrote it, was answered with the row that is committed up to now. -/
  repeatable : ((empty.run calls).commit tx).1 = .ok () →
    ∀ key, Wrote tx key (empty.transcript calls) →
      ∀ answer, ReadEarly tx key answer (empty.transcript calls) →
        answer = .ok ((empty.run calls).committedRow? key)

/-- A commit of an open transaction publishes its changes, all rows staged being current, or changes
nothing that is committed. -/
theorem commit_cases_of_open (hs : s.Sound) (hopen : s.transactions.get? tx = some t) :
    ((s.commit tx).1 = .ok () ∧ (s.commit tx).2 = s.publish tx t.changes ∧
        ∀ key, t.stagedRow? key ≠ none → s.Current t key) ∨
      ((s.commit tx).1 ≠ .ok () ∧ (s.commit tx).2.rows = s.rows ∧
        (s.commit tx).2.audits = s.audits) := by
  rcases commit_of_open hs hopen with ⟨hcurrent, hcommit⟩ | ⟨key, -, -, hcommit⟩
  · rw [hcommit]
    exact .inl ⟨rfl, rfl, hcurrent⟩
  · rw [hcommit]
    refine .inr ⟨fun h => ?_, rfl, rfl⟩
    cases h

/-- **A transaction reads what it will publish.** In every state that a run of interleaved calls can
reach, an open transaction sees its own last image of every row it wrote and the committed image of
every other, never what another transaction has staged; a commit that goes through publishes just
these images and appends its audit records in order, one that is refused changes nothing; and the
rows it commits looked the same at every read before their first write. -/
theorem reads_as_published (calls : List Call) (tx : TxId) (t : Transaction)
    (hopen : (empty.run calls).transactions.get? tx = some t) : ReadsAsPublished calls tx := by
  have hfollows := follows_run calls
  have hlast := stagedRow?_iff_lastLeft calls tx t hopen
  have hstaged := fun key => hfollows.staged tx t key hopen
  have hread := fetch_of_open hopen
  have hunstaged : ∀ key, ¬ Wrote tx key (empty.transcript calls) → t.stagedRow? key = none := by
    intro key hunwritten
    by_contra hrow
    exact hunwritten ((hstaged key).1 hrow)
  have hwritten : ∀ key, Wrote tx key (empty.transcript calls) →
      ∃ row, LastLeft calls tx key row := by
    intro key hwrote
    obtain ⟨row, hrow⟩ := Option.ne_none_iff_exists'.1 ((hstaged key).2 hwrote)
    exact ⟨row, (hlast key row).1 hrow⟩
  have hown : ∀ key row, LastLeft calls tx key row →
      ((empty.run calls).fetch tx key).1 = .ok (some row) := by
    intro key row hleft
    rw [hread, seen, (hlast key row).2 hleft, Option.some_or]
  have hothers : ∀ key, ¬ Wrote tx key (empty.transcript calls) →
      ((empty.run calls).fetch tx key).1 = .ok ((empty.run calls).committedRow? key) := by
    intro key hunwritten
    rw [hread, seen, hunstaged key hunwritten, Option.none_or]
  rcases commit_cases_of_open hfollows.sound hopen with ⟨hok, hpublish, hcurrent⟩ | ⟨hno, hrefused⟩
  · refine ⟨hwritten, fun key row hleft => ⟨hown key row hleft, fun _ => ?_⟩,
      fun key hunwritten => ⟨hothers key hunwritten, fun _ => ?_⟩, fun _ => ?_,
      fun hno => absurd hok hno, fun _ key hwrote answer hearly => ?_⟩
    · rw [hpublish, committedRow?_publish, ← hfollows.sound.stagedRow? hopen,
        (hlast key row).2 hleft, Option.some_or]
    · rw [hpublish, get?_rows_publish, ← hfollows.sound.stagedRow? hopen, hunstaged key hunwritten,
        Option.map_none, Option.none_or]
    · have hrestaged := (serializes_run calls).restaged tx t hopen hcurrent
      rw [hpublish, publish_audits, auditsIn_of_restage hrestaged]
    · have hrow := hcurrent key ((hstaged key).2 hwrote)
      exact answer_of_readEarly calls tx t key answer hopen hrow hearly
  · exact ⟨hwritten, fun key row hleft => ⟨hown key row hleft, fun hok => absurd hok hno⟩,
      fun key hunwritten => ⟨hothers key hunwritten, fun hok => absurd hok hno⟩,
      fun hok => absurd hok hno, fun _ => hrefused, fun hok => absurd hok hno⟩

/-- An account is opened with a first balance. One clerk reads it, and reads it again after another
has staged a new balance; then it is updated twice, with an insert and an update refused in
between. -/
def twoClerks : List Call :=
  let key : RowKey := ⟨"account", "1"⟩
  [.begin, .insert ⟨1⟩ key [.integer 0], .commit ⟨1⟩, .begin, .begin, .fetch ⟨2⟩ key,
    .update ⟨3⟩ key [(0, .integer 7)], .fetch ⟨2⟩ key, .update ⟨2⟩ key [(0, .integer 1)],
    .insert ⟨2⟩ key [.integer 9], .update ⟨2⟩ key [(3, .integer 8)],
    .update ⟨2⟩ key [(0, .integer 2)]]

theorem reads_as_published_twoClerks :
    ∃ t, (empty.run twoClerks).transactions.get? ⟨2⟩ = some t ∧
      ReadsAsPublished twoClerks ⟨2⟩ ∧
      ((empty.run twoClerks).commit ⟨2⟩).1 = .ok () ∧
      ((empty.run twoClerks).commit ⟨2⟩).2.committedRow? ⟨"account", "1"⟩ = some [.integer 2] :=
  ⟨_, rfl, reads_as_published twoClerks ⟨2⟩ _ rfl, by decide, by decide⟩

end Store

end RecordEngine
