import RecordEngine.Proofs.Store.Transcript
/-!
Committed transactions can be run one after another.

`serialSchedule` takes the transactions committed in a run, in the order of their commits, and has
each of them carry out again, alone, what it staged. `serialSchedule_equivalent` says that on an
empty store every one of these calls succeeds and that rows and audit records come out as in the
interleaved run.

The reason is in `restage`: what a transaction staged is a function of its calls and of the
committed rows it wrote. A transaction that is still current on the rows it wrote, and only such a
one commits, staged what it would stage on the rows as they are now, whatever was committed since it
began.
-/

set_option autoImplicit false

namespace RecordEngine

/-! ## Staging on given rows -/

/-- The changes that calls stage, one after another, on given committed rows; none if one of them is
refused. -/
def restage (rows : RowKey → Option Row) (calls : List Call) : Option (List Change) :=
  calls.foldlM (fun staged c =>
    (c.changeOn fun key => (imageIn staged key).or (rows key)).map (staged ++ [·])) []

@[simp] theorem restage_nil (rows : RowKey → Option Row) : restage rows [] = some [] := rfl

theorem restage_snoc (rows : RowKey → Option Row) (calls : List Call) (c : Call) :
    restage rows (calls ++ [c]) =
      (restage rows calls).bind fun staged =>
        (c.changeOn fun key => (imageIn staged key).or (rows key)).map (staged ++ [·]) := by
  simp only [restage, List.foldlM_append]
  cases calls.foldlM (fun staged c =>
    (c.changeOn fun key => (imageIn staged key).or (rows key)).map (staged ++ [·])) [] with
  | none => rfl
  | some staged => simp

/-- The change of a call depends on the one row it writes. -/
theorem changeOn_congr {c : Call} {visible visible' : RowKey → Option Row} {change : Change}
    (h : c.changeOn visible = some change)
    (hsame : ∀ key row, change.written? = some (key, row) → visible' key = visible key) :
    c.changeOn visible' = some change := by
  cases c with
  | insert tx key row =>
    simp only [Call.changeOn] at h ⊢
    split at h
    · next hnone =>
      obtain rfl := Option.some.inj h
      rw [hsame key row rfl, if_pos hnone]
    · cases h
  | update tx key fields =>
    obtain ⟨old, hold, hrow⟩ := Option.bind_eq_some_iff.1 h
    obtain ⟨row, hover, rfl⟩ := Option.map_eq_some_iff.1 hrow
    simp only [Call.changeOn, hsame key row rfl, hold, hover, Option.bind_some, Option.map_some]
  | _ => exact h

/-- Calls stage the same changes on rows that agree wherever they write. -/
theorem restage_congr {rows rows' : RowKey → Option Row} {calls : List Call}
    {changes : List Change} (h : restage rows calls = some changes)
    (hsame : ∀ key, imageIn changes key ≠ none → rows' key = rows key) :
    restage rows' calls = some changes := by
  induction calls using List.reverseRecOn generalizing changes with
  -- From the right, because that is the end at which `restage` grows: the calls before the last one
  -- stage on rows that agree wherever their changes, and so wherever all of them, write.
  | nil => exact h
  | append_singleton calls c ih =>
    rw [restage_snoc] at h ⊢
    obtain ⟨staged, hstaged, hlast⟩ := Option.bind_eq_some_iff.1 h
    obtain ⟨change, hchange, rfl⟩ := Option.map_eq_some_iff.1 hlast
    have hbefore : restage rows' calls = some staged := by
      refine ih hstaged fun key hkey => hsame key ?_
      rw [imageIn_snoc]
      cases change.imageOf? key with
      | none => exact hkey
      | some row => exact Option.some_ne_none row
    rw [hbefore, Option.bind_some]
    refine Option.map_eq_some_iff.2 ⟨change, changeOn_congr hchange fun key row hw => ?_, rfl⟩
    have hwritten : imageIn (staged ++ [change]) key ≠ none := by
      simp [imageIn_snoc, Change.imageOf?, hw]
    rw [hsame key hwritten]

/-! ## One transaction alone -/

/-- The calls of one transaction with nothing in between. -/
def alone (tx : TxId) (calls : List Call) : List Call :=
  .begin :: calls.map (·.within tx) ++ [.commit tx]

namespace Store

variable {s : Store}

/-- Calls of an open transaction that are carried out with nobody else around: it stages what they
stage on the committed rows, and every row it touches is current. -/
theorem run_within (hs : s.Sound) {tx : TxId} (hopen : s.transactions.get? tx = some (.start tx))
    {calls : List Call} {changes : List Change} (hwrite : ∀ c ∈ calls, c.isWrite = true)
    (h : restage s.committedRow? calls = some changes) :
    (∀ e ∈ s.transcript (calls.map (·.within tx)), e.succeeded = true) ∧
      ∃ t, s.run (calls.map (·.within tx)) = s.holding tx t ∧ t.changes = changes ∧
        ∀ key, s.Current t key := by
  induction calls using List.reverseRecOn generalizing changes with
  | nil =>
    refine ⟨fun e he => absurd he List.not_mem_nil, .start tx, ?_, Option.some.inj h, ?_⟩
    · simp only [List.map_nil, run_nil, holding, Keyed.put_of_get? hopen]
    · intro key base hbase
      cases hbase
  | append_singleton calls c ih =>
    rw [restage_snoc] at h
    obtain ⟨staged, hstaged, hlast⟩ := Option.bind_eq_some_iff.1 h
    obtain ⟨change, hchange, rfl⟩ := Option.map_eq_some_iff.1 hlast
    obtain ⟨hok, t, hrun, rfl, hcurrent⟩ :=
      ih (fun c hc => hwrite c (List.mem_append_left _ hc)) hstaged
    have hcw : c.isWrite = true := hwrite c (by simp)
    -- The store has moved only by what this transaction staged, so the call sees the rows on which
    -- `restage` computed its change.
    have hsound : (s.holding tx t).Sound := hrun ▸ hs.run _
    have hheld : (s.holding tx t).transactions.get? tx = some t := by
      rw [get?_holding, if_pos rfl]
    have hseen : (c.within tx).changeOn ((s.holding tx t).seen t) = some change := by
      rw [Call.changeOn_within]
      have hview : (s.holding tx t).seen t =
          fun key => (imageIn t.changes key).or (s.committedRow? key) := by
        funext key
        rw [seen, (hsound.transactions tx t hheld).staged]
        rfl
      rw [hview]
      exact hchange
    have hstep := (effect_step hsound (c.within tx)).of_changeOn (Call.tx?_within hcw) hheld hseen
    rw [List.map_append, List.map_cons, List.map_nil, transcript_snoc, run_snoc, hrun]
    refine ⟨fun e he => ?_, ((s.holding tx t).prepared t (c.within tx)).stage change, ?_, ?_, ?_⟩
    · rcases List.mem_append.1 he with he | he
      · exact hok e he
      · rw [List.mem_singleton.1 he]
        exact hstep.1
    · rw [hstep.2, holding_holding]
    · rw [Transaction.stage_changes, changes_prepared]
    -- A new pin is the stamp that the row has now, so a look takes nothing from what is current.
    · intro key
      exact (current_prepared hsound hheld (c.within tx) key).2 (hcurrent key)

/-- A transaction alone publishes what its calls stage on the committed rows. -/
theorem run_alone (hs : s.Sound) {calls : List Call} {changes : List Change}
    (hwrite : ∀ c ∈ calls, c.isWrite = true)
    (h : restage s.committedRow? calls = some changes) :
    (∀ e ∈ s.transcript (alone ⟨s.nextTx⟩ calls), e.succeeded = true) ∧
      (∀ key, (s.run (alone ⟨s.nextTx⟩ calls)).rows.get? key =
        ((imageIn changes key).map (⟨·, s.commits + 1⟩)).or (s.rows.get? key)) ∧
      (s.run (alone ⟨s.nextTx⟩ calls)).audits = s.audits ++ auditsIn changes ∧
      (s.run (alone ⟨s.nextTx⟩ calls)).commits = s.commits + 1 ∧
      (s.run (alone ⟨s.nextTx⟩ calls)).nextTx = s.nextTx + 1 := by
  -- The transaction is named for good: its number is `s.nextTx` of the store before `begin` only.
  generalize htx : (⟨s.nextTx⟩ : TxId) = tx
  have hbegin : s.step .begin =
      (.ok tx, { s.holding tx (.start tx) with nextTx := s.nextTx + 1 }) := by
    rw [← htx]
    rfl
  have hopened : Store.Sound { s.holding tx (.start tx) with nextTx := s.nextTx + 1 } :=
    htx ▸ hs.opened
  generalize hs₁ : { s.holding tx (.start tx) with nextTx := s.nextTx + 1 } = s₁ at hbegin hopened
  have hopen : s₁.transactions.get? tx = some (.start tx) := by
    rw [← hs₁]
    exact (get?_holding s tx _ tx).trans (if_pos rfl)
  have hrows : s₁.committedRow? = s.committedRow? := by rw [← hs₁]; rfl
  obtain ⟨hok, t, hrun, rfl, hcurrent⟩ := run_within hopened hopen hwrite (hrows ▸ h)
  have hsound : (s₁.holding tx t).Sound := hrun ▸ hopened.run _
  have hheld : (s₁.holding tx t).transactions.get? tx = some t := by rw [get?_holding, if_pos rfl]
  have hcommit : (s₁.holding tx t).step (.commit tx) =
      (.ok (), (s₁.holding tx t).publish tx t.changes) := by
    -- Every row it touched is current, so the commit can only be granted.
    rcases commit_of_open hsound hheld with ⟨-, hcommit⟩ | ⟨key, -, hstale, -⟩
    · exact hcommit
    · exact absurd (hcurrent key) hstale
  have hfinal : s.run (alone tx calls) = (s₁.holding tx t).publish tx t.changes := by
    rw [alone, List.cons_append, run_cons, hbegin, run_append, hrun, run_cons, run_nil, hcommit]
  have hcommits : s₁.commits = s.commits := by rw [← hs₁]; rfl
  have hrows' : ∀ key, s₁.rows.get? key = s.rows.get? key := fun key => by rw [← hs₁]; rfl
  refine ⟨fun e he => ?_, fun key => ?_, ?_, ?_, ?_⟩
  · rw [alone, List.cons_append, transcript, transcript_append, hbegin, hrun] at he
    simp only [List.mem_cons, List.mem_append, transcript, hcommit, List.not_mem_nil, or_false]
      at he
    rcases he with rfl | he | rfl
    · rfl
    · exact hok e he
    · rfl
  · rw [hfinal, get?_rows_publish, holding_commits, hcommits]
    exact congrArg _ (hrows' key)
  · rw [hfinal, publish_audits, ← hs₁]
    rfl
  · rw [hfinal, publish_commits, holding_commits, hcommits]
  · rw [hfinal, publish_nextTx, ← hs₁]
    rfl

end Store

/-! ## The serial schedule -/

/-- Transactions run one after another, each given by the calls it stages with. -/
def serialFrom (n : Nat) : List (List Call) → List Call
  | [] => []
  | calls :: rest => alone ⟨n⟩ calls ++ serialFrom (n + 1) rest

theorem serialFrom_append (n : Nat) (a b : List (List Call)) :
    serialFrom n (a ++ b) = serialFrom n a ++ serialFrom (n + a.length) b := by
  induction a generalizing n with
  | nil => rfl
  | cons calls rest ih =>
    simp only [List.cons_append, serialFrom, ih, List.append_assoc, List.length_cons]
    rw [Nat.add_right_comm, Nat.add_assoc]

/-- The committed transactions of a transcript in the order of their commits, each repeating the
calls it staged something with, and no other. -/
def serialSchedule (events : List Event) : List Call :=
  serialFrom Store.empty.nextTx ((committedIn events).map fun tx => stagedCalls tx events)

namespace Store

/-- The serial schedule of a run, carried out on an empty store, succeeds throughout and ends with
the rows and the audit records of the run. -/
structure Replayed (s : Store) (events : List Event) : Prop where
  succeeds : ∀ e ∈ empty.transcript (serialSchedule events), e.succeeded = true
  rows : ∀ key, (empty.run (serialSchedule events)).rows.get? key = s.rows.get? key
  audits : (empty.run (serialSchedule events)).audits = s.audits
  commits : (empty.run (serialSchedule events)).commits = s.commits
  nextTx : (empty.run (serialSchedule events)).nextTx = empty.nextTx + (committedIn events).length

/-- What a run keeps. The second field is the heart of it: as long as nobody overtook an open
transaction on the rows it wrote, its changes are those its calls stage on the committed rows. -/
structure Serializes (s : Store) (events : List Event) : Prop where
  sound : s.Sound
  restaged : ∀ tx t, s.transactions.get? tx = some t →
    (∀ key, t.stagedRow? key ≠ none → s.Current t key) →
    restage s.committedRow? (stagedCalls tx events) = some t.changes
  ended : ∀ tx ∈ committedIn events, tx.number < s.nextTx ∧ s.transactions.get? tx = none
  unused : ∀ tx : TxId, s.nextTx ≤ tx.number → stagedCalls tx events = []
  replayed : Replayed s events

/-- The serial schedule depends on what the committed transactions staged. -/
theorem serialSchedule_congr {events events' : List Event}
    (hcommitted : committedIn events' = committedIn events)
    (hstaged : ∀ tx ∈ committedIn events, stagedCalls tx events' = stagedCalls tx events) :
    serialSchedule events' = serialSchedule events := by
  rw [serialSchedule, hcommitted, serialSchedule]
  exact congrArg _ (List.map_congr_left hstaged)

theorem Replayed.congr {s s' : Store} {events events' : List Event} (h : Replayed s events)
    (hcommitted : committedIn events' = committedIn events)
    (hstaged : ∀ tx ∈ committedIn events, stagedCalls tx events' = stagedCalls tx events)
    (hrows : s'.rows = s.rows) (haudits : s'.audits = s.audits)
    (hcommits : s'.commits = s.commits) : Replayed s' events' := by
  have hschedule := serialSchedule_congr hcommitted hstaged
  constructor
  · rw [hschedule]
    exact h.succeeds
  · rw [hschedule, hrows]
    exact h.rows
  · rw [hschedule, haudits]
    exact h.audits
  · rw [hschedule, hcommits]
    exact h.commits
  · rw [hschedule, hcommitted]
    exact h.nextTx

theorem serializes_empty : Serializes empty [] where
  sound := sound_empty
  restaged _ _ h := by cases h
  ended _ h := by cases h
  unused _ _ := rfl
  replayed :=
    { succeeds := fun _ h => by cases h
      rows := fun _ => rfl
      audits := rfl
      commits := rfl
      nextTx := rfl }

variable {s : Store} {events : List Event}

theorem Serializes.quiet (h : Serializes s events) {e : Event} {s' : Store} (hs' : s'.Sound)
    (hcommits : e.commits? = none) (hstaged : ∀ tx, e.stagedIn? tx = none) (hq : Quiet s s') :
    Serializes s' (events ++ [e]) := by
  have hcommitted : committedIn (events ++ [e]) = committedIn events := by
    rw [committedIn_snoc, hcommits, Option.toList_none, List.append_nil]
  have hcalls : ∀ tx, stagedCalls tx (events ++ [e]) = stagedCalls tx events := by
    intro tx
    rw [stagedCalls_snoc, hstaged, Option.toList_none, List.append_nil]
  refine ⟨hs', fun tx t' hopen' hcurrent => ?_, fun tx htx => ?_, fun tx htx => ?_, ?_⟩
  · rw [hcalls, committedRow?_congr hq.rows]
    -- A transaction open now was opened by this step, with nothing staged, or was open before with
    -- the same changes and the same rows current.
    rcases hq.transactions tx t' hopen' with ⟨hnew, rfl⟩ | ⟨t, hopen, hchanges, hsame, -⟩
    · rw [h.unused tx hnew]
      rfl
    · rw [hchanges]
      refine h.restaged tx t hopen fun key hkey => ?_
      have hkey' : t'.stagedRow? key ≠ none := by
        rw [hs'.stagedRow? hopen', hchanges, ← h.sound.stagedRow? hopen]
        exact hkey
      exact (hsame key).1 ((current_congr hq.rows t' key).1 (hcurrent key hkey'))
  · rw [hcommitted] at htx
    obtain ⟨hlt, hclosed⟩ := h.ended tx htx
    refine ⟨Nat.lt_of_lt_of_le hlt hq.nextTx_le, ?_⟩
    cases hopen' : s'.transactions.get? tx with
    | none => rfl
    | some t' =>
      rcases hq.transactions tx t' hopen' with ⟨hnew, -⟩ | ⟨t, hopen, -⟩
      · omega
      · rw [hclosed] at hopen
        cases hopen
  · rw [hcalls]
    exact h.unused tx (Nat.le_trans hq.nextTx_le htx)
  · exact h.replayed.congr hcommitted (fun tx _ => hcalls tx) hq.rows hq.audits hq.commits

theorem Serializes.staged (h : Serializes s events) {e : Event} {tx : TxId} {t : Transaction}
    {change : Change} (hs' : (s.holding tx ((s.prepared t e.call).stage change)).Sound)
    (hcommits : e.commits? = none)
    (hstaged : ∀ other, e.stagedIn? other = if tx = other then some e.call else none)
    (hopen : s.transactions.get? tx = some t)
    (hchange : e.call.changeOn (s.seen t) = some change) :
    Serializes (s.holding tx ((s.prepared t e.call).stage change)) (events ++ [e]) := by
  have hcommitted : committedIn (events ++ [e]) = committedIn events := by
    rw [committedIn_snoc, hcommits, Option.toList_none, List.append_nil]
  have hother : ∀ other, other ≠ tx →
      stagedCalls other (events ++ [e]) = stagedCalls other events := by
    intro other hne
    rw [stagedCalls_snoc, hstaged, if_neg (Ne.symm hne), Option.toList_none, List.append_nil]
  have hown : stagedCalls tx (events ++ [e]) = stagedCalls tx events ++ [e.call] := by
    rw [stagedCalls_snoc, hstaged, if_pos rfl, Option.toList_some]
  refine ⟨hs', fun other t' hopen' hcurrent => ?_, fun other hmem => ?_, fun other hnew => ?_, ?_⟩
  · rw [get?_holding] at hopen'
    split at hopen'
    -- The transaction that stages: its calls so far restage its changes so far, on the rows
    -- committed now, and the last call is judged on those rows with its own changes laid over them.
    · next htx =>
      subst htx
      obtain rfl := Option.some.inj hopen'
      have hbefore : ∀ key, t.stagedRow? key ≠ none → s.Current t key := by
        intro key hkey
        refine (current_prepared h.sound hopen e.call key).1 (hcurrent key ?_)
        rw [Transaction.stagedRow?_stage, stagedRow?_prepared]
        cases change.imageOf? key with
        | none => exact hkey
        | some row => exact Option.some_ne_none row
      have hview : (fun key => (imageIn t.changes key).or (s.committedRow? key)) = s.seen t := by
        funext key
        rw [seen, h.sound.stagedRow? hopen]
      have hlast : e.call.changeOn
          (fun key => (imageIn t.changes key).or (s.committedRow? key)) = some change := by
        rw [hview]
        exact hchange
      have hrestaged : restage s.committedRow? (stagedCalls tx events) = some t.changes :=
        h.restaged tx t hopen hbefore
      rw [hown, restage_snoc, Transaction.stage_changes, changes_prepared, committedRow?_holding,
        hrestaged, Option.bind_some, hlast, Option.map_some]
    · next hne =>
      rw [hother other (Ne.symm hne)]
      exact h.restaged other t' hopen' hcurrent
  · rw [hcommitted] at hmem
    obtain ⟨hlt, hclosed⟩ := h.ended other hmem
    refine ⟨hlt, ?_⟩
    rw [get?_holding, if_neg, hclosed]
    rintro rfl
    rw [hclosed] at hopen
    cases hopen
  · have hlt : tx.number < s.nextTx := h.sound.fresh tx t hopen
    have hnew' : s.nextTx ≤ other.number := hnew
    rw [hother other (by rintro rfl; omega)]
    exact h.unused other hnew'
  · refine h.replayed.congr hcommitted (fun other hmem => hother other ?_) rfl rfl rfl
    rintro rfl
    rw [(h.ended other hmem).2] at hopen
    cases hopen

theorem Serializes.published (h : Serializes s events) {tx : TxId} {t : Transaction}
    (hopen : s.transactions.get? tx = some t)
    (hcurrent : ∀ key, t.stagedRow? key ≠ none → s.Current t key) :
    Serializes (s.publish tx t.changes) (events ++ [⟨.commit tx, .ok ()⟩]) := by
  have hcommitted : committedIn (events ++ [⟨.commit tx, .ok ()⟩]) = committedIn events ++ [tx] :=
    committedIn_snoc events _
  have hcalls : ∀ other,
      stagedCalls other (events ++ [⟨.commit tx, .ok ()⟩]) = stagedCalls other events := by
    intro other
    rw [stagedCalls_snoc]
    exact List.append_nil _
  have hrestaged := h.restaged tx t hopen hcurrent
  refine ⟨h.sound.publish tx t.changes, fun other t' hopen' hcurrent' => ?_, fun other hmem => ?_,
    fun other hnew => ?_, ?_⟩
  · rw [get?_publish] at hopen'
    split at hopen'
    · cases hopen'
    -- Another transaction that is current on the rows it staged after the commit had not staged any
    -- row of this one, so the rows it restages on are those of before.
    · have hfree : ∀ key, t'.stagedRow? key ≠ none →
          imageIn t.changes key = none ∧ s.Current t' key := fun key hkey =>
        current_of_publish h.sound hopen' ((h.sound.transactions other t' hopen').pinned key hkey)
          (hcurrent' key hkey)
      rw [hcalls]
      refine restage_congr (h.restaged other t' hopen' fun key hkey => (hfree key hkey).2)
        fun key hkey => ?_
      rw [← h.sound.stagedRow? hopen'] at hkey
      rw [committedRow?_publish, (hfree key hkey).1, Option.none_or]
  · rw [hcommitted] at hmem
    rw [publish_nextTx, get?_publish]
    rcases List.mem_append.1 hmem with hmem | hmem
    · obtain ⟨hlt, hclosed⟩ := h.ended other hmem
      exact ⟨hlt, by rw [hclosed, ite_self]⟩
    · obtain rfl := List.mem_singleton.1 hmem
      exact ⟨h.sound.fresh other t hopen, if_pos rfl⟩
  · rw [publish_nextTx] at hnew
    rw [hcalls]
    exact h.unused other hnew
  -- The schedule grows by this transaction at its end, and the replay so far has reached the rows
  -- on which the transaction restages what it staged.
  · have hschedule : serialSchedule (events ++ [⟨.commit tx, .ok ()⟩]) =
        serialSchedule events ++
          alone ⟨(empty.run (serialSchedule events)).nextTx⟩ (stagedCalls tx events) := by
      simp only [serialSchedule, hcommitted, hcalls, List.map_append, serialFrom_append,
        List.length_map, List.map_cons, List.map_nil, serialFrom, List.append_nil]
      rw [← serialSchedule, h.replayed.nextTx]
    have hrows : (empty.run (serialSchedule events)).committedRow? = s.committedRow? := by
      funext key
      rw [committedRow?, committedRow?, h.replayed.rows]
    obtain ⟨hok, hget, haudits, hcommits, hnext⟩ := run_alone (sound_empty.run _)
      (fun c hc => isWrite_of_mem_stagedCalls hc) (hrows ▸ hrestaged)
    refine ⟨fun e he => ?_, fun key => ?_, ?_, ?_, ?_⟩
    · rw [hschedule, transcript_append] at he
      rcases List.mem_append.1 he with he | he
      · exact h.replayed.succeeds e he
      · exact hok e he
    · rw [hschedule, run_append, hget, get?_rows_publish, h.replayed.rows, h.replayed.commits]
    · rw [hschedule, run_append, haudits, publish_audits, h.replayed.audits]
    · rw [hschedule, run_append, hcommits, publish_commits, h.replayed.commits]
    · rw [hschedule, run_append, hnext, h.replayed.nextTx, hcommitted, List.length_append]
      rfl

theorem Serializes.progress (h : Serializes s events) {e : Event} {s' : Store} (hs' : s'.Sound)
    (hp : Progress s e s') : Serializes s' (events ++ [e]) := by
  cases hp with
  | quiet _ _ hcommits hstaged hquiet => exact h.quiet hs' hcommits hstaged hquiet
  | staged _ tx t change hcommits hstaged hopen hchange =>
    exact h.staged hs' hcommits hstaged hopen hchange
  | published tx t hopen hcurrent => exact h.published hopen hcurrent

theorem serializes_run (calls : List Call) :
    Serializes (empty.run calls) (empty.transcript calls) := by
  induction calls using List.reverseRecOn with
  | nil => exact serializes_empty
  | append_singleton calls c ih =>
    rw [run_snoc, transcript_snoc]
    exact ih.progress (ih.sound.step c) (progress_step ih.sound c)

/-- **Serial equivalence.** Take any run of interleaved transactions from an empty store, and have
the committed ones repeat, one after another in the order of their commits, the writes they were
granted. Every call succeeds again, and the rows and the audit log come out the same. -/
theorem serialSchedule_equivalent (calls : List Call) :
    let replay := serialSchedule (empty.transcript calls)
    (∀ e ∈ empty.transcript replay, e.succeeded = true) ∧
      (∀ key, (empty.run replay).committedRow? key = (empty.run calls).committedRow? key) ∧
      (empty.run replay).audits = (empty.run calls).audits := by
  have h := (serializes_run calls).replayed
  refine ⟨h.succeeds, fun key => ?_, h.audits⟩
  rw [committedRow?, committedRow?, h.rows]

end Store

end RecordEngine
