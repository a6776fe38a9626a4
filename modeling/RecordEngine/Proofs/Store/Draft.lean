import RecordEngine.Proofs.Store.Transcript
/-!
What a transaction drafts.

Between its begin and its end a transaction collects images of rows, each in place of the one
before. `Store.Drafts` follows a run of calls of one transaction and tells, for every row, the
images it staged on the way; whether the transaction still finds a row current is none of its doing.
Runs are put together by appending the images, so that an operation that makes several calls is as
simple to describe as one call.
-/

set_option autoImplicit false

namespace RecordEngine

/-- The images a transaction staged for a row, in order. -/
def Transaction.images (t : Transaction) (key : RowKey) : List Row :=
  t.changes.filterMap (·.imageOf? key)

theorem imageIn_eq_getLast? (changes : List Change) (key : RowKey) :
    imageIn changes key = (changes.filterMap (·.imageOf? key)).getLast? := by
  induction changes using List.reverseRecOn with
  | nil => rfl
  | append_singleton changes change ih =>
    rw [imageIn_snoc, ih, List.filterMap_append, List.getLast?_append]
    cases hrow : change.imageOf? key <;> simp [hrow]

namespace Transaction

theorem images_stage (t : Transaction) (change : Change) (key : RowKey) :
    (t.stage change).images key = t.images key ++ (change.imageOf? key).toList := by
  rw [images, stage_changes, List.filterMap_append]
  cases hrow : change.imageOf? key <;> simp [images, hrow]

@[simp] theorem images_touch (t : Transaction) (key k : RowKey) (stamp : Option Nat) :
    (t.touch key stamp).images k = t.images k := by
  rw [images, touch_changes, images]

@[simp] theorem images_start (tx : TxId) (key : RowKey) : (start tx).images key = [] := rfl

end Transaction

namespace Store

variable {s s' s'' : Store} {tx : TxId}

/-- The images an open transaction staged for a row. -/
def drafted (s : Store) (tx : TxId) (key : RowKey) : List Row :=
  match s.transactions.get? tx with
  | some t => t.images key
  | none => []

theorem drafted_of_open {t : Transaction} (hopen : s.transactions.get? tx = some t) (key : RowKey) :
    s.drafted tx key = t.images key := by
  rw [drafted, hopen]

/-- What an open transaction sees of a row is the last image it staged, or else what is
committed. -/
theorem seen_eq_getLast? (hs : s.Sound) {t : Transaction}
    (hopen : s.transactions.get? tx = some t) (key : RowKey) :
    s.seen t key = ((t.images key).getLast?).or (s.committedRow? key) := by
  rw [seen, hs.stagedRow? hopen, imageIn_eq_getLast?]
  rfl

/-- A run of calls in one transaction, which staged these images of each row and ended no
transaction. -/
structure Drafts (s : Store) (tx : TxId) (images : RowKey → List Row) (s' : Store) : Prop where
  sound : s'.Sound
  held : ∃ t t', s.transactions.get? tx = some t ∧ s' = s.holding tx t' ∧
    ∀ key, t'.images key = t.images key ++ images key ∧ (s.Current t' key ↔ s.Current t key)

/-- A run that staged nothing. -/
def nothing : RowKey → List Row := fun _ => []

/-- A run that staged one image of one row. -/
def oneImage (key : RowKey) (row : Row) : RowKey → List Row :=
  fun k => if key = k then [row] else []

theorem Drafts.refl (hs : s.Sound) {t : Transaction} (hopen : s.transactions.get? tx = some t) :
    s.Drafts tx nothing s where
  sound := hs
  held := by
    refine ⟨t, t, hopen, ?_, fun key => ⟨(List.append_nil _).symm, Iff.rfl⟩⟩
    rw [holding, Keyed.put_of_get? hopen]

theorem Drafts.trans {images images' : RowKey → List Row} (h : s.Drafts tx images s')
    (h' : s'.Drafts tx images' s'') : s.Drafts tx (fun key => images key ++ images' key) s'' where
  sound := h'.sound
  held := by
    obtain ⟨t, t', hopen, rfl, hdraft⟩ := h.held
    obtain ⟨u, u', hopen', rfl, hdraft'⟩ := h'.held
    have hu : t' = u := by
      rw [get?_holding, if_pos rfl] at hopen'
      exact Option.some.inj hopen'
    subst hu
    refine ⟨t, u', hopen, holding_holding tx _ _, fun key => ⟨?_, ?_⟩⟩
    · rw [(hdraft' key).1, (hdraft key).1, List.append_assoc]
    · exact (hdraft' key).2.trans (hdraft key).2

/-- A run that staged nothing, before another. -/
theorem Drafts.then {images : RowKey → List Row} (h : s.Drafts tx nothing s')
    (h' : s'.Drafts tx images s'') : s.Drafts tx images s'' := h.trans h'

/-- A run that staged nothing, after another. -/
theorem Drafts.and_nothing {images : RowKey → List Row} (h : s.Drafts tx images s')
    (h' : s'.Drafts tx nothing s'') : s.Drafts tx images s'' := by
  have happend : (fun key => images key ++ nothing key) = images :=
    funext fun key => List.append_nil (images key)
  exact happend ▸ h.trans h'

/-- The transaction of a run stays open. -/
theorem Drafts.open {images : RowKey → List Row} (h : s.Drafts tx images s') :
    ∃ t', s'.transactions.get? tx = some t' := by
  obtain ⟨t, t', hopen, rfl, -⟩ := h.held
  exact ⟨t', by rw [get?_holding, if_pos rfl]⟩

/-- What a transaction sees after a run is the last image the run staged, or else what it saw
before. -/
theorem Drafts.seen {images : RowKey → List Row} (h : s.Drafts tx images s') (hs : s.Sound)
    {t t' : Transaction} (hopen : s.transactions.get? tx = some t)
    (hopen' : s'.transactions.get? tx = some t') (key : RowKey) :
    s'.seen t' key = ((images key).getLast?).or (s.seen t key) := by
  obtain ⟨u, u', hu, hs', hdraft⟩ := h.held
  obtain rfl := Option.some.inj (hopen.symm.trans hu)
  have hu' : t' = u' := by
    rw [hs', get?_holding, if_pos rfl] at hopen'
    exact (Option.some.inj hopen').symm
  have hcommitted : s'.committedRow? = s.committedRow? := by rw [hs']; rfl
  rw [seen_eq_getLast? h.sound hopen', seen_eq_getLast? hs hopen, hcommitted, hu', (hdraft key).1,
    List.getLast?_append, Option.or_assoc]

/-- The images of a run join those staged before. -/
theorem Drafts.drafted {images : RowKey → List Row} (h : s.Drafts tx images s') (key : RowKey) :
    s'.drafted tx key = s.drafted tx key ++ images key := by
  obtain ⟨t, t', hopen, rfl, hdraft⟩ := h.held
  have hopen' : (s.holding tx t').transactions.get? tx = some t' := by rw [get?_holding, if_pos rfl]
  rw [drafted_of_open hopen, drafted_of_open hopen', (hdraft key).1]

/-! ## One call -/

theorem drafts_fetch (hs : s.Sound) {t : Transaction} (hopen : s.transactions.get? tx = some t)
    (key : RowKey) :
    (s.step (.fetch tx key)).1 = .ok (s.seen t key) ∧
      s.Drafts tx nothing (s.step (.fetch tx key)).2 := by
  have hsound := hs.step (.fetch tx key)
  have hstep : s.step (.fetch tx key) = (.ok (s.seen t key), s.holding tx (s.touched t key)) :=
    visibleRow_of_open hopen key
  rw [hstep] at hsound ⊢
  refine ⟨rfl, hsound, t, _, hopen, rfl, fun k => ⟨?_, current_touched hs hopen key k⟩⟩
  rw [touched, Transaction.images_touch, nothing, List.append_nil]

theorem drafts_update (hs : s.Sound) {t : Transaction} (hopen : s.transactions.get? tx = some t)
    {key : RowKey} {fields : List (Nat × Value)} {old row : Row} (hseen : s.seen t key = some old)
    (hrow : overwrite key old fields = .ok row) :
    (s.step (.update tx key fields)).1 = .ok () ∧
      s.Drafts tx (oneImage key row) (s.step (.update tx key fields)).2 := by
  have hchange : (Call.update tx key fields).changeOn (s.seen t) = some (.updateRow key row) := by
    simp [Call.changeOn, hseen, hrow, Except.toOption]
  obtain ⟨hok, hstep⟩ := (effect_step hs (.update tx key fields)).of_changeOn rfl hopen hchange
  refine ⟨?_, hs.step _, t, _, hopen, hstep, fun k => ⟨?_, current_touched hs hopen key k⟩⟩
  -- `of_changeOn` says that the call succeeded; its answer carries nothing else.
  · cases hanswer : (s.step (.update tx key fields)).1 with
    | ok answer => rfl
    | error failure => rw [hanswer] at hok; cases hok
  · rw [Transaction.images_stage, oneImage]
    change (s.touched t key).images k ++ Option.toList (if key = k then some row else none) = _
    rw [touched, Transaction.images_touch]
    split <;> rfl

/-- An update that is refused because the row lacks a field. -/
theorem drafts_misfit (hs : s.Sound) {t : Transaction} (hopen : s.transactions.get? tx = some t)
    {key : RowKey} {fields : List (Nat × Value)} {old : Row} {failure : Failure}
    (hseen : s.seen t key = some old) (hrow : overwrite key old fields = .error failure) :
    (s.step (.update tx key fields)).1 = .error failure ∧
      s.Drafts tx nothing (s.step (.update tx key fields)).2 := by
  have hsound := hs.step (.update tx key fields)
  have hstep : s.step (.update tx key fields) =
      (.error failure, s.holding tx (s.touched t key)) := by
    rw [step, update, visibleRow_of_open hopen, hseen]
    simp only [hrow]
  rw [hstep] at hsound ⊢
  refine ⟨rfl, hsound, t, _, hopen, rfl, fun k => ⟨?_, current_touched hs hopen key k⟩⟩
  rw [touched, Transaction.images_touch, nothing, List.append_nil]

theorem drafts_audit (hs : s.Sound) {t : Transaction} (hopen : s.transactions.get? tx = some t)
    (record : AuditRecord) : s.Drafts tx nothing (s.step (.audit tx record)).2 := by
  obtain ⟨-, hstep⟩ := (effect_step hs (.audit tx record)).of_changeOn rfl hopen rfl
  refine ⟨hs.step _, t, _, hopen, hstep, fun k => ⟨?_, Iff.rfl⟩⟩
  rw [Transaction.images_stage]
  rfl

end Store

end RecordEngine
