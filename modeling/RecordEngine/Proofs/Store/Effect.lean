import Mathlib.Data.List.Induction
import Mathlib.Tactic.Common
import RecordEngine.Store
/-!
What one call does to the store.

`Store.step` is a function with many exits. `Effect` lists them, each with the condition under which
it is taken, the answer and the store it leaves, in terms of three things a call can do to a
transaction: touch a row, stage a change, and be published or dropped as a whole. `Store.Sound` is
what every run from the empty store keeps and what makes the list complete: open transactions are
active, a staged row is pinned to the stamp it had at the first touch, and no stamp is ahead of the
counter of commits. Everything proved about runs of the store goes through `effect_step` and
`Sound`; no later proof looks inside `step`.
-/

set_option autoImplicit false

namespace RecordEngine

/-! ## Images -/

/-- The image a change gives to a row, if it writes that row. -/
def Change.imageOf? (change : Change) (key : RowKey) : Option Row :=
  change.written?.bind fun (k, row) => if k = key then some row else none

/-- The image a list of changes leaves of a row: that of the last change that writes it. -/
def imageIn (changes : List Change) (key : RowKey) : Option Row :=
  changes.reverse.findSome? (·.imageOf? key)

@[simp] theorem imageIn_nil (key : RowKey) : imageIn [] key = none := rfl

theorem imageIn_snoc (changes : List Change) (change : Change) (key : RowKey) :
    imageIn (changes ++ [change]) key = (change.imageOf? key).or (imageIn changes key) := by
  simp only [imageIn, List.reverse_append, List.reverse_cons, List.reverse_nil, List.nil_append,
    List.singleton_append, List.findSome?_cons]
  cases change.imageOf? key <;> rfl

theorem imageIn_append (a b : List Change) (key : RowKey) :
    imageIn (a ++ b) key = (imageIn b key).or (imageIn a key) := by
  simp only [imageIn, List.reverse_append, List.findSome?_append]

/-- The audit records among a list of changes, in order. -/
def auditsIn (changes : List Change) : List AuditRecord := changes.filterMap Change.audit?

@[simp] theorem auditsIn_nil : auditsIn [] = [] := rfl

theorem auditsIn_append (a b : List Change) : auditsIn (a ++ b) = auditsIn a ++ auditsIn b :=
  List.filterMap_append

/-! ## What a call does to its transaction -/

namespace Transaction

/-- The transaction after looking at a row: one that it did not stage is pinned to its stamp,
unless an earlier touch pinned it. -/
def touch (t : Transaction) (key : RowKey) (stamp : Option Nat) : Transaction :=
  match t.stagedRow? key with
  | some _ => t
  | none => t.observe key stamp

/-- The transaction with one more change staged. -/
def stage (t : Transaction) (change : Change) : Transaction :=
  { t with
    changes := t.changes ++ [change]
    overlay := match change.written? with
      | some (key, row) => t.overlay.put key row
      | none => t.overlay }

@[simp] theorem touch_state (t : Transaction) (key : RowKey) (stamp : Option Nat) :
    (t.touch key stamp).state = t.state := by
  unfold touch; split <;> rfl

@[simp] theorem touch_changes (t : Transaction) (key : RowKey) (stamp : Option Nat) :
    (t.touch key stamp).changes = t.changes := by
  unfold touch; split <;> rfl

@[simp] theorem touch_overlay (t : Transaction) (key : RowKey) (stamp : Option Nat) :
    (t.touch key stamp).overlay = t.overlay := by
  unfold touch; split <;> rfl

@[simp] theorem stagedRow?_touch (t : Transaction) (key k : RowKey) (stamp : Option Nat) :
    (t.touch key stamp).stagedRow? k = t.stagedRow? k := by
  simp only [stagedRow?, touch_overlay]

@[simp] theorem stage_state (t : Transaction) (change : Change) :
    (t.stage change).state = t.state := rfl

@[simp] theorem stage_changes (t : Transaction) (change : Change) :
    (t.stage change).changes = t.changes ++ [change] := rfl

@[simp] theorem stage_bases (t : Transaction) (change : Change) :
    (t.stage change).bases = t.bases := rfl

theorem stagedRow?_stage (t : Transaction) (change : Change) (key : RowKey) :
    (t.stage change).stagedRow? key = (change.imageOf? key).or (t.stagedRow? key) := by
  unfold stage stagedRow? Change.imageOf?
  cases change.written? with
  | none => rfl
  | some written =>
    obtain ⟨k, row⟩ := written
    by_cases h : k = key <;> simp [h]

/-- What holds of every open transaction of a store that has seen so many commits. -/
structure Sound (t : Transaction) (commits : Nat) : Prop where
  active : t.state = .active
  /-- The overlay holds the image that the change log leaves. -/
  staged : ∀ key, t.stagedRow? key = imageIn t.changes key
  /-- A staged row was touched before. -/
  pinned : ∀ key, t.stagedRow? key ≠ none → t.bases.get? key ≠ none
  base_le : ∀ key n, t.bases.get? key = some (some n) → n ≤ commits

/-- A touch pins the row it looks at, once for all. -/
theorem get?_bases_touch {t : Transaction} {commits : Nat} (ht : t.Sound commits)
    (key k : RowKey) (stamp : Option Nat) :
    (t.touch key stamp).bases.get? k =
      if key = k then some ((t.bases.get? k).getD stamp) else t.bases.get? k := by
  unfold touch
  cases hs : t.stagedRow? key with
  | none => exact Keyed.get?_putNew t.bases key k stamp
  | some row =>
    by_cases hk : key = k
    · subst hk
      -- A row already staged is not observed again, but then it is pinned already.
      have hpin : t.bases.get? key ≠ none := by
        refine ht.pinned key ?_
        rw [hs]
        exact Option.some_ne_none row
      obtain ⟨base, hbase⟩ := Option.ne_none_iff_exists'.1 hpin
      simp [hbase]
    · simp [hk]

theorem Sound.start (tx : TxId) (commits : Nat) : (Transaction.start tx).Sound commits where
  active := rfl
  staged _ := rfl
  pinned _ h := absurd rfl h
  base_le _ _ h := by cases h

theorem Sound.touch {t : Transaction} {commits : Nat} (ht : t.Sound commits) (key : RowKey)
    {stamp : Option Nat} (hstamp : ∀ n, stamp = some n → n ≤ commits) :
    (t.touch key stamp).Sound commits where
  active := by rw [touch_state]; exact ht.active
  staged k := by rw [stagedRow?_touch, touch_changes]; exact ht.staged k
  pinned k h := by
    rw [stagedRow?_touch] at h
    rw [get?_bases_touch ht]
    split
    · exact Option.some_ne_none _
    · exact ht.pinned k h
  base_le k n h := by
    rw [get?_bases_touch ht] at h
    split at h
    · cases hb : t.bases.get? k with
      | none =>
        rw [hb] at h
        exact hstamp n (Option.some.inj h)
      | some base =>
        rw [hb] at h
        exact ht.base_le k n (by rw [hb]; exact h)
    · exact ht.base_le k n h

theorem Sound.stage {t : Transaction} {commits : Nat} (ht : t.Sound commits) {change : Change}
    (hpin : ∀ key row, change.written? = some (key, row) → t.bases.get? key ≠ none) :
    (t.stage change).Sound commits where
  active := ht.active
  staged key := by rw [stagedRow?_stage, stage_changes, imageIn_snoc, ht.staged]
  pinned key h := by
    rw [stagedRow?_stage] at h
    rw [stage_bases]
    cases hi : change.imageOf? key with
    | none =>
      rw [hi] at h
      exact ht.pinned key h
    | some row =>
      obtain ⟨⟨k, row'⟩, hw, hk⟩ := Option.bind_eq_some_iff.1 hi
      by_cases hkk : k = key
      · subst hkk
        exact hpin k row' hw
      · simp [hkk] at hk
  base_le := ht.base_le

theorem Sound.mono {t : Transaction} {commits commits' : Nat} (ht : t.Sound commits)
    (h : commits ≤ commits') : t.Sound commits' where
  active := ht.active
  staged := ht.staged
  pinned := ht.pinned
  base_le key n hn := Nat.le_trans (ht.base_le key n hn) h

/-- A row that is pinned takes no further stamp, so recording a change stages it and no more. -/
theorem record_eq_stage {t : Transaction} {commits : Nat} (ht : t.Sound commits) {change : Change}
    (hpin : ∀ key row, change.written? = some (key, row) → t.bases.get? key ≠ none)
    (stamp : Option Nat) : t.record change stamp = .ok (t.stage change) := by
  have hactive : t.checkActive "record change" = .ok () := if_pos ht.active
  rw [record, hactive]
  cases hw : change.written? with
  | none => simp only [stage, hw]; rfl
  | some written =>
    obtain ⟨key, row⟩ := written
    -- `record` observes the row it writes; the pin is there and `putNew` keeps it.
    obtain ⟨base, hbase⟩ := Option.ne_none_iff_exists'.1 (hpin key row hw)
    have hobserve : t.observe key stamp = t := by
      simp only [observe, Keyed.putNew_of_get? hbase]
    simp only [stage, hw, hobserve]
    rfl

end Transaction

/-! ## What a call does to the store -/

/-- The transaction a call is made in. -/
def Call.tx? : Call → Option TxId
  | .begin => none
  | .commit tx => some tx
  | .rollback tx => some tx
  | .fetch tx _ => some tx
  | .insert tx _ _ => some tx
  | .update tx _ _ => some tx
  | .audit tx _ => some tx

/-- Whether a call stages a row or an audit record. -/
def Call.isWrite : Call → Bool
  | .insert .. | .update .. | .audit .. => true
  | _ => false

namespace Store

/-- The store with one transaction in a given state. -/
def holding (s : Store) (tx : TxId) (t : Transaction) : Store :=
  { s with transactions := s.transactions.put tx t }

/-- The store without one transaction. -/
def without (s : Store) (tx : TxId) : Store :=
  { s with transactions := s.transactions.erase tx }

/-- The image of a row in the eyes of a transaction. -/
def seen (s : Store) (t : Transaction) (key : RowKey) : Option Row :=
  (t.stagedRow? key).or (s.committedRow? key)

/-- The transaction after looking at a row of the store. -/
def touched (s : Store) (t : Transaction) (key : RowKey) : Transaction :=
  t.touch key (s.stamp? key)

/-- The store after the rows among the changes of a transaction are published under the next stamp,
and before its audit records are. -/
def publishing (s : Store) (tx : TxId) (changes : List Change) : Store :=
  changes.foldl (apply (s.commits + 1)) { s.without tx with commits := s.commits + 1 }

/-- The store after the changes of a transaction are published under the next stamp. -/
def publish (s : Store) (tx : TxId) (changes : List Change) : Store :=
  (s.publishing tx changes).appendAudits (auditsIn changes)

@[simp] theorem holding_rows (s : Store) (tx : TxId) (t : Transaction) :
    (s.holding tx t).rows = s.rows := rfl

@[simp] theorem holding_audits (s : Store) (tx : TxId) (t : Transaction) :
    (s.holding tx t).audits = s.audits := rfl

@[simp] theorem holding_commits (s : Store) (tx : TxId) (t : Transaction) :
    (s.holding tx t).commits = s.commits := rfl

@[simp] theorem holding_nextTx (s : Store) (tx : TxId) (t : Transaction) :
    (s.holding tx t).nextTx = s.nextTx := rfl

@[simp] theorem committedRow?_holding (s : Store) (tx : TxId) (t : Transaction) :
    (s.holding tx t).committedRow? = s.committedRow? := rfl

theorem get?_holding (s : Store) (tx : TxId) (t : Transaction) (other : TxId) :
    (s.holding tx t).transactions.get? other =
      if tx = other then some t else s.transactions.get? other :=
  Keyed.get?_put s.transactions tx other t

theorem get?_without (s : Store) (tx other : TxId) :
    (s.without tx).transactions.get? other =
      if tx = other then none else s.transactions.get? other :=
  Keyed.get?_erase s.transactions tx other

/-! ### Publishing -/

theorem foldl_apply_transactions (stamp : Nat) (changes : List Change) (s : Store) :
    (changes.foldl (apply stamp) s).transactions = s.transactions := by
  induction changes generalizing s with
  | nil => rfl
  | cons change rest ih => rw [List.foldl_cons, ih]; cases change <;> rfl

theorem foldl_apply_commits (stamp : Nat) (changes : List Change) (s : Store) :
    (changes.foldl (apply stamp) s).commits = s.commits := by
  induction changes generalizing s with
  | nil => rfl
  | cons change rest ih => rw [List.foldl_cons, ih]; cases change <;> rfl

theorem foldl_apply_nextTx (stamp : Nat) (changes : List Change) (s : Store) :
    (changes.foldl (apply stamp) s).nextTx = s.nextTx := by
  induction changes generalizing s with
  | nil => rfl
  | cons change rest ih => rw [List.foldl_cons, ih]; cases change <;> rfl

theorem foldl_apply_audits (stamp : Nat) (changes : List Change) (s : Store) :
    (changes.foldl (apply stamp) s).audits = s.audits := by
  induction changes generalizing s with
  | nil => rfl
  | cons change rest ih => rw [List.foldl_cons, ih]; cases change <;> rfl

/-- The last change that writes a row decides what becomes of it. -/
theorem foldl_apply_get?_rows (stamp : Nat) (changes : List Change) (s : Store) (key : RowKey) :
    (changes.foldl (apply stamp) s).rows.get? key =
      ((imageIn changes key).map (⟨·, stamp⟩)).or (s.rows.get? key) := by
  induction changes using List.reverseRecOn with
  | nil => rfl
  | append_singleton changes change ih =>
    -- From the right: the last change is the one that `imageIn` finds first.
    rw [List.foldl_append, List.foldl_cons, List.foldl_nil, imageIn_snoc]
    cases change with
    | insertRow k row =>
      by_cases hk : k = key <;> simp [apply, Change.imageOf?, Change.written?, hk, ih]
    | updateRow k row =>
      by_cases hk : k = key <;> simp [apply, Change.imageOf?, Change.written?, hk, ih]
    | appendAudit record => exact ih

@[simp] theorem publish_commits (s : Store) (tx : TxId) (changes : List Change) :
    (s.publish tx changes).commits = s.commits + 1 := foldl_apply_commits _ changes _

@[simp] theorem publish_nextTx (s : Store) (tx : TxId) (changes : List Change) :
    (s.publish tx changes).nextTx = s.nextTx := foldl_apply_nextTx _ changes _

@[simp] theorem publish_audits (s : Store) (tx : TxId) (changes : List Change) :
    (s.publish tx changes).audits = s.audits ++ auditsIn changes :=
  congrArg (· ++ auditsIn changes) (foldl_apply_audits _ changes _)

theorem publish_transactions (s : Store) (tx : TxId) (changes : List Change) :
    (s.publish tx changes).transactions = (s.without tx).transactions :=
  foldl_apply_transactions _ changes _

theorem get?_publish (s : Store) (tx : TxId) (changes : List Change) (other : TxId) :
    (s.publish tx changes).transactions.get? other =
      if tx = other then none else s.transactions.get? other := by
  rw [publish_transactions]
  exact get?_without s tx other

theorem get?_rows_publish (s : Store) (tx : TxId) (changes : List Change) (key : RowKey) :
    (s.publish tx changes).rows.get? key =
      ((imageIn changes key).map (⟨·, s.commits + 1⟩)).or (s.rows.get? key) :=
  foldl_apply_get?_rows _ changes _ key

theorem committedRow?_publish (s : Store) (tx : TxId) (changes : List Change) (key : RowKey) :
    (s.publish tx changes).committedRow? key =
      (imageIn changes key).or (s.committedRow? key) := by
  rw [committedRow?, get?_rows_publish]
  cases imageIn changes key <;> rfl

theorem stamp?_publish (s : Store) (tx : TxId) (changes : List Change) (key : RowKey) :
    (s.publish tx changes).stamp? key =
      if imageIn changes key = none then s.stamp? key else some (s.commits + 1) := by
  rw [stamp?, get?_rows_publish]
  cases imageIn changes key <;> simp [stamp?]

/-! ### Conflicts -/

/-- Whether the committed image of a row is the one a transaction first saw; true of a row it never
touched. -/
def Current (s : Store) (t : Transaction) (key : RowKey) : Prop :=
  ∀ base, t.bases.get? key = some base → s.stamp? key = base

theorem current_iff_of_pinned {s : Store} {t : Transaction} {key : RowKey}
    (hpin : t.bases.get? key ≠ none) : s.Current t key ↔ s.stamp? key = t.base key := by
  obtain ⟨base, hbase⟩ := Option.ne_none_iff_exists'.1 hpin
  simp [Current, Transaction.base, hbase]

theorem mem_writtenRows {t : Transaction} {key : RowKey} {base : Option Nat} :
    (key, base) ∈ t.writtenRows ↔ t.stagedRow? key ≠ none ∧ base = t.base key := by
  simp only [Transaction.writtenRows, List.mem_map, Prod.mk.injEq, Keyed.mem_keys,
    Transaction.stagedRow?]
  constructor
  · rintro ⟨k, hk, rfl, rfl⟩
    exact ⟨hk, rfl⟩
  · rintro ⟨hk, rfl⟩
    exact ⟨key, hk, rfl, rfl⟩

section
variable {s : Store} {t : Transaction} {commits : Nat} {written : List (RowKey × Option Nat)}

/-- A commit goes through just if every staged row is current. -/
theorem conflict?_eq_none_iff (ht : t.Sound commits) (hwritten : written.Perm t.writtenRows) :
    s.conflict? written = none ↔ ∀ key, t.stagedRow? key ≠ none → s.Current t key := by
  rw [conflict?, Option.map_eq_none_iff, List.find?_eq_none]
  constructor
  · intro h key hkey
    have hmem := hwritten.mem_iff.2 (mem_writtenRows.2 ⟨hkey, rfl⟩ : (key, t.base key) ∈ _)
    have hfound := h (key, t.base key) hmem
    exact (current_iff_of_pinned (ht.pinned key hkey)).2 (by simpa using hfound)
  · rintro h ⟨key, base⟩ hmem
    obtain ⟨hkey, rfl⟩ := mem_writtenRows.1 (hwritten.mem_iff.1 hmem)
    simpa using (current_iff_of_pinned (ht.pinned key hkey)).1 (h key hkey)

/-- The row a refused commit names is staged and no longer current. -/
theorem of_conflict?_eq_some (ht : t.Sound commits) (hwritten : written.Perm t.writtenRows)
    {key : RowKey} (h : s.conflict? written = some key) :
    t.stagedRow? key ≠ none ∧ ¬ s.Current t key := by
  obtain ⟨⟨k, base⟩, hfind, rfl⟩ := Option.map_eq_some_iff.1 h
  obtain ⟨hkey, rfl⟩ := mem_writtenRows.1 (hwritten.mem_iff.1 (List.mem_of_find?_eq_some hfind))
  refine ⟨hkey, fun hcur => ?_⟩
  have hstale := List.find?_some hfind
  rw [decide_eq_true_eq] at hstale
  exact hstale ((current_iff_of_pinned (ht.pinned k hkey)).1 hcur)

end

/-! ### The effects -/

/-- What every run from the empty store keeps. -/
structure Sound (s : Store) : Prop where
  transactions : ∀ tx t, s.transactions.get? tx = some t → t.Sound s.commits
  fresh : ∀ tx t, s.transactions.get? tx = some t → tx.number < s.nextTx
  stamps : ∀ key stored, s.rows.get? key = some stored →
    1 ≤ stored.stamp ∧ stored.stamp ≤ s.commits

/-- The ways a call can go: the call, its answer, and the store after it. -/
inductive Effect (s : Store) : (c : Call) → Except Failure c.Answer → Store → Prop where
  | opened : Effect s .begin (.ok ⟨s.nextTx⟩)
      { s.holding ⟨s.nextTx⟩ (.start ⟨s.nextTx⟩) with nextTx := s.nextTx + 1 }
  /-- The transaction is not open. -/
  | unknown (c : Call) (tx : TxId) (htx : c.tx? = some tx)
      (hclosed : s.transactions.get? tx = none) : Effect s c (.error (unknownTransaction tx)) s
  | fetched (tx : TxId) (key : RowKey) (t : Transaction)
      (hopen : s.transactions.get? tx = some t) :
      Effect s (.fetch tx key) (.ok (s.seen t key)) (s.holding tx (s.touched t key))
  | inserted (tx : TxId) (key : RowKey) (row : Row) (t : Transaction)
      (hopen : s.transactions.get? tx = some t) (hseen : s.seen t key = none) :
      Effect s (.insert tx key row) (.ok ())
        (s.holding tx ((s.touched t key).stage (.insertRow key row)))
  /-- An insert of a row that is there. -/
  | duplicate (tx : TxId) (key : RowKey) (row old : Row) (t : Transaction)
      (hopen : s.transactions.get? tx = some t) (hseen : s.seen t key = some old) :
      Effect s (.insert tx key row) (.error (.execution (key.text ++ " already exists")))
        (s.holding tx (s.touched t key))
  | updated (tx : TxId) (key : RowKey) (fields : List (Nat × Value)) (old row : Row)
      (t : Transaction) (hopen : s.transactions.get? tx = some t)
      (hseen : s.seen t key = some old) (hrow : overwrite key old fields = .ok row) :
      Effect s (.update tx key fields) (.ok ())
        (s.holding tx ((s.touched t key).stage (.updateRow key row)))
  /-- An update of a row that is not there. -/
  | missing (tx : TxId) (key : RowKey) (fields : List (Nat × Value)) (t : Transaction)
      (hopen : s.transactions.get? tx = some t) (hseen : s.seen t key = none) :
      Effect s (.update tx key fields) (.error (.notFound key.table key.id))
        (s.holding tx (s.touched t key))
  /-- An update of a field that the row lacks. -/
  | misfit (tx : TxId) (key : RowKey) (fields : List (Nat × Value)) (old : Row)
      (failure : Failure) (t : Transaction) (hopen : s.transactions.get? tx = some t)
      (hseen : s.seen t key = some old) (hrow : overwrite key old fields = .error failure) :
      Effect s (.update tx key fields) (.error failure) (s.holding tx (s.touched t key))
  | audited (tx : TxId) (record : AuditRecord) (t : Transaction)
      (hopen : s.transactions.get? tx = some t) :
      Effect s (.audit tx record) (.ok ()) (s.holding tx (t.stage (.appendAudit record)))
  | committed (tx : TxId) (t : Transaction) (hopen : s.transactions.get? tx = some t)
      (hcurrent : ∀ key, t.stagedRow? key ≠ none → s.Current t key) :
      Effect s (.commit tx) (.ok ()) (s.publish tx t.changes)
  | conflicted (tx : TxId) (t : Transaction) (key : RowKey)
      (hopen : s.transactions.get? tx = some t) (hkey : t.stagedRow? key ≠ none)
      (hstale : ¬ s.Current t key) :
      Effect s (.commit tx)
        (.error (.conflict (key.text ++ " was modified by another transaction"))) (s.without tx)
  | rolledBack (tx : TxId) (t : Transaction) (hopen : s.transactions.get? tx = some t) :
      Effect s (.rollback tx) (.ok ()) (s.without tx)

variable {s : Store}

theorem visibleRow_of_open {tx : TxId} {t : Transaction}
    (hopen : s.transactions.get? tx = some t) (key : RowKey) :
    s.visibleRow tx key = (.ok (s.seen t key), s.holding tx (s.touched t key)) := by
  unfold visibleRow
  rw [hopen]
  cases hs : t.stagedRow? key with
  | none => simp [seen, touched, Transaction.touch, holding, hs]
  | some row => simp [seen, touched, Transaction.touch, holding, hs, Keyed.put_of_get? hopen]

theorem stage_of_open {tx : TxId} {t : Transaction} {commits : Nat}
    (hopen : s.transactions.get? tx = some t) (ht : t.Sound commits) {change : Change}
    (hpin : ∀ key row, change.written? = some (key, row) → t.bases.get? key ≠ none)
    (stamp : Option Nat) :
    s.stage tx change stamp = (.ok (), s.holding tx (t.stage change)) := by
  simp only [stage, hopen, t.record_eq_stage ht hpin stamp, holding]

theorem holding_holding (tx : TxId) (t t' : Transaction) :
    (s.holding tx t).holding tx t' = s.holding tx t' := by
  simp only [holding, Keyed.put_put]

theorem Sound.stamp_le (hs : s.Sound) {key : RowKey} {n : Nat} (h : s.stamp? key = some n) :
    n ≤ s.commits := by
  obtain ⟨stored, hstored, rfl⟩ := Option.map_eq_some_iff.1 h
  exact (hs.stamps key stored hstored).2

theorem Sound.touched (hs : s.Sound) {tx : TxId} {t : Transaction}
    (hopen : s.transactions.get? tx = some t) (key : RowKey) :
    (s.touched t key).Sound s.commits :=
  (hs.transactions tx t hopen).touch key fun _ h => hs.stamp_le h

/-- The image of a row in the change log of an open transaction is the one it staged. -/
theorem Sound.stagedRow? (hs : s.Sound) {tx : TxId} {t : Transaction}
    (hopen : s.transactions.get? tx = some t) (key : RowKey) :
    t.stagedRow? key = imageIn t.changes key := (hs.transactions tx t hopen).staged key

/-- A touched row is pinned. -/
theorem get?_bases_touched (hs : s.Sound) {tx : TxId} {t : Transaction}
    (hopen : s.transactions.get? tx = some t) (key k : RowKey) :
    (s.touched t key).bases.get? k =
      if key = k then some ((t.bases.get? k).getD (s.stamp? key)) else t.bases.get? k :=
  Transaction.get?_bases_touch (hs.transactions tx t hopen) key k (s.stamp? key)

theorem pinned_touched (hs : s.Sound) {tx : TxId} {t : Transaction}
    (hopen : s.transactions.get? tx = some t) (key : RowKey) :
    (s.touched t key).bases.get? key ≠ none := by
  rw [get?_bases_touched hs hopen, if_pos rfl]
  exact Option.some_ne_none _

/-- Staging a change of a row just looked at. -/
theorem stage_touched (hs : s.Sound) {tx : TxId} {t : Transaction}
    (hopen : s.transactions.get? tx = some t) (change : Change) {key : RowKey} {row : Row}
    (hw : change.written? = some (key, row)) (stamp : Option Nat) :
    (s.holding tx (s.touched t key)).stage tx change stamp =
      (.ok (), s.holding tx ((s.touched t key).stage change)) := by
  have hheld : (s.holding tx (s.touched t key)).transactions.get? tx = some (s.touched t key) := by
    rw [get?_holding, if_pos rfl]
  have hpin : ∀ k r, change.written? = some (k, r) → (s.touched t key).bases.get? k ≠ none := by
    intro k r hk
    obtain ⟨rfl, rfl⟩ := Prod.mk.inj (Option.some.inj (hw.symm.trans hk))
    exact pinned_touched hs hopen key
  rw [stage_of_open hheld (hs.touched hopen key) hpin, holding_holding]

/-- A change of a row just looked at is the image of that row, and of no other. -/
theorem stagedRow?_wrote (t : Transaction) {change : Change} {key : RowKey} {row : Row}
    (hw : change.written? = some (key, row)) (k : RowKey) :
    ((s.touched t key).stage change).stagedRow? k =
      if key = k then some row else t.stagedRow? k := by
  rw [Transaction.stagedRow?_stage, Change.imageOf?, hw, Option.bind_some, touched,
    Transaction.stagedRow?_touch]
  by_cases hk : key = k <;> simp [hk]

theorem effect_insert (hs : s.Sound) {tx : TxId} {t : Transaction}
    (hopen : s.transactions.get? tx = some t) (key : RowKey) (row : Row) :
    Effect s (.insert tx key row) (s.insert tx key row).1 (s.insert tx key row).2 := by
  unfold insert
  rw [visibleRow_of_open hopen]
  cases hseen : s.seen t key with
  | none =>
    simp only [stage_touched hs hopen (.insertRow key row) rfl]
    exact .inserted tx key row t hopen hseen
  | some old => exact .duplicate tx key row old t hopen hseen

theorem effect_update (hs : s.Sound) {tx : TxId} {t : Transaction}
    (hopen : s.transactions.get? tx = some t) (key : RowKey) (fields : List (Nat × Value)) :
    Effect s (.update tx key fields) (s.update tx key fields).1 (s.update tx key fields).2 := by
  unfold update
  rw [visibleRow_of_open hopen]
  cases hseen : s.seen t key with
  | none => exact .missing tx key fields t hopen hseen
  | some old =>
    cases hrow : overwrite key old fields with
    | error failure => simp only [hrow]; exact .misfit tx key fields old failure t hopen hseen hrow
    | ok row =>
      simp only [hrow, stage_touched hs hopen (.updateRow key row) rfl]
      exact .updated tx key fields old row t hopen hseen hrow

/-- Written rows may be looked through in the order in which they are kept. -/
theorem perm_id (written : List (RowKey × Option Nat)) : (id written).Perm written := .refl _

section
variable {arrange : List (RowKey × Option Nat) → List (RowKey × Option Nat)}

/-- The first half of a commit of an open transaction publishes its rows, every row that it staged
being current, or drops its changes, naming a row that is not. -/
theorem publishRows_of_open (harrange : ∀ written, (arrange written).Perm written) (hs : s.Sound)
    {tx : TxId} {t : Transaction} (hopen : s.transactions.get? tx = some t) :
    ((∀ key, t.stagedRow? key ≠ none → s.Current t key) ∧
        s.publishRows tx arrange = (.ok (auditsIn t.changes), s.publishing tx t.changes)) ∨
      ∃ key, t.stagedRow? key ≠ none ∧ ¬ s.Current t key ∧
        s.publishRows tx arrange =
          (.error (.conflict (key.text ++ " was modified by another transaction")),
            s.without tx) := by
  have ht := hs.transactions tx t hopen
  -- `publishRows` takes the transaction out of the store before it looks for a conflict; the rows
  -- that the search reads are the same.
  have hconflict : Store.conflict? { s with transactions := s.transactions.erase tx }
      (arrange t.writtenRows) = s.conflict? (arrange t.writtenRows) := rfl
  unfold publishRows
  simp only [hopen, hconflict]
  cases hc : s.conflict? (arrange t.writtenRows) with
  | none =>
    have hcommit : t.commit =
        .ok (t.changes, { t with state := .committed, overlay := .empty, changes := [] }) := by
      rw [Transaction.commit, show t.checkActive "commit" = .ok () from if_pos ht.active]
      rfl
    simp only [hcommit]
    exact .inl ⟨(conflict?_eq_none_iff ht (harrange _)).1 hc, rfl⟩
  | some key =>
    have hrollback : t.rollback =
        .ok { t with state := .aborted, overlay := .empty, changes := [] } := by
      rw [Transaction.rollback, show t.checkActive "rollback" = .ok () from if_pos ht.active]
      rfl
    obtain ⟨hkey, hstale⟩ := of_conflict?_eq_some ht (harrange _) hc
    simp only [hrollback]
    exact .inr ⟨key, hkey, hstale, rfl⟩

/-- In which order the written rows are looked through decides nothing but which row a refusal
names. -/
theorem publishRows_arrange (harrange : ∀ written, (arrange written).Perm written) (hs : s.Sound)
    (tx : TxId) :
    (s.publishRows tx arrange).2 = (s.publishRows tx).2 ∧
      ((s.publishRows tx arrange).1 = (s.publishRows tx).1 ∨
        ∃ key key' : RowKey,
          (s.publishRows tx).1 =
              .error (.conflict (key.text ++ " was modified by another transaction")) ∧
            (s.publishRows tx arrange).1 =
              .error (.conflict (key'.text ++ " was modified by another transaction"))) := by
  cases hopen : s.transactions.get? tx with
  | none =>
    have hclosed (arrange) : s.publishRows tx arrange = (.error (unknownTransaction tx), s) := by
      rw [publishRows, hopen]
    rw [hclosed, hclosed]
    exact ⟨rfl, .inl rfl⟩
  | some t =>
    rcases publishRows_of_open harrange hs hopen with ⟨hcurrent, h⟩ | ⟨key', hkey', hstale', h⟩ <;>
      rcases publishRows_of_open perm_id hs hopen with
        ⟨hcurrent₀, h₀⟩ | ⟨key, hkey, hstale, h₀⟩
    · exact ⟨by rw [h, h₀], .inl (by rw [h, h₀])⟩
    · exact absurd (hcurrent key hkey) hstale
    · exact absurd (hcurrent₀ key' hkey') hstale'
    · exact ⟨by rw [h, h₀], .inr ⟨key, key', by rw [h₀], by rw [h]⟩⟩

end

/-- A commit of an open transaction publishes its changes, every row that it staged being current,
or drops them, naming one that is not. -/
theorem commit_of_open (hs : s.Sound) {tx : TxId} {t : Transaction}
    (hopen : s.transactions.get? tx = some t) :
    ((∀ key, t.stagedRow? key ≠ none → s.Current t key) ∧
        s.commit tx = (.ok (), s.publish tx t.changes)) ∨
      ∃ key, t.stagedRow? key ≠ none ∧ ¬ s.Current t key ∧
        s.commit tx = (.error (.conflict (key.text ++ " was modified by another transaction")),
          s.without tx) := by
  rcases publishRows_of_open perm_id hs hopen with
    ⟨hcurrent, h⟩ | ⟨key, hkey, hstale, h⟩
  · exact .inl ⟨hcurrent, by rw [commit, h]; rfl⟩
  · exact .inr ⟨key, hkey, hstale, by rw [commit, h]⟩

theorem effect_commit (hs : s.Sound) {tx : TxId} {t : Transaction}
    (hopen : s.transactions.get? tx = some t) :
    Effect s (.commit tx) (s.commit tx).1 (s.commit tx).2 := by
  rcases commit_of_open hs hopen with ⟨hcurrent, h⟩ | ⟨key, hkey, hstale, h⟩
  · rw [h]
    exact .committed tx t hopen hcurrent
  · rw [h]
    exact .conflicted tx t key hopen hkey hstale

theorem effect_rollback (hs : s.Sound) {tx : TxId} {t : Transaction}
    (hopen : s.transactions.get? tx = some t) :
    Effect s (.rollback tx) (s.rollback tx).1 (s.rollback tx).2 := by
  have hrollback : t.rollback =
      .ok { t with state := .aborted, overlay := .empty, changes := [] } := by
    rw [Transaction.rollback,
      show t.checkActive "rollback" = .ok () from if_pos (hs.transactions tx t hopen).active]
    rfl
  unfold rollback
  simp only [hopen, hrollback]
  exact .rolledBack tx t hopen

theorem effect_audit (hs : s.Sound) {tx : TxId} {t : Transaction}
    (hopen : s.transactions.get? tx = some t) (record : AuditRecord) :
    Effect s (.audit tx record) (s.audit tx record).1 (s.audit tx record).2 := by
  have hpin : ∀ key row, (Change.appendAudit record).written? = some (key, row) →
      t.bases.get? key ≠ none := fun _ _ h => by cases h
  rw [audit, stage_of_open hopen (hs.transactions tx t hopen) hpin]
  exact .audited tx record t hopen

/-- Every call but `begin` looks its transaction up first, and gives up if it is not there. -/
theorem step_of_closed {c : Call} {tx : TxId} (htx : c.tx? = some tx)
    (hclosed : s.transactions.get? tx = none) :
    s.step c = (.error (unknownTransaction tx), s) := by
  cases c with
  | begin => cases htx
  | _ =>
    obtain rfl := Option.some.inj htx
    simp only [step, commit, publishRows, rollback, fetch, insert, update, audit, stage, visibleRow,
      hclosed]

/-- Every call on a sound store has one of the listed effects. -/
theorem effect_step (hs : s.Sound) (c : Call) : Effect s c (s.step c).1 (s.step c).2 := by
  cases htx : c.tx? with
  | none =>
    cases c with
    | begin => exact .opened
    | _ => cases htx
  | some tx =>
    cases hopen : s.transactions.get? tx with
    | none =>
      rw [step_of_closed htx hopen]
      exact .unknown c tx htx hopen
    | some t =>
      cases c with
      | begin => cases htx
      | commit => obtain rfl := Option.some.inj htx; exact effect_commit hs hopen
      | rollback => obtain rfl := Option.some.inj htx; exact effect_rollback hs hopen
      | fetch =>
        obtain rfl := Option.some.inj htx
        simp only [step, fetch, visibleRow_of_open hopen]
        exact .fetched _ _ t hopen
      | insert => obtain rfl := Option.some.inj htx; exact effect_insert hs hopen _ _
      | update => obtain rfl := Option.some.inj htx; exact effect_update hs hopen _ _
      | audit => obtain rfl := Option.some.inj htx; exact effect_audit hs hopen _

/-- Numbers are given out in ascending order. -/
theorem Effect.nextTx_le {s' : Store} {c : Call} {answer : Except Failure c.Answer}
    (h : Effect s c answer s') :
    s.nextTx ≤ s'.nextTx := by
  cases h with
  | opened => exact Nat.le_succ _
  | committed => exact Nat.le_of_eq (publish_nextTx s _ _).symm
  | _ => exact Nat.le_refl _

/-! ### Soundness of runs -/

theorem Sound.holding (hs : s.Sound) {tx : TxId} {t t' : Transaction}
    (hopen : s.transactions.get? tx = some t) (ht' : t'.Sound s.commits) :
    (s.holding tx t').Sound where
  transactions other u hu := by
    rw [get?_holding] at hu
    split at hu
    · exact Option.some.inj hu ▸ ht'
    · exact hs.transactions other u hu
  fresh other u hu := by
    rw [get?_holding] at hu
    split at hu
    · next h => exact h ▸ hs.fresh tx t hopen
    · exact hs.fresh other u hu
  stamps := hs.stamps

theorem Sound.without (hs : s.Sound) (tx : TxId) : (s.without tx).Sound where
  transactions other u hu := by
    rw [get?_without] at hu
    split at hu
    · cases hu
    · exact hs.transactions other u hu
  fresh other u hu := by
    rw [get?_without] at hu
    split at hu
    · cases hu
    · exact hs.fresh other u hu
  stamps := hs.stamps

theorem Sound.opened (hs : s.Sound) :
    Store.Sound { s.holding ⟨s.nextTx⟩ (.start ⟨s.nextTx⟩) with nextTx := s.nextTx + 1 } where
  transactions other u hu := by
    change (s.holding _ _).transactions.get? other = some u at hu
    rw [get?_holding] at hu
    split at hu
    · exact Option.some.inj hu ▸ Transaction.Sound.start _ _
    · exact hs.transactions other u hu
  fresh other u hu := by
    change (s.holding _ _).transactions.get? other = some u at hu
    rw [get?_holding] at hu
    split at hu
    · next h => exact h ▸ Nat.lt_succ_self s.nextTx
    · exact Nat.lt_succ_of_lt (hs.fresh other u hu)
  stamps := hs.stamps

theorem Sound.publish (hs : s.Sound) (tx : TxId) (changes : List Change) :
    (s.publish tx changes).Sound where
  transactions other u hu := by
    rw [get?_publish] at hu
    rw [publish_commits]
    split at hu
    · cases hu
    · exact (hs.transactions other u hu).mono (Nat.le_succ s.commits)
  fresh other u hu := by
    rw [get?_publish] at hu
    rw [publish_nextTx]
    split at hu
    · cases hu
    · exact hs.fresh other u hu
  stamps key stored h := by
    rw [get?_rows_publish] at h
    rw [publish_commits]
    cases hi : imageIn changes key with
    | none =>
      rw [hi] at h
      have hstamp := hs.stamps key stored h
      omega
    | some row =>
      rw [hi] at h
      obtain rfl := Option.some.inj h
      exact ⟨Nat.le_add_left 1 s.commits, Nat.le_refl _⟩

theorem sound_empty : Store.empty.Sound where
  transactions _ _ h := by cases h
  fresh _ _ h := by cases h
  stamps _ _ h := by cases h

theorem Sound.effect (hs : s.Sound) {c : Call} {answer : Except Failure c.Answer} {s' : Store}
    (h : Effect s c answer s') : s'.Sound := by
  cases h with
  | opened => exact hs.opened
  | unknown => exact hs
  | fetched tx key t hopen => exact hs.holding hopen (hs.touched hopen key)
  | inserted tx key row t hopen hseen =>
    refine hs.holding hopen ((hs.touched hopen key).stage fun k r hk => ?_)
    obtain ⟨rfl, -⟩ := Prod.mk.inj (Option.some.inj hk)
    exact pinned_touched hs hopen key
  | duplicate tx key row old t hopen => exact hs.holding hopen (hs.touched hopen key)
  | updated tx key fields old row t hopen hseen hrow =>
    refine hs.holding hopen ((hs.touched hopen key).stage fun k r hk => ?_)
    obtain ⟨rfl, -⟩ := Prod.mk.inj (Option.some.inj hk)
    exact pinned_touched hs hopen key
  | missing tx key fields t hopen => exact hs.holding hopen (hs.touched hopen key)
  | misfit tx key fields old failure t hopen => exact hs.holding hopen (hs.touched hopen key)
  | audited tx record t hopen =>
    exact hs.holding hopen ((hs.transactions tx t hopen).stage fun _ _ h => by cases h)
  | committed tx t hopen => exact hs.publish tx t.changes
  | conflicted tx t key hopen => exact hs.without tx
  | rolledBack tx t hopen => exact hs.without tx

theorem Sound.step (hs : s.Sound) (c : Call) : (s.step c).2.Sound := hs.effect (effect_step hs c)

theorem Sound.run (hs : s.Sound) (calls : List Call) : (s.run calls).Sound := by
  induction calls generalizing s with
  | nil => exact hs
  | cons c rest ih => exact ih (hs.step c)

end Store

end RecordEngine
