import RecordEngine.Proofs.Store.Effect
/-!
What calls leave alone.

A transaction has a run of calls made, by itself and by others, none of which inserts a row, commits
anything or ends the transaction; the fields that are overwritten are of a kind. Then nothing is
published, and of each row the transaction sees what it saw before, with such overwrites applied.
`Store.Steady` are the properties that survive this, and `Store.Frames` says that they all do. A row
that may not be overwritten at all looks as it did, because then looking so is such a property.
-/

set_option autoImplicit false

namespace RecordEngine

/-- Beside looking at rows, the call does nothing in a transaction and to committed rows but
overwrite fields of a kind. -/
def Call.Spares (tx : TxId) (may : RowKey → List (Nat × Value) → Prop) : Call → Prop
  | .commit _ | .insert .. => False
  | .rollback ended => ended ≠ tx
  | .update _ key fields => may key fields
  | .begin | .fetch .. | .audit .. => True

namespace Store

variable {s s' s'' : Store} {tx : TxId} {may : RowKey → List (Nat × Value) → Prop} {key : RowKey}
  {P : Option Row → Prop}

/-- A property of what is there of a row that no allowed overwrite takes away. -/
def Steady (may : RowKey → List (Nat × Value) → Prop) (key : RowKey) (P : Option Row → Prop) :
    Prop :=
  ∀ fields old row, may key fields → overwrite key old fields = .ok row → P (some old) →
    P (some row)

/-- Of a row that may not be overwritten, everything is steady. -/
theorem steady_of_not (h : ∀ fields, ¬ may key fields) (P : Option Row → Prop) :
    Steady may key P :=
  fun fields _ _ hmay => absurd hmay (h fields)

/-- A run of calls that published nothing and did to the rows that an open transaction sees nothing
but what is allowed. -/
structure Frames (s : Store) (tx : TxId) (may : RowKey → List (Nat × Value) → Prop)
    (s' : Store) : Prop where
  rows : s'.rows = s.rows
  seen : ∀ t, s.transactions.get? tx = some t → ∃ t', s'.transactions.get? tx = some t' ∧
    ∀ key P, Steady may key P → P (s.seen t key) → P (s'.seen t' key)

theorem Frames.refl (s : Store) : s.Frames tx may s where
  rows := rfl
  seen t hopen := ⟨t, hopen, fun _ _ _ hP => hP⟩

theorem Frames.trans (h : s.Frames tx may s') (h' : s'.Frames tx may s'') :
    s.Frames tx may s'' where
  rows := h'.rows.trans h.rows
  seen t hopen := by
    obtain ⟨t', hopen', hseen⟩ := h.seen t hopen
    obtain ⟨t'', hopen'', hseen'⟩ := h'.seen t' hopen'
    exact ⟨t'', hopen'', fun key P hP h => hseen' key P hP (hseen key P hP h)⟩

/-- What a transaction sees of a row that may not be overwritten. -/
theorem Frames.seen_eq (h : s.Frames tx may s') {t t' : Transaction}
    (hopen : s.transactions.get? tx = some t) (hopen' : s'.transactions.get? tx = some t')
    (hkey : ∀ fields, ¬ may key fields) : s'.seen t' key = s.seen t key := by
  obtain ⟨u, hu, hseen⟩ := h.seen t hopen
  obtain rfl := Option.some.inj (hopen'.symm.trans hu)
  exact hseen key (· = s.seen t key) (steady_of_not hkey _) rfl

/-- Something is done to one transaction; if it is the one that is watched, only what is allowed. -/
theorem Frames.holding {other : TxId} {t t' : Transaction}
    (hopen : s.transactions.get? other = some t)
    (h : ∀ key P, Steady may key P → P (s.seen t key) → P (s.seen t' key)) :
    s.Frames tx may (s.holding other t') where
  rows := rfl
  seen u hu := by
    by_cases hother : other = tx
    · subst hother
      obtain rfl := Option.some.inj (hopen.symm.trans hu)
      exact ⟨t', by rw [get?_holding, if_pos rfl], h⟩
    · exact ⟨u, by rw [get?_holding, if_neg hother]; exact hu, fun _ _ _ hP => hP⟩

/-- Looking at a row. -/
theorem Frames.touched {other : TxId} {t : Transaction}
    (hopen : s.transactions.get? other = some t) (k : RowKey) :
    s.Frames tx may (s.holding other (s.touched t k)) := by
  refine .holding hopen fun key P _ hP => ?_
  rw [Store.seen, Store.touched, Transaction.stagedRow?_touch]
  exact hP

/-- A call that spares a transaction leaves it all but what is allowed. -/
theorem Effect.frames (hs : s.Sound) {c : Call} {answer : Except Failure c.Answer}
    (h : Effect s c answer s') (hc : c.Spares tx may) : s.Frames tx may s' := by
  cases h with
  | opened =>
    refine ⟨rfl, fun t hopen => ⟨t, ?_, fun _ _ _ hP => hP⟩⟩
    -- The new transaction is none that is open.
    have hne : (⟨s.nextTx⟩ : TxId) ≠ tx := by
      rintro rfl
      exact absurd (hs.fresh _ t hopen) (Nat.lt_irrefl _)
    exact (get?_holding s _ _ tx).trans ((if_neg hne).trans hopen)
  | unknown => exact .refl s
  | fetched other k t hopen => exact .touched hopen k
  | inserted other k row t hopen hseen => exact hc.elim
  | duplicate other k row old t hopen hseen => exact hc.elim
  | updated other k fields old row t hopen hseen hrow =>
    refine .holding hopen fun key P hP hold => ?_
    rw [Store.seen, stagedRow?_wrote t rfl]
    by_cases hk : k = key
    · subst hk
      rw [if_pos rfl]
      exact hP fields old row hc hrow (hseen ▸ hold)
    · rw [if_neg hk]
      exact hold
  | missing other k fields t hopen hseen => exact .touched hopen k
  | misfit other k fields old failure t hopen hseen hrow => exact .touched hopen k
  | audited other record t hopen =>
    refine .holding hopen fun key P _ hP => ?_
    rw [Store.seen, Transaction.stagedRow?_stage]
    exact hP
  | committed other t hopen hcurrent => exact hc.elim
  | conflicted other t k hopen hk hstale => exact hc.elim
  | rolledBack other t hopen =>
    refine ⟨rfl, fun u hu => ⟨u, ?_, fun _ _ _ hP => hP⟩⟩
    rw [get?_without, if_neg hc]
    exact hu

/-! ## Begin and end -/

/-- A transaction just opened sees what is committed. -/
theorem seen_of_begin (s : Store) : ∃ t, (s.step .begin).2.transactions.get? ⟨s.nextTx⟩ = some t ∧
    ∀ key, (s.step .begin).2.seen t key = s.committedRow? key :=
  ⟨.start ⟨s.nextTx⟩, (get?_holding s ⟨s.nextTx⟩ _ ⟨s.nextTx⟩).trans (if_pos rfl), fun _ => rfl⟩

/-- A commit that is refused leaves the committed rows as they are, and one that goes through
publishes what the transaction sees. -/
theorem commit_cases (hs : s.Sound) (tx : TxId) :
    ((∃ failure, (s.step (.commit tx)).1 = .error failure) ∧
        (s.step (.commit tx)).2.rows = s.rows) ∨
      ∃ t, s.transactions.get? tx = some t ∧ (s.step (.commit tx)).1 = .ok () ∧
        ∀ key, (s.step (.commit tx)).2.committedRow? key = s.seen t key := by
  have heffect := effect_step hs (.commit tx)
  generalize hanswer : (s.step (.commit tx)).1 = answer at heffect ⊢
  generalize hend : (s.step (.commit tx)).2 = s' at heffect ⊢
  cases heffect with
  | unknown => exact .inl ⟨⟨_, rfl⟩, rfl⟩
  | committed _ t hopen hcurrent =>
    refine .inr ⟨t, hopen, rfl, fun key => ?_⟩
    rw [committedRow?_publish, seen, hs.stagedRow? hopen]
  | conflicted => exact .inl ⟨⟨_, rfl⟩, rfl⟩

/-- A rollback leaves the committed rows as they are. -/
theorem rows_rollback (hs : s.Sound) (tx : TxId) : (s.step (.rollback tx)).2.rows = s.rows := by
  have heffect := effect_step hs (.rollback tx)
  generalize (s.step (.rollback tx)).1 = answer at heffect
  generalize (s.step (.rollback tx)).2 = s' at heffect ⊢
  cases heffect with
  | unknown => rfl
  | rolledBack => rfl

end Store

end RecordEngine
