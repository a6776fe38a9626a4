import RecordEngine.Proofs.Store.Transcript
/-!
What all row images have in common.

The store holds committed rows and, for every open transaction, the rows it staged. They come from
nowhere but inserts and updates, so a property of single rows that every insert has and every update
keeps holds of all of them, whatever was interleaved, refused or rolled back in between.
-/

set_option autoImplicit false

namespace RecordEngine

/-- The event keeps a property of row images: a row inserted has it, and an update of a row that has
it makes one that does. Events that stage no row keep every property. -/
def Event.Upholds (P : RowKey → Row → Prop) (e : Event) : Prop :=
  match e with
  | ⟨.insert _ key row, .ok _⟩ => P key row
  | ⟨.update _ key fields, .ok _⟩ =>
    ∀ old row, P key old → Store.overwrite key old fields = .ok row → P key row
  | _ => True

/-- The row that the event shows, if it is a fetch that found one, has a property. -/
def Event.Shows (P : RowKey → Row → Prop) (e : Event) : Prop :=
  match e with
  | ⟨.fetch _ key, .ok (some row)⟩ => P key row
  | _ => True

namespace Store

/-- Every row image has a property. -/
structure Throughout (s : Store) (P : RowKey → Row → Prop) : Prop where
  committed : ∀ key row, s.committedRow? key = some row → P key row
  staged : ∀ tx t, s.transactions.get? tx = some t →
    ∀ key row, t.stagedRow? key = some row → P key row

variable {s s' : Store} {P : RowKey → Row → Prop} {tx : TxId} {t t' : Transaction}

theorem throughout_empty (P : RowKey → Row → Prop) : empty.Throughout P where
  committed _ _ h := by cases h
  staged _ _ h := by cases h

/-- What a transaction sees is an image like any other. -/
theorem Throughout.seen (h : s.Throughout P) (hopen : s.transactions.get? tx = some t)
    {key : RowKey} {row : Row} (hseen : s.seen t key = some row) : P key row := by
  rcases Option.or_eq_some_iff.1 hseen with hstaged | ⟨-, hcommitted⟩
  · exact h.staged tx t hopen key row hstaged
  · exact h.committed key row hcommitted

theorem Throughout.holding (h : s.Throughout P)
    (ht' : ∀ key row, t'.stagedRow? key = some row → P key row) :
    (s.holding tx t').Throughout P where
  committed := h.committed
  staged other u hu := by
    rw [get?_holding] at hu
    split at hu
    · obtain rfl := Option.some.inj hu
      exact ht'
    · exact h.staged other u hu

theorem Throughout.touched (h : s.Throughout P) (hopen : s.transactions.get? tx = some t)
    (key : RowKey) : (s.holding tx (s.touched t key)).Throughout P := by
  apply h.holding
  intro k row hrow
  rw [Store.touched, Transaction.stagedRow?_touch] at hrow
  exact h.staged tx t hopen k row hrow

/-- Staging a row that has the property. -/
theorem Throughout.wrote (h : s.Throughout P) (hopen : s.transactions.get? tx = some t)
    {key : RowKey} {row : Row} (hrow : P key row) {change : Change}
    (hchange : change.written? = some (key, row)) :
    (s.holding tx ((s.touched t key).stage change)).Throughout P := by
  apply h.holding
  intro k image himage
  rw [stagedRow?_wrote t hchange] at himage
  split at himage
  · next hk =>
    obtain rfl := Option.some.inj himage
    exact hk ▸ hrow
  · exact h.staged tx t hopen k image himage

theorem Throughout.without (h : s.Throughout P) : (s.without tx).Throughout P where
  committed := h.committed
  staged other u hu := by
    rw [get?_without] at hu
    split at hu
    · cases hu
    · exact h.staged other u hu

theorem Throughout.publish (hs : s.Sound) (h : s.Throughout P)
    (hopen : s.transactions.get? tx = some t) : (s.publish tx t.changes).Throughout P where
  committed key row hrow := by
    rw [committedRow?_publish, ← hs.stagedRow? hopen] at hrow
    exact h.seen hopen hrow
  staged other u hu := by
    rw [get?_publish] at hu
    split at hu
    · cases hu
    · exact h.staged other u hu

/-- One call. -/
theorem Throughout.effect (hs : s.Sound) (h : s.Throughout P) {c : Call}
    {answer : Except Failure c.Answer} (heffect : Effect s c answer s')
    (hupholds : Event.Upholds P ⟨c, answer⟩) : s'.Throughout P := by
  cases heffect with
  | opened =>
    have hstart : (s.holding ⟨s.nextTx⟩ (.start ⟨s.nextTx⟩)).Throughout P :=
      h.holding fun _ _ hrow => by cases hrow
    exact ⟨hstart.committed, hstart.staged⟩
  | unknown => exact h
  | fetched tx key t hopen => exact h.touched hopen key
  | inserted tx key row t hopen hseen => exact h.wrote hopen hupholds rfl
  | duplicate tx key row old t hopen hseen => exact h.touched hopen key
  | updated tx key fields old row t hopen hseen hrow =>
    exact h.wrote hopen (hupholds old row (h.seen hopen hseen) hrow) rfl
  | missing tx key fields t hopen hseen => exact h.touched hopen key
  | misfit tx key fields old failure t hopen hseen hrow => exact h.touched hopen key
  | audited tx record t hopen =>
    apply h.holding
    intro key row hrow
    rw [Transaction.stagedRow?_stage] at hrow
    exact h.staged tx t hopen key row hrow
  | committed tx t hopen hcurrent => exact h.publish hs hopen
  | conflicted tx t key hopen hkey hstale => exact h.without
  | rolledBack tx t hopen => exact h.without

/-- A fetch finds an image. -/
theorem Throughout.shows_effect (h : s.Throughout P) {c : Call} {answer : Except Failure c.Answer}
    (heffect : Effect s c answer s') : Event.Shows P ⟨c, answer⟩ := by
  cases heffect with
  | fetched tx key t hopen =>
    cases hseen : s.seen t key with
    | none => trivial
    | some row => exact h.seen hopen hseen
  | unknown => cases c <;> trivial
  | _ => trivial

/-- A run all of whose events keep the property. -/
theorem Throughout.run (hs : s.Sound) (h : s.Throughout P) (calls : List Call)
    (hupholds : ∀ e ∈ s.transcript calls, e.Upholds P) : (s.run calls).Throughout P := by
  induction calls generalizing s with
  | nil => exact h
  | cons c rest ih =>
    obtain ⟨hfirst, hrest⟩ := List.forall_mem_cons.1 hupholds
    exact ih (hs.step c) (h.effect hs (effect_step hs c) hfirst) hrest

/-- No fetch of such a run shows a row without the property. -/
theorem Throughout.shows (hs : s.Sound) (h : s.Throughout P) (calls : List Call)
    (hupholds : ∀ e ∈ s.transcript calls, e.Upholds P) :
    ∀ e ∈ s.transcript calls, e.Shows P := by
  induction calls generalizing s with
  | nil => exact List.forall_mem_nil _
  | cons c rest ih =>
    obtain ⟨hfirst, hrest⟩ := List.forall_mem_cons.1 hupholds
    have heffect := effect_step hs c
    exact List.forall_mem_cons.2
      ⟨h.shows_effect heffect, ih (hs.step c) (h.effect hs heffect hfirst) hrest⟩

end Store

end RecordEngine
