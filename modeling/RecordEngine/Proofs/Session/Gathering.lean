import RecordEngine.Proofs.Session.Sharing
/-!
What a session gathers in its transaction.

A transaction that stays open only ever stages more, and what a call adds to it is said once
(`Store.Adding`). So something that is known of all that was staged since some time is kept by a
whole operation if it is kept by each call that the operation may make (`Backend.Gathers`).

Two things are known in this way. Handlers that write no row stage no row. And the images that a
session stages of one row are all those of records that could be saved as they are, if the row was
such a one to begin with and nobody else commits it in the meantime: what a create inserts is in
order, and what a save writes leaves in order what was.
-/

set_option autoImplicit false

namespace RecordEngine

variable {β σ : Type} {E : EntityType}

namespace Store

variable {s s' : Store} {own : TxId} {staged staged' : List Change} {key : RowKey} {row : Row}

/-- What a call adds to what a transaction has staged. -/
inductive Adding (s : Store) (own : TxId) (staged : List Change) : Call → List Change → Prop where
  | nothing (c : Call) : Adding s own staged c []
  | audited (record : AuditRecord) : Adding s own staged (.audit own record) [.appendAudit record]
  | inserted (key : RowKey) (row : Row) :
      Adding s own staged (.insert own key row) [.insertRow key row]
  | updated (key : RowKey) (fields : List (Nat × Value)) (old image : Row)
      (hseen : (imageIn staged key).or (s.committedRow? key) = some old)
      (himage : overwrite key old fields = .ok image) :
      Adding s own staged (.update own key fields) [.updateRow key image]

/-- A call after which a transaction is still open has added to what it had staged. -/
theorem Effect.adding (hs : s.Sound) {c : Call} {answer : Except Failure c.Answer}
    (h : Effect s c answer s') (hstaged : s.changesOf own = some staged)
    (hstaged' : s'.changesOf own = some staged') :
    ∃ more, staged' = staged ++ more ∧ s.Adding own staged c more := by
  by_cases hc : c.tx? = some own
  · obtain ⟨t, hopen, rfl⟩ := Option.map_eq_some_iff.1 hstaged
    -- What is left of the transaction after a call in it is read off the effect.
    have hholding {t₁ t₁' : Transaction} (hother : s.transactions.get? own = some t₁)
        (hafter : (s.holding own t₁').changesOf own = some staged') :
        t₁ = t ∧ staged' = t₁'.changes := by
      rw [changesOf, get?_holding, if_pos rfl] at hafter
      exact ⟨Option.some.inj (hother.symm.trans hopen), (Option.some.inj hafter).symm⟩
    have htouched {t₁ : Transaction} (key : RowKey) (hother : s.transactions.get? own = some t₁)
        (hafter : (s.holding own (s.touched t₁ key)).changesOf own = some staged') :
        staged' = t.changes ++ [] := by
      obtain ⟨rfl, rfl⟩ := hholding hother hafter
      rw [touched, Transaction.touch_changes, List.append_nil]
    have hwrote {t₁ : Transaction} (key : RowKey) (change : Change)
        (hother : s.transactions.get? own = some t₁)
        (hafter : (s.holding own ((s.touched t₁ key).stage change)).changesOf own =
          some staged') : t₁ = t ∧ staged' = t.changes ++ [change] := by
      obtain ⟨rfl, rfl⟩ := hholding hother hafter
      exact ⟨rfl, by rw [Transaction.stage_changes, touched, Transaction.touch_changes]⟩
    have hwithout (hafter : (s.without own).changesOf own = some staged') : False := by
      rw [changesOf, get?_without, if_pos rfl] at hafter
      cases hafter
    cases h with
    | opened => cases hc
    | unknown c tx htx hclosed =>
      obtain rfl := Option.some.inj (htx.symm.trans hc)
      rw [hopen] at hclosed
      cases hclosed
    | fetched tx key t₁ hother =>
      obtain rfl := Option.some.inj hc
      exact ⟨_, htouched key hother hstaged', .nothing _⟩
    | inserted tx key row t₁ hother =>
      obtain rfl := Option.some.inj hc
      exact ⟨_, (hwrote key _ hother hstaged').2, .inserted key row⟩
    | duplicate tx key row old t₁ hother =>
      obtain rfl := Option.some.inj hc
      exact ⟨_, htouched key hother hstaged', .nothing _⟩
    | updated tx key fields old image t₁ hother hseen himage =>
      obtain rfl := Option.some.inj hc
      obtain ⟨rfl, hchanges⟩ := hwrote key _ hother hstaged'
      rw [hs.seen_eq hopen] at hseen
      exact ⟨_, hchanges, .updated key fields old image hseen himage⟩
    | missing tx key fields t₁ hother =>
      obtain rfl := Option.some.inj hc
      exact ⟨_, htouched key hother hstaged', .nothing _⟩
    | misfit tx key fields old failure t₁ hother =>
      obtain rfl := Option.some.inj hc
      exact ⟨_, htouched key hother hstaged', .nothing _⟩
    | audited tx record t₁ hother =>
      obtain rfl := Option.some.inj hc
      obtain ⟨rfl, rfl⟩ := hholding hother hstaged'
      exact ⟨_, Transaction.stage_changes _ _, .audited record⟩
    | committed tx t₁ hother =>
      obtain rfl := Option.some.inj hc
      rw [changesOf, get?_publish, if_pos rfl] at hstaged'
      cases hstaged'
    | conflicted tx =>
      obtain rfl := Option.some.inj hc
      exact (hwithout hstaged').elim
    | rolledBack tx =>
      obtain rfl := Option.some.inj hc
      exact (hwithout hstaged').elim
  · refine ⟨[], ?_, .nothing c⟩
    rw [List.append_nil]
    exact Option.some.inj (hstaged'.symm.trans (h.changesOf_of_ne hs hc hstaged))

/-- A transaction that was begun and is open has been open before. -/
theorem Sound.changesOf_of_run (hs : s.Sound) (hbegun : own.number < s.nextTx) {calls : List Call}
    (h : (s.run calls).changesOf own = some staged') : ∃ staged, s.changesOf own = some staged := by
  cases hopen : s.transactions.get? own with
  | some t => exact ⟨t.changes, by rw [changesOf, hopen]; rfl⟩
  | none =>
    rw [changesOf, (hs.ended_run ⟨hbegun, hopen⟩ calls).closed] at h
    cases h

end Store

/-! ## What is known of it -/

/-- What a call writes of a row in the transaction is of a kind, if what it overwrites is. -/
def Call.Upholds (own : TxId) (key : RowKey) (P : Row → Prop) : Call → Prop
  | .insert tx k row => tx = own → k = key → P row
  | .update tx k fields => tx = own → k = key → ∀ old image, P old →
      Store.overwrite k old fields = .ok image → P image
  | _ => True

theorem Call.SparesRows.upholds {own : TxId} {c : Call} (h : c.SparesRows own) (key : RowKey)
    (P : Row → Prop) : c.Upholds own key P := by
  cases c with
  | insert => exact fun htx => absurd htx h
  | update => exact fun htx => absurd htx h
  | _ => trivial

/-- The images that were staged of a row are of a kind, if nobody has committed the row since the
start. That does not matter if it had been staged by then. -/
def Store.Upheld (start : Store) (staged : List Change) (key : RowKey) (P : Row → Prop)
    (u : Store) (later : List Change) : Prop :=
  imageIn staged key ≠ none ∨ u.stampNo key = start.stampNo key →
    ∀ row, imageIn (staged ++ later) key = some row → P row

/-- Since some time, when one's own transaction had staged some changes, it has been ended, or it
has staged more, of which something is known. -/
structure Backend.Gathers (store : β → Store) (mine : β → TxId → Prop) (own : TxId) (start : β)
    (staged : List Change) (Q : Store → List Change → Prop) (b : β) : Prop where
  since : Backend.Since store mine own start b
  gathered : ∀ staged', (store b).changesOf own = some staged' →
    ∃ later, staged' = staged ++ later ∧ Q (store b) later

section
variable {backend : Backend β} {store : β → Store} {mine : β → TxId → Prop} {own : TxId}
  {start : β} {staged : List Change} {Q : Store → List Change → Prop} {may : Call → Prop}

/-- At the start nothing has been gathered. -/
theorem Backend.Staging.gathers (h : Backend.Staging store mine own staged start)
    (hQ : Q (store start) []) : Backend.Gathers store mine own start staged Q start where
  since := h.since
  gathered staged' hstaged' := by
    obtain rfl := Option.some.inj (h.staged.symm.trans hstaged')
    exact ⟨[], (List.append_nil _).symm, hQ⟩

theorem Backend.Staging.gathers_upheld (h : Backend.Staging store mine own staged start)
    {key : RowKey} {P : Row → Prop}
    (hstart : ∀ row, (imageIn staged key).or ((store start).committedRow? key) = some row → P row) :
    Backend.Gathers store mine own start staged ((store start).Upheld staged key P) start := by
  refine h.gathers fun _ row hrow => hstart row ?_
  rw [List.append_nil] at hrow
  rw [hrow, Option.some_or]

variable (hshares : backend.Shares store mine)
include hshares

/-- What is known is kept if it is kept by each call, whatever others did before the call. -/
theorem Backend.Shares.guards_gathers
    (hQ : ∀ c, may c → ∀ (s u u' : Store) (later more : List Change),
      (store start).Becomes s → s.Becomes u → u.Becomes u' →
      u.Adding own (staged ++ later) c more → Q s later → Q u' (later ++ more)) :
    backend.Guards own may (Backend.Gathers store mine own start staged Q) := by
  intro c b hc h
  obtain ⟨hsince, hapart⟩ := hshares.guards_since own start c b trivial h.since
  refine ⟨⟨hsince, fun staged' hstaged' => ?_⟩, hapart⟩
  have hsound := h.since.hosts.sound
  obtain ⟨rivals, hrivals, -, hstore, -⟩ := hshares.reaches h.since.hosts c
  have hrun : store (backend.call c b).2 = (store b).run (rivals ++ [c]) := by
    rw [hstore, Store.run_append]
    rfl
  rw [hrun] at hstaged'
  obtain ⟨before, hbefore⟩ := hsound.changesOf_of_run h.since.begun hstaged'
  obtain ⟨later, rfl, hknown⟩ := h.gathered before hbefore
  rw [← hrun, hstore] at hstaged'
  obtain ⟨more, rfl, hadding⟩ := (Store.effect_step (hsound.run rivals) c).adding
    (hsound.run rivals) (hsound.changesOf_run hrivals hbefore) hstaged'
  refine ⟨later ++ more, List.append_assoc _ _ _, ?_⟩
  rw [hstore]
  exact hQ c hc _ _ _ later more h.since.becomes ⟨rivals, rfl⟩ (Store.becomes_step _ c) hadding
    hknown

theorem Backend.Shares.overhears_gathers :
    backend.Overhears (Backend.Gathers store mine own start staged Q) := by
  intro notice b h
  refine ⟨hshares.overhears_since own start notice b h.since, ?_⟩
  rw [(hshares.announce notice b).1]
  exact h.gathered

/-! ## No row -/

/-- Calls that write no row in the transaction stage none. -/
theorem Backend.Shares.guards_rowless :
    backend.Guards own (Call.SparesRows own) (Backend.Gathers store mine own start staged
      fun _ later => ∀ key, imageIn later key = none) := by
  refine hshares.guards_gathers fun c hc _ _ _ later more _ _ _ hadding hnone key => ?_
  cases hadding with
  | nothing => rw [List.append_nil, hnone]
  | audited record => rw [Store.imageIn_audited, hnone]
  | inserted => exact absurd rfl hc
  | updated => exact absurd rfl hc

/-! ## Rows of a kind -/

/-- If a row is of a kind, so are the images that calls stage of it that leave it of the kind. -/
theorem Backend.Shares.guards_upheld (own : TxId) {key : RowKey} {P : Row → Prop}
    (hsound : (store start).Sound)
    (hstart : ∀ row, (imageIn staged key).or ((store start).committedRow? key) = some row → P row) :
    backend.Guards own (Call.Upholds own key P)
      (Backend.Gathers store mine own start staged ((store start).Upheld staged key P)) := by
  refine hshares.guards_gathers fun c hc s u u' later more hs hu hu' hadding hbefore hcalm => ?_
  obtain ⟨calls, rfl⟩ := hs
  obtain ⟨others, rfl⟩ := hu
  obtain ⟨last, rfl⟩ := hu'
  have hfirst := hsound.stampNo_run calls key
  have hsecond := (hsound.run calls).stampNo_run others key
  have hthird := ((hsound.run calls).run others).stampNo_run last key
  have hstaged := hbefore (hcalm.imp id fun hsame => by omega)
  -- What the call overwrites is an image, or the row as it was.
  have hseen (old : Row) (hold : (imageIn (staged ++ later) key).or
      (((store start).run calls).run others |>.committedRow? key) = some old) : P old := by
    rcases Option.or_eq_some_iff.1 hold with himage | ⟨hnone, hcommitted⟩
    · exact hstaged old himage
    · rw [imageIn_append, Option.or_eq_none_iff] at hnone
      have hsame := hcalm.resolve_left fun hne => hne hnone.2
      rw [hsecond.2 (by omega), hfirst.2 (by omega)] at hcommitted
      exact hstart old (by rw [hnone.2, hcommitted]; rfl)
  have hwritten (k : RowKey) (image : Row) (change : Change)
      (hchange : change.written? = some (k, image)) (himage : k = key → P image) (row : Row)
      (hrow : imageIn (staged ++ (later ++ [change])) key = some row) : P row := by
    rw [← List.append_assoc, imageIn_snoc, Change.imageOf?, hchange] at hrow
    by_cases hk : k = key
    · simp only [Option.bind_some, hk, if_true, Option.some_or, Option.some.injEq] at hrow
      exact hrow ▸ himage hk
    · simp only [Option.bind_some, hk, if_false, Option.none_or] at hrow
      exact hstaged row hrow
  cases hadding with
  | nothing =>
    rw [List.append_nil]
    exact hstaged
  | audited record =>
    rw [← List.append_assoc, Store.imageIn_audited]
    exact hstaged
  | inserted k row => exact hwritten k row _ rfl fun hk => hc rfl hk
  | updated k fields old image hold himage =>
    refine hwritten k image _ rfl fun hk => ?_
    subst hk
    exact hc rfl rfl old image (hseen old hold) himage

end

end RecordEngine
