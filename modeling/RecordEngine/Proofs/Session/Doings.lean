import RecordEngine.Proofs.Session.Account
import RecordEngine.Proofs.Session.Retrying
/-!
What a story asks of the backend, as a list.

Which spans and which piece of work a call stands in does not matter to the backend. `Story.doings`
forgets it: what is left are calls and announcements one after another. On a store that others use
as well, such a list of doings is a run of calls, one's own and theirs (`Does.calls`). What can be
said of it from the side of one transaction is little, but enough to compare what its session saw of
a row with what it overwrites: as long as nobody writes rows in the transaction, and it stays open,
what it has staged stays staged, and so a row can only have changed in its eyes by a commit.
-/

set_option autoImplicit false

namespace RecordEngine

variable {β σ : Type}

/-- One thing that a story asks of the backend. -/
inductive Doing (β : Type) where
  | called (caller : Caller) (exchange : Exchange β)
  | announced (notice : Notice) (answer : Except Failure Unit)

/-- What a story asks of the backend, in order. -/
def Story.doings : Story β σ → List (Doing β)
  | nil => []
  | span _ inside rest => inside.doings ++ rest.doings
  | note _ rest => rest.doings
  | call caller exchange rest => .called caller exchange :: rest.doings
  | announce notice answer rest => .announced notice answer :: rest.doings
  | host _ _ rest => rest.doings
  | putOff _ _ rest => rest.doings
  | work _ _ inside rest => inside.doings ++ rest.doings

@[simp] theorem Story.doings_append (story later : Story β σ) :
    (story ++ later).doings = story.doings ++ later.doings := by
  induction story with
  | nil => rfl
  | span event inside rest _ ih => rw [span_append, doings, ih, doings, List.append_assoc]
  | note event rest ih => exact ih
  | call caller exchange rest ih => exact congrArg _ ih
  | announce notice answer rest ih => exact congrArg _ ih
  | host state change rest ih => exact ih
  | putOff label action rest ih => exact ih
  | work label action inside rest _ ih => rw [work_append, doings, ih, doings, List.append_assoc]

/-- Between two states, a backend did these things and gave these answers. -/
def Backend.Does (backend : Backend β) : List (Doing β) → β → β → Prop
  | [], b, b' => b' = b
  | .called _ exchange :: later, b, b' =>
    exchange.before = b ∧ backend.call exchange.call b = (exchange.answer, exchange.after) ∧
      backend.Does later exchange.after b'
  | .announced notice answer :: later, b, b'' =>
    ∃ b', backend.announce notice b = (answer, b') ∧ backend.Does later b' b''

theorem Backend.does_append {backend : Backend β} {doings later : List (Doing β)} {b b'' : β} :
    backend.Does (doings ++ later) b b'' ↔
      ∃ b', backend.Does doings b b' ∧ backend.Does later b' b'' := by
  induction doings generalizing b with
  | nil => simp only [List.nil_append, Does, exists_eq_left]
  | cons doing rest ih =>
    cases doing with
    | called caller exchange =>
      simp only [List.cons_append, Does, ih]
      grind
    | announced notice answer =>
      simp only [List.cons_append, Does, ih]
      grind

theorem Story.Served.does {backend : Backend β} {story : Story β σ} {w w' : β × σ}
    (h : story.Served backend w w') : backend.Does story.doings w.1 w'.1 := by
  induction story generalizing w w' with
  | nil => exact congrArg Prod.fst h
  | span event inside rest ihinside ihrest =>
    obtain ⟨w₁, hinside, hrest⟩ := h
    exact Backend.does_append.2 ⟨w₁.1, ihinside hinside, ihrest hrest⟩
  | note event rest ih => exact ih h
  | call caller exchange rest ih => exact ⟨h.1, h.2.1, ih h.2.2⟩
  | announce notice answer rest ih =>
    obtain ⟨b, hannounce, hrest⟩ := h
    exact ⟨b, hannounce, ih hrest⟩
  | host state change rest ih => exact ih (w := (w.1, change w.2)) h.2
  | putOff label action rest ih => exact ih h
  | work label action inside rest ihinside ihrest =>
    obtain ⟨w₁, hinside, hrest⟩ := h
    exact Backend.does_append.2 ⟨w₁.1, ihinside hinside, ihrest hrest⟩

/-! ## Calls that write no row -/

/-- The call writes no row in the transaction. -/
def Call.SparesRows (own : TxId) : Call → Prop
  | .insert tx .. | .update tx .. => tx ≠ own
  | _ => True

theorem Call.sparesRows_of_tx? {own : TxId} {c : Call} (h : c.tx? ≠ some own) :
    c.SparesRows own := by
  cases c with
  | insert => exact fun heq => h (congrArg some heq)
  | update => exact fun heq => h (congrArg some heq)
  | _ => trivial

namespace Store

variable {s s' : Store} {own : TxId}

/-- What is done to one transaction, and stages no row in it. -/
theorem staged_holding {other : TxId} {t t₁ t₁' : Transaction}
    (hopen : s.transactions.get? own = some t) (hother : s.transactions.get? other = some t₁)
    (h : other = own → ∀ key, t₁'.stagedRow? key = t₁.stagedRow? key) :
    ∃ t', (s.holding other t₁').transactions.get? own = some t' ∧
      ∀ key, t'.stagedRow? key = t.stagedRow? key := by
  by_cases hsame : other = own
  · subst hsame
    obtain rfl := Option.some.inj (hopen.symm.trans hother)
    exact ⟨t₁', by rw [get?_holding, if_pos rfl], h rfl⟩
  · exact ⟨t, by rw [get?_holding, if_neg hsame]; exact hopen, fun _ => rfl⟩

/-- A call that writes no row in an open transaction ends the transaction or leaves what it has
staged. -/
theorem Effect.staged (hs : s.Sound) {c : Call} {answer : Except Failure c.Answer}
    (h : Effect s c answer s') (hc : c.SparesRows own) {t : Transaction}
    (hopen : s.transactions.get? own = some t) :
    s'.Ended own ∨ ∃ t', s'.transactions.get? own = some t' ∧
      ∀ key, t'.stagedRow? key = t.stagedRow? key := by
  have hbegun := hs.fresh own t hopen
  have htouched (t₁ : Transaction) (k key : RowKey) :
      (s.touched t₁ k).stagedRow? key = t₁.stagedRow? key := by
    rw [touched, Transaction.stagedRow?_touch]
  have hwithout (other : TxId) : (s.without other).Ended own ∨
      ∃ t', (s.without other).transactions.get? own = some t' ∧
        ∀ key, t'.stagedRow? key = t.stagedRow? key := by
    by_cases hsame : other = own
    · exact .inl ⟨hbegun, by rw [get?_without, if_pos hsame]⟩
    · exact .inr ⟨t, by rw [get?_without, if_neg hsame]; exact hopen, fun _ => rfl⟩
  cases h with
  | opened =>
    have hne : (⟨s.nextTx⟩ : TxId) ≠ own := by
      rintro rfl
      exact Nat.lt_irrefl _ hbegun
    exact .inr ⟨t, (get?_holding s _ _ own).trans ((if_neg hne).trans hopen), fun _ => rfl⟩
  | unknown => exact .inr ⟨t, hopen, fun _ => rfl⟩
  | fetched other k t₁ hother =>
    exact .inr (staged_holding hopen hother fun _ => htouched t₁ k)
  | inserted other k row t₁ hother =>
    exact .inr (staged_holding hopen hother fun hsame => absurd hsame hc)
  | duplicate other k row old t₁ hother =>
    exact .inr (staged_holding hopen hother fun _ => htouched t₁ k)
  | updated other k fields old row t₁ hother =>
    exact .inr (staged_holding hopen hother fun hsame => absurd hsame hc)
  | missing other k fields t₁ hother =>
    exact .inr (staged_holding hopen hother fun _ => htouched t₁ k)
  | misfit other k fields old failure t₁ hother =>
    exact .inr (staged_holding hopen hother fun _ => htouched t₁ k)
  | audited other record t₁ hother =>
    refine .inr (staged_holding hopen hother fun _ key => ?_)
    rw [Transaction.stagedRow?_stage]
    rfl
  | committed other t₁ hother =>
    by_cases hsame : other = own
    · exact .inl ⟨by rw [publish_nextTx]; exact hbegun, by rw [get?_publish, if_pos hsame]⟩
    · exact .inr ⟨t, by rw [get?_publish, if_neg hsame]; exact hopen, fun _ => rfl⟩
  | conflicted other => exact hwithout other
  | rolledBack other => exact hwithout other

/-- So does a run of such calls. -/
theorem Sound.staged_run (hs : s.Sound) {calls : List Call}
    (hcalls : ∀ c ∈ calls, c.SparesRows own) {t : Transaction}
    (hopen : s.transactions.get? own = some t) :
    (s.run calls).Ended own ∨ ∃ t', (s.run calls).transactions.get? own = some t' ∧
      ∀ key, t'.stagedRow? key = t.stagedRow? key := by
  induction calls generalizing s t with
  | nil => exact .inr ⟨t, hopen, fun _ => rfl⟩
  | cons c rest ih =>
    obtain ⟨hc, hrest⟩ := List.forall_mem_cons.1 hcalls
    rcases (effect_step hs c).staged hs hc hopen with hended | ⟨t₁, hopen₁, hstaged⟩
    · exact .inl ((hs.step c).ended_run hended rest)
    · refine (ih (hs.step c) hrest hopen₁).imp id ?_
      rintro ⟨t', hopen', hstaged'⟩
      exact ⟨t', hopen', fun key => (hstaged' key).trans (hstaged key)⟩

/-- What a transaction that is open before and after such a run sees of a row differs at most as
what is committed differs. -/
theorem Sound.seen_run (hs : s.Sound) {calls : List Call}
    (hcalls : ∀ c ∈ calls, c.SparesRows own) {t t' : Transaction}
    (hopen : s.transactions.get? own = some t)
    (hopen' : (s.run calls).transactions.get? own = some t') {key : RowKey}
    (hkey : (s.run calls).committedRow? key = s.committedRow? key) :
    (s.run calls).seen t' key = s.seen t key := by
  rcases hs.staged_run hcalls hopen with hended | ⟨t₁, hopen₁, hstaged⟩
  · rw [hended.closed] at hopen'
    cases hopen'
  · obtain rfl := Option.some.inj (hopen'.symm.trans hopen₁)
    rw [seen, seen, hstaged, hkey]

/-- What an open transaction sees of a row, a call that does nothing but look at it shows as well. -/
theorem visibleRow_eq_ok {tx : TxId} {key : RowKey} {row? : Option Row} :
    (s.visibleRow tx key).1 = .ok row? ↔
      ∃ t, s.transactions.get? tx = some t ∧ s.seen t key = row? := by
  cases hopen : s.transactions.get? tx with
  | none =>
    unfold visibleRow
    rw [hopen]
    exact ⟨nofun, fun ⟨_, h, _⟩ => by cases h⟩
  | some t =>
    rw [visibleRow_of_open hopen]
    exact ⟨fun h => ⟨t, rfl, Except.ok.inj h⟩, fun ⟨_, ht, h⟩ => by rw [Option.some.inj ht, h]⟩

/-! ## Row writes that go through -/

/-- A row is staged: the transaction was open, saw this of it before and sees the new image
afterwards, and what is committed is as it was. -/
structure Stages (s : Store) (tx : TxId) (key : RowKey) (before : Option Row) (after : Row)
    (s' : Store) : Prop where
  before : ∃ t, s.transactions.get? tx = some t ∧ s.seen t key = before
  after : ∃ t, s'.transactions.get? tx = some t ∧ s'.seen t key = some after
  rows : s'.rows = s.rows

theorem stages_holding {t : Transaction} {tx : TxId} (hopen : s.transactions.get? tx = some t)
    {change : Change} {key : RowKey} {row : Row} (hw : change.written? = some (key, row)) :
    s.Stages tx key (s.seen t key) row (s.holding tx ((s.touched t key).stage change)) where
  before := ⟨t, hopen, rfl⟩
  after := by
    refine ⟨_, (get?_holding s tx _ tx).trans (if_pos rfl), ?_⟩
    rw [seen, stagedRow?_wrote t hw, if_pos rfl]
    rfl
  rows := rfl

theorem Sound.stages_insert (hs : s.Sound) {tx : TxId} {key : RowKey} {row : Row}
    (hok : (s.step (.insert tx key row)).1 = .ok ()) :
    s.Stages tx key none row (s.step (.insert tx key row)).2 := by
  have heffect := effect_step hs (.insert tx key row)
  generalize (s.step (.insert tx key row)).2 = s' at heffect ⊢
  rw [hok] at heffect
  cases heffect with
  | inserted _ _ _ t hopen hseen => exact hseen ▸ stages_holding hopen rfl

theorem Sound.stages_update (hs : s.Sound) {tx : TxId} {key : RowKey} {fields : List (Nat × Value)}
    (hok : (s.step (.update tx key fields)).1 = .ok ()) :
    ∃ old row, overwrite key old fields = .ok row ∧
      s.Stages tx key (some old) row (s.step (.update tx key fields)).2 := by
  have heffect := effect_step hs (.update tx key fields)
  generalize (s.step (.update tx key fields)).2 = s' at heffect ⊢
  rw [hok] at heffect
  cases heffect with
  | updated _ _ _ old row t hopen hseen hrow =>
    exact ⟨old, row, hrow, hseen ▸ stages_holding hopen rfl⟩

end Store

/-! ## A store that others use as well -/

/-- The store behind is sound, and the transaction is one's own. -/
structure Backend.Hosts (store : β → Store) (mine : β → TxId → Prop) (own : TxId) (b : β) :
    Prop where
  sound : (store b).Sound
  mine : mine b own

section
variable {backend : Backend β} {store : β → Store} {mine : β → TxId → Prop} {own : TxId}
  (hshares : backend.Shares store mine) {b b' : β}
include hshares

/-- A call, with what others do before it. -/
theorem Backend.Shares.reaches (h : Backend.Hosts store mine own b) (c : Call) :
    ∃ rivals : List Call, (∀ rival ∈ rivals, rival.tx? ≠ some own) ∧
      (backend.call c b).1 = (((store b).run rivals).step c).1 ∧
      store (backend.call c b).2 = (((store b).run rivals).step c).2 ∧
      Backend.Hosts store mine own (backend.call c b).2 := by
  obtain ⟨rivals, hrivals, hanswer, hstore⟩ := hshares.call c b
  refine ⟨rivals, fun rival hrival htx => hrivals rival hrival own htx h.mine, hanswer, hstore,
    ?_, hshares.kept c b own h.mine⟩
  rw [hstore]
  exact (h.sound.run rivals).step c

theorem Backend.Shares.hosts_announce (h : Backend.Hosts store mine own b) (notice : Notice) :
    Backend.Hosts store mine own (backend.announce notice b).2 := by
  obtain ⟨hstore, hkept⟩ := hshares.announce notice b
  exact ⟨by rw [hstore]; exact h.sound, hkept own h.mine⟩

theorem Backend.Does.hosts {doings : List (Doing β)} (hdoes : backend.Does doings b b')
    (h : Backend.Hosts store mine own b) : Backend.Hosts store mine own b' := by
  induction doings generalizing b with
  | nil => exact hdoes ▸ h
  | cons doing rest ih =>
    cases doing with
    | called caller exchange =>
      obtain ⟨-, hcall, hrest⟩ := hdoes
      obtain ⟨rivals, -, -, -, hafter⟩ := hshares.reaches h exchange.call
      rw [hcall] at hafter
      exact ih hrest hafter
    | announced notice answer =>
      obtain ⟨b₁, hannounce, hrest⟩ := hdoes
      have hafter := hshares.hosts_announce h notice
      rw [hannounce] at hafter
      exact ih hrest hafter

/-- A call past the session that writes no row in its transaction. -/
def Doing.Aside (own : TxId) (doing : Doing β) : Prop :=
  ∃ exchange : Exchange β, doing = .called .program exchange ∧ exchange.call.SparesRows own

/-- What is done aside is a run of calls that write no row in the transaction. -/
theorem Backend.Does.calls {doings : List (Doing β)} (hdoes : backend.Does doings b b')
    (h : Backend.Hosts store mine own b) (hdoings : ∀ doing ∈ doings, doing.Aside own) :
    ∃ calls, store b' = (store b).run calls ∧ ∀ c ∈ calls, c.SparesRows own := by
  induction doings generalizing b with
  | nil => exact ⟨[], congrArg store hdoes, nofun⟩
  | cons doing rest ih =>
    obtain ⟨⟨exchange, rfl, hspares⟩, haside⟩ := List.forall_mem_cons.1 hdoings
    obtain ⟨-, hcall, hrest⟩ := hdoes
    obtain ⟨rivals, hrivals, -, hstore, hafter⟩ := hshares.reaches h exchange.call
    rw [hcall] at hstore hafter
    obtain ⟨calls, hcalls, hspared⟩ := ih hrest hafter haside
    refine ⟨rivals ++ exchange.call :: calls, ?_, List.forall_mem_append.2
      ⟨fun rival hrival => Call.sparesRows_of_tx? (hrivals rival hrival),
        List.forall_mem_cons.2 ⟨hspares, hspared⟩⟩⟩
    rw [hcalls, hstore, Store.run_append]
    rfl

end

end RecordEngine
