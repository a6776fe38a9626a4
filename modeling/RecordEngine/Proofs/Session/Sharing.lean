import RecordEngine.Proofs.Session.Doings
import RecordEngine.Proofs.Session.Outcome
/-!
One's own calls among those of others.

On a store that others use as well, what a session asks for is answered by a store that others may
have changed a moment before. Two things hold whatever they did. They do not touch the session's
transaction, so it has staged just what it staged itself (`Backend.Staging`), and a call in it can
be followed by what it adds. And the stamp of a row never falls: if it is the same at two times,
the row is committed as it was, at both of them and at every time between
(`Store.Sound.committedRow?_of_stamp`).
-/

set_option autoImplicit false

namespace RecordEngine

variable {β σ H : Type} {E : EntityType}

namespace Store

/-! ## Stamps do not fall -/

/-- The number of the commit that last wrote a row; 0 if none did. -/
def stampNo (s : Store) (key : RowKey) : Nat := (s.stamp? key).getD 0

variable {s s' u : Store} {tx own : TxId} {t : Transaction} {staged staged' : List Change}
  {key : RowKey} {row : Row}

theorem Sound.stampNo_le (hs : s.Sound) (key : RowKey) : s.stampNo key ≤ s.commits := by
  rw [stampNo]
  cases hstamp : s.stamp? key with
  | none => exact Nat.zero_le _
  | some n => exact hs.stamp_le hstamp

/-- A call does not lower the stamp of a row, and leaves a row whose stamp it leaves. -/
theorem Effect.stampNo_le (hs : s.Sound) {c : Call} {answer : Except Failure c.Answer}
    (h : Effect s c answer s') (key : RowKey) :
    s.stampNo key ≤ s'.stampNo key ∧
      (s'.stampNo key = s.stampNo key → s'.committedRow? key = s.committedRow? key) := by
  cases h with
  | committed tx t hopen hcurrent =>
    have hle := hs.stampNo_le key
    cases himage : imageIn t.changes key with
    | none =>
      rw [stampNo, stampNo, stamp?_publish, if_pos himage, committedRow?_publish, himage]
      exact ⟨Nat.le_refl _, fun _ => rfl⟩
    | some image =>
      -- The row is stamped with this commit, which is later than all before it.
      have hstamp : (s.publish tx t.changes).stampNo key = s.commits + 1 := by
        rw [stampNo, stamp?_publish, himage, if_neg (Option.some_ne_none image)]
        rfl
      omega
  | _ => exact ⟨Nat.le_refl _, fun _ => rfl⟩

theorem Sound.stampNo_run (hs : s.Sound) (calls : List Call) (key : RowKey) :
    s.stampNo key ≤ (s.run calls).stampNo key ∧
      ((s.run calls).stampNo key = s.stampNo key →
        (s.run calls).committedRow? key = s.committedRow? key) := by
  induction calls generalizing s with
  | nil => exact ⟨Nat.le_refl _, fun _ => rfl⟩
  | cons c rest ih =>
    obtain ⟨hstep, hrow⟩ := (effect_step hs c).stampNo_le hs key
    obtain ⟨hrest, hrows⟩ := ih (hs.step c)
    rw [run_cons]
    refine ⟨Nat.le_trans hstep hrest, fun hsame => ?_⟩
    rw [hrows (by omega), hrow (by omega)]

/-- Some calls later, whoever made them. -/
def Becomes (s s' : Store) : Prop := ∃ calls, s' = s.run calls

theorem Becomes.refl (s : Store) : s.Becomes s := ⟨[], rfl⟩

theorem Becomes.trans (h : s.Becomes s') (h' : s'.Becomes u) : s.Becomes u := by
  obtain ⟨calls, rfl⟩ := h
  obtain ⟨later, rfl⟩ := h'
  exact ⟨calls ++ later, (run_append s calls later).symm⟩

theorem becomes_step (s : Store) (c : Call) : s.Becomes (s.step c).2 := ⟨[c], rfl⟩

/-- Between two times at which a row carries the same stamp it is committed as it was. -/
theorem Sound.committedRow?_of_stamp (hs : s.Sound) (h : s.Becomes u) (h' : u.Becomes s')
    (hstamp : s'.stamp? key = s.stamp? key) : u.committedRow? key = s.committedRow? key := by
  obtain ⟨calls, rfl⟩ := h
  obtain ⟨later, rfl⟩ := h'
  have hsame : ((s.run calls).run later).stampNo key = s.stampNo key := by
    rw [stampNo, hstamp, stampNo]
  have hfirst := hs.stampNo_run calls key
  have hsecond := (hs.run calls).stampNo_run later key
  exact hfirst.2 (by omega)

/-! ## What a transaction has staged -/

theorem imageIn_written {change : Change} (h : change.written? = some (key, row))
    (changes : List Change) : imageIn (changes ++ [change]) key = some row := by
  rw [imageIn_snoc, Change.imageOf?, h]
  simp

/-- An audit record is no image. -/
theorem imageIn_audited (changes : List Change) (record : AuditRecord) (key : RowKey) :
    imageIn (changes ++ [.appendAudit record]) key = imageIn changes key := by
  rw [imageIn_snoc]
  rfl

/-- What others do leaves what an open transaction has staged. -/
theorem Effect.changesOf_of_ne (hs : s.Sound) {c : Call} {answer : Except Failure c.Answer}
    (h : Effect s c answer s') (hc : c.tx? ≠ some own) (hstaged : s.changesOf own = some staged) :
    s'.changesOf own = some staged := by
  have hother {other : TxId} (htx : c.tx? = some other) : other ≠ own := by
    rintro rfl
    exact hc htx
  rw [← hstaged]
  cases h with
  | opened =>
    obtain ⟨t, hopen, -⟩ := Option.map_eq_some_iff.1 hstaged
    have hne : (⟨s.nextTx⟩ : TxId) ≠ own := by
      rintro rfl
      exact Nat.lt_irrefl _ (hs.fresh _ t hopen)
    exact congrArg _ ((get?_holding s _ _ own).trans (if_neg hne))
  | unknown => rfl
  | committed other t => rw [changesOf, get?_publish, if_neg (hother rfl), changesOf]
  | conflicted other t => exact (unmoved_without (hother rfl)).staged
  | rolledBack other t => exact (unmoved_without (hother rfl)).staged
  | _ => rw [changesOf, get?_holding, if_neg (hother rfl), changesOf]

theorem Sound.changesOf_run (hs : s.Sound) {calls : List Call}
    (hcalls : ∀ c ∈ calls, c.tx? ≠ some own) (hstaged : s.changesOf own = some staged) :
    (s.run calls).changesOf own = some staged := by
  induction calls generalizing s with
  | nil => exact hstaged
  | cons c rest ih =>
    obtain ⟨hc, hrest⟩ := List.forall_mem_cons.1 hcalls
    exact ih (hs.step c) hrest ((effect_step hs c).changesOf_of_ne hs hc hstaged)

/-- What a transaction sees of a row is the last image it staged, or what is committed. -/
theorem Sound.seen_eq (hs : s.Sound) (hopen : s.transactions.get? tx = some t) (key : RowKey) :
    s.seen t key = (imageIn t.changes key).or (s.committedRow? key) := by
  rw [seen, hs.stagedRow? hopen]

theorem Sound.visibleRow_eq_ok (hs : s.Sound) {row? : Option Row} :
    (s.visibleRow tx key).1 = .ok row? ↔
      ∃ staged, s.changesOf tx = some staged ∧
        (imageIn staged key).or (s.committedRow? key) = row? := by
  rw [Store.visibleRow_eq_ok]
  constructor
  · rintro ⟨t, hopen, rfl⟩
    exact ⟨t.changes, by rw [changesOf, hopen]; rfl, (hs.seen_eq hopen key).symm⟩
  · rintro ⟨staged, hstaged, rfl⟩
    obtain ⟨t, hopen, rfl⟩ := Option.map_eq_some_iff.1 hstaged
    exact ⟨t, hopen, hs.seen_eq hopen key⟩

theorem Adds.changesOf (h : s.Adds tx staged' s') (hstaged : s.changesOf tx = some staged) :
    s'.changesOf tx = some (staged ++ staged') := by
  obtain ⟨t, t', hopen, hopen', hchanges⟩ := h.changes
  obtain ⟨u, hu, rfl⟩ := Option.map_eq_some_iff.1 hstaged
  obtain rfl := Option.some.inj (hopen.symm.trans hu)
  rw [Store.changesOf, hopen', Option.map_some, hchanges]

/-- An insert of a row that is not there stages it. -/
theorem insert_adds (hs : s.Sound) (hopen : s.transactions.get? tx = some t)
    (hseen : s.seen t key = none) (row : Row) :
    (s.step (.insert tx key row)).1 = .ok () ∧
      s.Adds tx [.insertRow key row] (s.step (.insert tx key row)).2 := by
  have hsound := hs.step (.insert tx key row)
  have heffect := effect_step hs (.insert tx key row)
  generalize (s.step (.insert tx key row)).1 = answer at heffect ⊢
  generalize (s.step (.insert tx key row)).2 = s' at hsound heffect ⊢
  cases heffect with
  | unknown _ tx' htx hclosed =>
    obtain rfl : tx = tx' := Option.some.inj htx
    rw [hopen] at hclosed
    cases hclosed
  | inserted _ _ _ u hu =>
    obtain rfl := Option.some.inj (hopen.symm.trans hu)
    refine ⟨rfl, hsound, rfl, t, _, hopen, by rw [get?_holding, if_pos rfl], ?_⟩
    rw [Transaction.stage_changes, touched, Transaction.touch_changes]
  | duplicate _ _ _ old u hu hold =>
    obtain rfl := Option.some.inj (hopen.symm.trans hu)
    rw [hseen] at hold
    cases hold

/-- Nothing but a commit changes what is committed. -/
theorem Effect.rows_eq {c : Call} {answer : Except Failure c.Answer} (h : Effect s c answer s')
    (hc : ∀ tx, c ≠ .commit tx) : s'.rows = s.rows := by
  cases h with
  | committed tx => exact absurd rfl (hc tx)
  | _ => rfl

end Store

/-! ## Calls in one's own transaction -/

/-- In a store that others use as well, one's own transaction is open and has staged these
changes. -/
structure Backend.Staging (store : β → Store) (mine : β → TxId → Prop) (own : TxId)
    (staged : List Change) (b : β) : Prop where
  hosts : Backend.Hosts store mine own b
  staged : (store b).changesOf own = some staged

section
variable {backend : Backend β} {store : β → Store} {mine : β → TxId → Prop} {own : TxId}
  {staged staged' : List Change} {key : RowKey} {b : β} (hshares : backend.Shares store mine)
include hshares

namespace Backend.Staging

/-- A call is answered by a store in which others have made calls, and none of them in the
transaction. -/
theorem answered (h : Backend.Staging store mine own staged b) (c : Call) :
    ∃ u : Store, u.Sound ∧ u.changesOf own = some staged ∧ (store b).Becomes u ∧
      (backend.call c b).1 = (u.step c).1 ∧ store (backend.call c b).2 = (u.step c).2 ∧
      Backend.Hosts store mine own (backend.call c b).2 := by
  obtain ⟨rivals, hrivals, hanswer, hstore, hhosts⟩ := hshares.reaches h.hosts c
  exact ⟨_, h.hosts.sound.run rivals, h.hosts.sound.changesOf_run hrivals h.staged, ⟨rivals, rfl⟩,
    hanswer, hstore, hhosts⟩

theorem fetch (h : Backend.Staging store mine own staged b) (key : RowKey) :
    ∃ u : Store, (store b).Becomes u ∧ u.Becomes (store (backend.call (.fetch own key) b).2) ∧
      (backend.call (.fetch own key) b).1 =
        .ok ((imageIn staged key).or (u.committedRow? key)) ∧
      Backend.Staging store mine own staged (backend.call (.fetch own key) b).2 := by
  obtain ⟨u, hu, hstaged, hbecomes, hanswer, hstore, hhosts⟩ := h.answered hshares (.fetch own key)
  obtain ⟨t, hopen, hchanges⟩ := Option.map_eq_some_iff.1 hstaged
  obtain ⟨hfetch, hadds⟩ := Store.fetch_adds hu hopen key
  refine ⟨u, hbecomes, ?_, ?_, hhosts, ?_⟩
  · rw [hstore]
    exact u.becomes_step _
  · rw [hanswer, hfetch, hu.seen_eq hopen, hchanges]
  · rw [hstore, hadds.changesOf hstaged, List.append_nil]

theorem insert (h : Backend.Staging store mine own staged b) (key : RowKey) (row : Row)
    (hunstaged : imageIn staged key = none)
    (huncommitted : (store (backend.call (.insert own key row) b).2).committedRow? key = none) :
    (backend.call (.insert own key row) b).1 = .ok () ∧
      Backend.Staging store mine own (staged ++ [.insertRow key row])
        (backend.call (.insert own key row) b).2 := by
  obtain ⟨u, hu, hstaged, -, hanswer, hstore, hhosts⟩ := h.answered hshares (.insert own key row)
  obtain ⟨t, hopen, hchanges⟩ := Option.map_eq_some_iff.1 hstaged
  have hcommitted : u.committedRow? key = none := by
    rw [← huncommitted, hstore, Store.committedRow?, Store.committedRow?,
      (Store.effect_step hu (.insert own key row)).rows_eq fun _ h => by cases h]
  have hseen : u.seen t key = none := by
    rw [hu.seen_eq hopen, hchanges, hunstaged, hcommitted]
    rfl
  obtain ⟨hinsert, hadds⟩ := Store.insert_adds hu hopen hseen row
  exact ⟨by rw [hanswer, hinsert], hhosts, by rw [hstore, hadds.changesOf hstaged]⟩

theorem update (h : Backend.Staging store mine own staged b) (key : RowKey)
    (fields : List (Nat × Value)) :
    ∃ u : Store, (store b).Becomes u ∧
      u.Becomes (store (backend.call (.update own key fields) b).2) ∧
      ∀ old, (imageIn staged key).or (u.committedRow? key) = some old →
        (backend.call (.update own key fields) b).1 =
            (Store.overwrite key old fields).map (fun _ => ()) ∧
          ∀ image, Store.overwrite key old fields = .ok image →
            Backend.Staging store mine own (staged ++ [.updateRow key image])
              (backend.call (.update own key fields) b).2 := by
  obtain ⟨u, hu, hstaged, hbecomes, hanswer, hstore, hhosts⟩ :=
    h.answered hshares (.update own key fields)
  obtain ⟨t, hopen, hchanges⟩ := Option.map_eq_some_iff.1 hstaged
  have hseen := hu.seen_eq hopen key
  rw [hchanges] at hseen
  refine ⟨u, hbecomes, ?_, fun old hold => ?_⟩
  · rw [hstore]
    exact u.becomes_step _
  · obtain ⟨hupdate, hadds⟩ := Store.update_adds hu hopen (hseen.trans hold) fields
    refine ⟨by rw [hanswer, hupdate], fun image himage => ⟨hhosts, ?_⟩⟩
    rw [himage] at hadds
    rw [hstore, hadds.changesOf hstaged]
    rfl

theorem audit (h : Backend.Staging store mine own staged b) (record : AuditRecord) :
    (backend.call (.audit own record) b).1 = .ok () ∧
      Backend.Staging store mine own (staged ++ [.appendAudit record])
        (backend.call (.audit own record) b).2 := by
  obtain ⟨u, hu, hstaged, -, hanswer, hstore, hhosts⟩ := h.answered hshares (.audit own record)
  obtain ⟨t, hopen, hchanges⟩ := Option.map_eq_some_iff.1 hstaged
  obtain ⟨haudit, hadds⟩ := Store.audit_adds hu hopen record
  exact ⟨by rw [hanswer, haudit], hhosts, by rw [hstore, hadds.changesOf hstaged]⟩

theorem announce (h : Backend.Staging store mine own staged b) (notice : Notice) :
    Backend.Staging store mine own staged (backend.announce notice b).2 where
  hosts := hshares.hosts_announce h.hosts notice
  staged := by rw [(hshares.announce notice b).1, h.staged]

end Backend.Staging

end

/-! ## Since some time -/

/-- Some calls later: the store is sound, and the transaction is one's own and was begun. -/
structure Backend.Since (store : β → Store) (mine : β → TxId → Prop) (own : TxId) (start b : β) :
    Prop where
  hosts : Backend.Hosts store mine own b
  begun : own.number < (store b).nextTx
  becomes : (store start).Becomes (store b)

section
variable {backend : Backend β} {store : β → Store} {mine : β → TxId → Prop} {own : TxId}
  {staged : List Change} {start b : β}

theorem Backend.Staging.since (h : Backend.Staging store mine own staged b) :
    Backend.Since store mine own b b := by
  obtain ⟨t, hopen, -⟩ := Option.map_eq_some_iff.1 h.staged
  exact ⟨h.hosts, h.hosts.sound.fresh own t hopen, .refl _⟩

variable (hshares : backend.Shares store mine)
include hshares

theorem Backend.Shares.guards_since (own : TxId) (start : β) :
    backend.Guards own (fun _ => True) (Backend.Since store mine own start) := by
  intro c b _ h
  obtain ⟨rivals, -, hanswer, hstore, hhosts⟩ := hshares.reaches h.hosts c
  have hbegun := Nat.lt_of_lt_of_le h.begun (h.hosts.sound.nextTx_le_run rivals)
  have heffect := Store.effect_step (h.hosts.sound.run rivals) c
  refine ⟨⟨hhosts, ?_, ?_⟩, ?_⟩
  · rw [hstore]
    exact Nat.lt_of_lt_of_le hbegun heffect.nextTx_le
  · rw [hstore]
    exact h.becomes.trans (Store.Becomes.trans ⟨rivals, rfl⟩ (Store.becomes_step _ c))
  · cases c with
    | begin =>
      rw [hanswer]
      change (⟨((store b).run rivals).nextTx⟩ : TxId) ≠ own
      rintro rfl
      exact Nat.lt_irrefl _ hbegun
    | _ => trivial

theorem Backend.Shares.overhears_since (own : TxId) (start : β) :
    backend.Overhears (Backend.Since store mine own start) := by
  intro notice b h
  have hstore := (hshares.announce notice b).1
  exact ⟨hshares.hosts_announce h.hosts notice, by rw [hstore]; exact h.begun,
    by rw [hstore]; exact h.becomes⟩

end

/-- However it is answered, a program keeps to no rule. -/
theorem SessionProgram.heeds_any {α : Type} (own : TxId) (program : SessionProgram σ α) :
    program.Heeds own (fun _ => True) fun _ => True := by
  induction program with
  | done result => trivial
  | create F record next ih => exact ⟨trivial, ih⟩
  | save F record next ih => exact ⟨trivial, ih⟩
  | fetch F id next ih => exact ih
  | inspect next ih => exact fun view _ => ih view
  | call c next ih => exact ⟨trivial, fun answer _ => ih answer⟩
  | host change next ih => exact ih

theorem HandlerProgram.heeds_any (own : TxId) {defers : SessionWork σ Unit → Prop}
    (hdefers : ∀ work, defers work) (program : HandlerProgram σ E) :
    program.Heeds own (fun _ => True) defers := by
  induction program with
  | done result => trivial
  | call c next ih => exact ⟨trivial, fun answer _ => ih answer⟩
  | defer label action next ih => exact ⟨hdefers action, ih⟩
  | host change next ih => exact ih

/-- Every engine keeps to no rule. -/
theorem Engine.heeds_any (engine : Engine β σ) (own : TxId) :
    engine.Heeds own (fun _ => True) fun _ => True :=
  fun _ _ _ _ _ _ _ => HandlerProgram.heeds_any own (fun work => work.run.heeds_any own) _

theorem Holder.permits_any (who : Holder) : who.Permits (fun _ => True) fun _ => True :=
  ⟨fun _ _ => trivial, fun _ _ _ _ _ _ => trivial, fun _ _ _ _ _ _ _ => trivial,
    fun _ => trivial⟩

/-! ## Parts of a create and a save -/

/-- The scope after a span was left. -/
def Scope.leave (s : Scope β σ) (span : Nat) : Scope β σ :=
  { s with world.trace := s.world.trace.exit span }

namespace Session

open SessionM

variable {engine : Engine β σ} {store : β → Store} {mine : β → TxId → Prop}
  {s s' : Scope β σ} {id : String} {row : Row} {t : Record E}

theorem run_eq {α : Type} {m : SessionM β σ α} {result : Except Failure α}
    (h : (m.run s).1 = result) : m.run s = (result, (m.run s).2) :=
  Prod.ext h rfl

/-- What was run in a span. -/
theorem of_run_withSpan {α : Type} {event : TraceEvent} {m : SessionM β σ α}
    {result : Except Failure α} (h : (SessionM.withSpan event m).run s = (result, s')) :
    ∃ s₁, m.run (s.within event) = (result, s₁) ∧
      s' = s₁.leave (s.world.trace.enter event).1 := by
  refine ⟨(m.run (s.within event)).2, Prod.ext ?_ rfl, (congrArg Prod.snd h).symm⟩
  rw [← withSpan_result, h]

/-- A call that something known comes of. -/
theorem call_pure_run {α : Type} (stage : Stage) (c : Call) (a : α) (s : Scope β σ) :
    (SessionM.call engine stage c >>= fun _ => pure a).run s =
      (((engine.backend.call c s.world.backend).1.mapError (.persistence stage.label)).map
          fun _ => a,
        { s with world.backend := (engine.backend.call c s.world.backend).2 }) := by
  rw [run_bind, call_run]
  cases (engine.backend.call c s.world.backend).1 <;> rfl

/-- A load of a row that is there and reads as a record. -/
theorem load_of_fetched
    (hanswer : (engine.backend.call (.fetch s.session.tx (E.key id)) s.world.backend).1 =
      .ok (some row)) (hrow : Record.ofRow E row = .ok t) :
    (load engine E id).run s = (.ok t, { s with world.backend :=
      (engine.backend.call (.fetch s.session.tx (E.key id)) s.world.backend).2 }) := by
  have hcall : (SessionM.call engine .fetch (.fetch s.session.tx ⟨E.name, id⟩)).run s =
      (.ok (some row), { s with world.backend :=
        (engine.backend.call (.fetch s.session.tx (E.key id)) s.world.backend).2 }) := by
    rw [call_run]
    exact congrArg (fun answer => (Except.mapError _ answer, _)) hanswer
  simp only [load, fetch, run_bind, read_run, hcall, ofExcept_run, hrow]
  rfl

/-- Handlers that put nothing off are known by the record they leave. -/
theorem outcome_eq {result : Except Failure (Convergence.Outcome σ E)}
    (h : result.map (fun out => (out.record.toRow, out.queue.isEmpty)) = .ok (t.toRow, true)) :
    ∃ passes, result = .ok ⟨passes, t, .empty⟩ := by
  cases result with
  | error failure => cases h
  | ok out =>
    obtain ⟨passes, record, queue⟩ := out
    obtain ⟨hrow, hqueue⟩ := Prod.ext_iff.1 (Except.ok.inj h)
    obtain rfl : record = t := Record.ext_values hrow
    obtain rfl : queue = .empty := congrArg Deferred.mk (List.isEmpty_iff.1 hqueue)
    exact ⟨passes, rfl⟩

variable (hshares : engine.backend.Shares store mine)
include hshares

/-- Handlers announce nothing, leave the session to its holder and keep the identifier. -/
theorem run_since (heard : β → H)
    (hsilent : ∀ c b, heard (engine.backend.call c b).2 = heard b) {start : β}
    {stored record : Record E} {forced : Bool} {result : Except Failure (Convergence.Outcome σ E)}
    (h : Backend.Since store mine s.session.tx start s.world.backend)
    (hrun : (Convergence.run engine stored record forced).run s = (result, s')) :
    s'.session.holder = s.session.holder ∧
      Backend.Since store mine s.session.tx start s'.world.backend ∧
      heard s'.world.backend = heard s.world.backend ∧
      ∀ out, result = .ok out → out.record.id = record.id := by
  have hguards : engine.backend.Guards s.session.holder.tx (fun _ => True) fun b =>
      Backend.Since store mine s.session.tx start b ∧ heard b = heard s.world.backend := by
    rintro c b hc ⟨hsince, hheard⟩
    obtain ⟨hsince', hapart⟩ := hshares.guards_since s.session.tx start c b hc hsince
    exact ⟨⟨hsince', (hsilent c b).trans hheard⟩, hapart⟩
  obtain ⟨hholder, ⟨hsince, hheard⟩, hkeeps⟩ := (Convergence.run_maintains hguards
    (engine.heeds_any _ E) stored record forced).ends rfl ⟨h, rfl⟩ hrun
  exact ⟨hholder, hsince, hheard, fun out hout => (hkeeps out hout).1⟩

/-- What a create and a save do after their write, if no work was put off: they announce it, put it
down in the audit log and read the row. Only the notifier can make that fail, and it does not undo
the write; if it does not fail, the record read is that of the image that was staged. -/
theorem finish_run {staged : List Change} {image : Row}
    (h : Backend.Staging store mine s.session.tx staged s.world.backend)
    (himage : imageIn staged (E.key id) = some image) (ht : Record.ofRow E image = .ok t)
    (notice : Notice) (action : AuditAction) (changes : ChangeSet) :
    ∃ result b later,
      (do
        SessionM.announce engine notice
        recordAudit engine action E id changes
        load engine E id : SessionM β σ (Record E)).run s =
          (result, { s with world.backend := b }) ∧
      Backend.Staging store mine s.session.tx (staged ++ later) b ∧
      imageIn (staged ++ later) (E.key id) = some image ∧
      (engine.Announces → result = .ok t ∧ later = [.appendAudit ⟨s.session.actor.id,
        s.session.actor.effective, action, E.name, id, changes⟩]) := by
  have hannounced := h.announce hshares notice
  have hannounce : (SessionM.announce engine notice).run s =
      ((engine.backend.announce notice s.world.backend).1.mapError
          (.persistence Stage.notify.label),
        { s with world.backend := (engine.backend.announce notice s.world.backend).2 }) := rfl
  cases hanswer : (engine.backend.announce notice s.world.backend).1 with
  | error failure =>
    rw [hanswer] at hannounce
    refine ⟨_, _, [], run_bind_of_error hannounce, ?_, ?_, fun hannounces => ?_⟩
    · rw [List.append_nil]
      exact hannounced
    · rw [List.append_nil, himage]
    · rw [hannounces] at hanswer
      cases hanswer
  | ok _ =>
    rw [hanswer] at hannounce
    generalize (engine.backend.announce notice s.world.backend).2 = b₁ at hannounced hannounce
    have haudit : (recordAudit engine action E id changes).run { s with world.backend := b₁ } =
        ((engine.backend.call (.audit s.session.tx ⟨s.session.actor.id, s.session.actor.effective,
            action, E.name, id, changes⟩) b₁).1.mapError (.persistence Stage.audit.label),
          { s with world.backend := (engine.backend.call (.audit s.session.tx ⟨s.session.actor.id,
            s.session.actor.effective, action, E.name, id, changes⟩) b₁).2 }) := rfl
    generalize (⟨s.session.actor.id, s.session.actor.effective, action, E.name, id, changes⟩ :
      AuditRecord) = record at haudit ⊢
    obtain ⟨haudited, hstaging⟩ := hannounced.audit hshares record
    rw [haudited] at haudit
    generalize (engine.backend.call (.audit s.session.tx record) b₁).2 = b₂ at hstaging haudit
    obtain ⟨u, -, -, hanswer, hfetch⟩ := hstaging.fetch hshares (E.key id)
    rw [Store.imageIn_audited, himage, Option.some_or] at hanswer
    have hload := load_of_fetched (s := { s with world.backend := b₂ }) hanswer ht
    refine ⟨_, _, [.appendAudit record], ?_, hfetch, ?_, fun _ => ⟨rfl, rfl⟩⟩
    · rw [run_bind_of_ok hannounce, run_bind_of_ok haudit]
      exact hload
    · rw [Store.imageIn_audited, himage]

end Session

end RecordEngine
