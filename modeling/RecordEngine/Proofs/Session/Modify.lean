import RecordEngine.Proofs.Audit.Protocol
import RecordEngine.Proofs.Record.Fields
import RecordEngine.Proofs.Session.Settle
import RecordEngine.Proofs.Store.Draft
/-!
What a find-and-modify does to the row it is about.

The rows of the engine are kept in a store; the audit log and the notifier are whatever they are.
`Write.image?` is the write as a function of the row: the change, the handlers and the stamps, with
the time and the author as data. `findAndModify_outcome` says that the operation either stages no
image of the row, or stages just the image that this function gives for the row its transaction
sees, and that an operation that staged one can only fail for the notifier or the audit log.
-/

set_option autoImplicit false

namespace RecordEngine

variable {β σ α γ : Type} {E : EntityType}

/-- A backend whose rows are kept in a store. Audit records may go there too, or elsewhere, and
nothing is said about whether they or announcements are taken. -/
structure Backend.KeepsRows (backend : Backend β) (store : β → Store) : Prop where
  call : ∀ c b, (∀ tx record, c ≠ .audit tx record) →
    (backend.call c b).1 = ((store b).step c).1 ∧
      store (backend.call c b).2 = ((store b).step c).2
  audit : ∀ tx record b, store (backend.call (.audit tx record) b).2 = store b ∨
    store (backend.call (.audit tx record) b).2 = ((store b).step (.audit tx record)).2
  announce : ∀ notice b, store (backend.announce notice b).2 = store b

theorem Backend.memory_keepsRows : Backend.memory.KeepsRows Memory.store where
  call _ _ _ := ⟨rfl, rfl⟩
  audit _ _ _ := .inr rfl
  announce _ _ := rfl

/-- The audit records of open transactions reach an audit log that never fails. -/
def Engine.Audits (engine : Engine β σ) (store : β → Store) : Prop :=
  ∀ tx record b, (store b).transactions.get? tx ≠ none →
    (engine.backend.call (.audit tx record) b).1 = .ok ()

/-! ## The write as a function of the row -/

/-- The record a save writes in place of the stored one, if it writes. -/
def Session.revised (handlers : List (PureHandler E)) (limit : Nat) (now : Instant) (who : String)
    (stored given : Record E) : Except Failure (Option (Record E)) := do
  checkVersion given stored given.id
  let proposed ← Convergence.settle handlers limit stored given
  E.schema.checkRow proposed.toRow
  if (changedFields stored proposed).isEmpty then return none
  return some (← stampChanged proposed (stored.version?.map (· + 1)) now who)

/-- The image a save stages of a row that it reads, if it stages one. -/
def Session.savedImage? (handlers : List (PureHandler E)) (limit : Nat) (now : Instant)
    (who : String) (row : Row) (given : Record E) : Option Row := do
  let stored ← (Record.ofRow E row).toOption
  let next ← (revised handlers limit now who stored given).toOption.join
  (Store.overwrite (E.key given.id) row <|
    (writtenFields stored next).indices.map fun i => (i, next.field i)).toOption

/-- A change that leaves the state of the host alone. -/
def Transform.ofFunction (σ : Type) (change : Record E → Except Failure (Record E)) :
    Transform σ E := fun record host => (change record, host)

/-- The change, carried out in a session. -/
def Transform.apply (change : Transform σ E) (record : Record E) : SessionM β σ (Record E) :=
  fun s =>
    ((change record s.world.host).1,
      { s with world := { s.world with host := (change record s.world.host).2 } })

theorem Transform.apply_ofFunction (change : Record E → Except Failure (Record E))
    (record : Record E) :
    ((ofFunction σ change).apply record : SessionM β σ (Record E)) =
      SessionM.ofExcept (change record) := rfl

/-- A change of a record, with the author and the time of its stamps. -/
structure Write (E : EntityType) where
  change : Record E → Except Failure (Record E)
  who : String
  now : Instant

/-- The image a write gives the row of an identifier: the record is changed, settled and stamped. A
change that turns the record into another one, which is stored elsewhere, gives it none. -/
def Write.image? (handlers : List (PureHandler E)) (limit : Nat) (id : String) (write : Write E)
    (row : Row) : Option Row := do
  let stored ← (Record.ofRow E row).toOption
  let given ← (write.change stored).toOption
  if given.id = id then Session.savedImage? handlers limit write.now write.who row given else none

/-! ## Where an operation ends -/

namespace SessionM

/-- From a scope, an operation ends with a result and in a scope related as told. -/
def Ends (m : SessionM β σ α) (s : Scope β σ) (Q : Except Failure α → Scope β σ → Prop) : Prop :=
  Q (m.run s).1 (m.run s).2

variable {Q : Except Failure γ → Scope β σ → Prop} {s : Scope β σ}

theorem Ends.bind {m : SessionM β σ α} {f : α → SessionM β σ γ}
    {P : Except Failure α → Scope β σ → Prop} (h : Ends m s P)
    (herror : ∀ failure s', P (.error failure) s' → Q (.error failure) s')
    (hok : ∀ a s', P (.ok a) s' → Ends (f a) s' Q) : Ends (m >>= f) s Q := by
  unfold Ends at h ⊢
  rw [run_bind]
  generalize m.run s = out at h
  obtain ⟨result, s'⟩ := out
  cases result with
  | error failure => exact herror failure s' h
  | ok a => exact hok a s' h

theorem Ends.mono {m : SessionM β σ γ} {P : Except Failure γ → Scope β σ → Prop}
    (h : Ends m s P) (hPQ : ∀ r s', P r s' → Q r s') : Ends m s Q := hPQ _ _ h

theorem Ends.read_bind {f : Scope β σ → α} {g : α → SessionM β σ γ} (h : Ends (g (f s)) s Q) :
    Ends (SessionM.read f >>= g) s Q := h

theorem Ends.ofExcept_bind {result : Except Failure α} {f : α → SessionM β σ γ}
    (herror : ∀ failure, result = .error failure → Q (.error failure) s)
    (hok : ∀ a, result = .ok a → Ends (f a) s Q) : Ends (SessionM.ofExcept result >>= f) s Q := by
  refine Ends.bind (P := fun r s' => r = result ∧ s' = s) ⟨rfl, rfl⟩ ?_ ?_
  · rintro failure s' ⟨hresult, rfl⟩
    exact herror failure hresult.symm
  · rintro a s' ⟨hresult, rfl⟩
    exact hok a hresult.symm

/-- An operation that nobody notices, before another. -/
theorem Ends.yields_bind {m : SessionM β σ α} {result : Except Failure α}
    {f : α → SessionM β σ γ} (h : Yields m result) (hs : s.session.Plain)
    (herror : ∀ failure s', result = .error failure → s.Alike s' → Q (.error failure) s')
    (hok : ∀ a s', result = .ok a → s.Alike s' → Ends (f a) s' Q) : Ends (m >>= f) s Q := by
  have hends : Ends m s fun r s' => r = result ∧ s.Alike s' := h s hs
  refine hends.bind ?_ ?_
  · rintro failure s' ⟨hresult, halike⟩
    exact herror failure s' hresult.symm halike
  · rintro a s' ⟨hresult, halike⟩
    exact hok a s' hresult.symm halike

end SessionM

/-- What happened in a session between two scopes: these images were staged of each row. -/
structure Scope.Drafts (store : β → Store) (s : Scope β σ) (images : RowKey → List Row)
    (s' : Scope β σ) : Prop where
  holder : s'.session.holder = s.session.holder
  plain : s'.session.Plain
  store : (store s.world.backend).Drafts s.session.tx images (store s'.world.backend)

namespace Scope

variable {store : β → Store} {s s' s'' : Scope β σ} {images : RowKey → List Row}

theorem Drafts.tx (h : s.Drafts store images s') : s'.session.tx = s.session.tx :=
  congrArg Holder.tx h.holder

theorem Drafts.then (h : s.Drafts store Store.nothing s') (h' : s'.Drafts store images s'') :
    s.Drafts store images s'' where
  holder := h'.holder.trans h.holder
  plain := h'.plain
  store := h.store.then (h.tx ▸ h'.store)

theorem Drafts.and_nothing (h : s.Drafts store images s')
    (h' : s'.Drafts store Store.nothing s'') : s.Drafts store images s'' where
  holder := h'.holder.trans h.holder
  plain := h'.plain
  store := h.store.and_nothing (h.tx ▸ h'.store)

/-- The transaction of the session stays open. -/
theorem Drafts.open (h : s.Drafts store images s') :
    ∃ t', (store s'.world.backend).transactions.get? s'.session.tx = some t' := by
  rw [h.tx]
  exact h.store.open

/-- What nobody notices drafts nothing. -/
theorem Alike.drafts (h : s.Alike s') (hs : s.session.Plain)
    (hsound : (store s.world.backend).Sound) {t : Transaction}
    (hopen : (store s.world.backend).transactions.get? s.session.tx = some t) :
    s.Drafts store Store.nothing s' where
  holder := h.holder
  plain := h.plain hs
  store := by
    rw [h.backend]
    exact .refl hsound hopen

/-- What the transaction of a session sees in the end. -/
theorem Drafts.seen (h : s.Drafts store images s') (hsound : (store s.world.backend).Sound)
    {t : Transaction}
    (hopen : (store s.world.backend).transactions.get? s.session.tx = some t) :
    ∃ t', (store s'.world.backend).transactions.get? s'.session.tx = some t' ∧
      ∀ key, (store s'.world.backend).seen t' key =
        ((images key).getLast?).or ((store s.world.backend).seen t key) := by
  obtain ⟨t', hopen'⟩ := h.open
  exact ⟨t', hopen', h.store.seen hsound hopen (h.tx ▸ hopen')⟩

/-- How an operation ends that may stage an image of a row: it stages none, or one of which `P`
holds, and then only the notifier or the audit log can make it fail. -/
inductive Stages (engine : Engine β σ) (store : β → Store) (s : Scope β σ) (key : RowKey)
    (P : Row → Prop) (r : Except Failure α) (s' : Scope β σ) : Prop where
  | none (hdrafts : s.Drafts store Store.nothing s')
  | one (image : Row) (himage : P image) (hdrafts : s.Drafts store (Store.oneImage key image) s')
      (hok : engine.Announces → engine.Audits store → ∃ a, r = .ok a)

variable {engine : Engine β σ} {key : RowKey} {P : Row → Prop}

theorem Stages.mono {r : Except Failure α} {P' : Row → Prop}
    (h : s.Stages engine store key P r s') (hP : ∀ image, P image → P' image) :
    s.Stages engine store key P' r s' := by
  cases h with
  | none hdrafts => exact .none hdrafts
  | one image himage hdrafts hok => exact .one image (hP image himage) hdrafts hok

theorem Stages.after {r : Except Failure α} (h : s.Drafts store Store.nothing s')
    (h' : s'.Stages engine store key P r s'') : s.Stages engine store key P r s'' := by
  cases h' with
  | none hdrafts => exact .none (h.then hdrafts)
  | one image himage hdrafts hok => exact .one image himage (h.then hdrafts) hok

/-- A span is not noticed. -/
theorem Stages.withSpan {m : SessionM β σ α} (hs : s.session.Plain)
    (hsound : (store s.world.backend).Sound) {t : Transaction}
    (hopen : (store s.world.backend).transactions.get? s.session.tx = some t)
    (h : ∀ s₁, s.Alike s₁ → SessionM.Ends m s₁ (s₁.Stages engine store key P))
    (event : TraceEvent) :
    SessionM.Ends (SessionM.withSpan event m) s (s.Stages engine store key P) := by
  -- The operation runs in a scope that differs by the trace alone, and leaves it by closing the
  -- span.
  let s₁ : Scope β σ := { s with world := { s.world with trace := (s.world.trace.enter event).2 } }
  have hinside : s.Stages engine store key P (m.run s₁).1 (m.run s₁).2 := by
    have halike : s.Alike s₁ := ⟨rfl, rfl, rfl, rfl⟩
    exact .after (halike.drafts hs hsound hopen) (h s₁ halike)
  cases hinside with
  | none hdrafts => exact .none ⟨hdrafts.holder, hdrafts.plain, hdrafts.store⟩
  | one image himage hdrafts hok =>
    exact .one image himage ⟨hdrafts.holder, hdrafts.plain, hdrafts.store⟩ hok

end Scope

namespace Session

open SessionM

variable {engine : Engine β σ} {store : β → Store} {s : Scope β σ} {t : Transaction}

/-- A call about rows is answered by the store, which takes it as a step. -/
theorem call_ends (hkeeps : engine.backend.KeepsRows store) (s : Scope β σ) (stage : Stage)
    {c : Call} (hc : ∀ tx record, c ≠ .audit tx record) :
    Ends (SessionM.call engine stage c) s fun r s' =>
      r = ((store s.world.backend).step c).1.mapError (.persistence stage.label) ∧
        s'.session = s.session ∧ s'.world.clock = s.world.clock ∧
        store s'.world.backend = ((store s.world.backend).step c).2 := by
  obtain ⟨hanswer, hstore⟩ := hkeeps.call c s.world.backend hc
  refine ⟨?_, rfl, rfl, hstore⟩
  change Except.mapError _ (engine.backend.call c s.world.backend).1 = _
  rw [hanswer]

/-- A read of the row leaves it as it is and gives what the transaction sees. -/
theorem fetch_ends (hkeeps : engine.backend.KeepsRows store) (hs : s.session.Plain)
    (hsound : (store s.world.backend).Sound)
    (hopen : (store s.world.backend).transactions.get? s.session.tx = some t) (id : String) :
    Ends (fetch engine E id) s fun r s' =>
      s.Drafts store Store.nothing s' ∧ s'.world.clock = s.world.clock ∧
        r = match (store s.world.backend).seen t (E.key id) with
          | none => .ok none
          | some row => (Record.ofRow E row).map some := by
  obtain ⟨hseen, hdrafts⟩ := Store.drafts_fetch hsound hopen (E.key id)
  have hcall := call_ends hkeeps s .fetch (c := .fetch s.session.tx (E.key id))
    fun _ _ h => by cases h
  rw [hseen] at hcall
  unfold fetch
  refine Ends.read_bind (hcall.bind ?_ ?_)
  · rintro failure s' ⟨hr, -⟩
    cases hr
  · rintro row? s' ⟨hr, hsession, hclock, hstore⟩
    obtain rfl := Except.ok.inj hr
    have hdrafts' : s.Drafts store Store.nothing s' :=
      ⟨congrArg holder hsession, hsession ▸ hs, hstore ▸ hdrafts⟩
    cases (store s.world.backend).seen t (E.key id) with
    | none => exact ⟨hdrafts', hclock, rfl⟩
    | some row => exact ⟨hdrafts', hclock, rfl⟩

/-- A load gives the record of the row the transaction sees. -/
theorem load_ends (hkeeps : engine.backend.KeepsRows store) (hs : s.session.Plain)
    (hsound : (store s.world.backend).Sound)
    (hopen : (store s.world.backend).transactions.get? s.session.tx = some t) (id : String) :
    Ends (load engine E id) s fun r s' =>
      s.Drafts store Store.nothing s' ∧ s'.world.clock = s.world.clock ∧
        r = match (store s.world.backend).seen t (E.key id) with
          | none => .error (.notFound E.name id)
          | some row => Record.ofRow E row := by
  unfold load
  refine (fetch_ends hkeeps hs hsound hopen id).bind ?_ ?_
  -- A failed fetch can only be a row that does not read as a record: the call itself was answered.
  · rintro failure s' ⟨hdrafts, hclock, hr⟩
    refine ⟨hdrafts, hclock, ?_⟩
    cases hseen : (store s.world.backend).seen t (E.key id) with
    | none => rw [hseen] at hr; cases hr
    | some row =>
      rw [hseen] at hr
      cases hrow : Record.ofRow E row with
      | error failure' => simpa [hrow, Except.map] using hr
      | ok record => simp [hrow, Except.map] at hr
  · rintro record? s' ⟨hdrafts, hclock, hr⟩
    cases hseen : (store s.world.backend).seen t (E.key id) with
    | none =>
      rw [hseen] at hr
      obtain rfl := Except.ok.inj hr
      exact ⟨hdrafts, hclock, rfl⟩
    | some row =>
      rw [hseen] at hr
      cases hrow : Record.ofRow E row with
      | error failure' => simp [hrow, Except.map] at hr
      | ok record =>
        simp only [hrow, Except.map, Except.ok.injEq] at hr
        subst hr
        exact ⟨hdrafts, hclock, hrow.symm⟩

/-- An announcement touches no row, heard or not. -/
theorem announce_ends (hkeeps : engine.backend.KeepsRows store) (hs : s.session.Plain)
    (hsound : (store s.world.backend).Sound)
    (hopen : (store s.world.backend).transactions.get? s.session.tx = some t) (notice : Notice) :
    Ends (SessionM.announce engine notice) s fun r s' =>
      s.Drafts store Store.nothing s' ∧ (engine.Announces → r = .ok ()) := by
  refine ⟨⟨rfl, hs, ?_⟩, fun hannounce => ?_⟩
  · change Store.Drafts _ _ _ (store (engine.backend.announce notice s.world.backend).2)
    rw [hkeeps.announce]
    exact .refl hsound hopen
  · change Except.mapError _ (engine.backend.announce notice s.world.backend).1 = _
    rw [hannounce]
    rfl

/-- An audit record touches no row, taken or not. -/
theorem recordAudit_ends (hkeeps : engine.backend.KeepsRows store) (hs : s.session.Plain)
    (hsound : (store s.world.backend).Sound)
    (hopen : (store s.world.backend).transactions.get? s.session.tx = some t)
    (action : AuditAction) (id : String) (changes : ChangeSet) :
    Ends (recordAudit engine action E id changes) s fun r s' =>
      s.Drafts store Store.nothing s' ∧ (engine.Audits store → r = .ok ()) := by
  refine Ends.read_bind ?_
  refine ⟨⟨rfl, hs, ?_⟩, fun haudit => ?_⟩
  · change Store.Drafts _ _ _ (store (engine.backend.call (.audit _ _) s.world.backend).2)
    rcases hkeeps.audit s.session.tx
      ⟨s.session.actor.id, s.session.actor.effective, action, E.name, id, changes⟩
      s.world.backend with hkept | hstep
    · rw [hkept]
      exact .refl hsound hopen
    · rw [hstep]
      exact Store.drafts_audit hsound hopen _
  · change Except.mapError _ (engine.backend.call (.audit _ _) s.world.backend).1 = _
    rw [haudit _ _ _ (by rw [hopen]; exact Option.some_ne_none t)]
    rfl

/-- An update of a row that the transaction sees stages the overwritten image, unless the row lacks
a field. -/
theorem update_ends (hkeeps : engine.backend.KeepsRows store) (hs : s.session.Plain)
    (hsound : (store s.world.backend).Sound)
    (hopen : (store s.world.backend).transactions.get? s.session.tx = some t) {key : RowKey}
    {row : Row} (hseen : (store s.world.backend).seen t key = some row)
    (fields : List (Nat × Value)) :
    Ends (SessionM.call engine .update (.update s.session.tx key fields)) s fun r s' =>
      match Store.overwrite key row fields with
      | .error _ => (∃ failure, r = .error failure) ∧ s.Drafts store Store.nothing s'
      | .ok image => r = .ok () ∧ s.Drafts store (Store.oneImage key image) s' := by
  obtain ⟨hr, hsession, -, hstore⟩ := call_ends hkeeps s .update
    (c := .update s.session.tx key fields) fun _ _ h => by cases h
  change match Store.overwrite key row fields with
    | .error _ => _
    | .ok image => _
  cases hrow : Store.overwrite key row fields with
  | error failure =>
    obtain ⟨herror, hdrafts⟩ := Store.drafts_misfit hsound hopen hseen hrow
    rw [herror] at hr
    exact ⟨⟨_, hr⟩, congrArg holder hsession, hsession ▸ hs, hstore ▸ hdrafts⟩
  | ok image =>
    obtain ⟨hok, hdrafts⟩ := Store.drafts_update hsound hopen hseen hrow
    rw [hok] at hr
    exact ⟨hr, congrArg holder hsession, hsession ▸ hs, hstore ▸ hdrafts⟩

/-- The write of a save stages the stamped record over the row the transaction sees, or fails and
stages nothing. -/
theorem writeChanges_ends (hkeeps : engine.backend.KeepsRows store) (hs : s.session.Plain)
    (hsound : (store s.world.backend).Sound)
    (hopen : (store s.world.backend).transactions.get? s.session.tx = some t) {id : String}
    {row : Row} (hseen : (store s.world.backend).seen t (E.key id) = some row)
    (stored converged : Record E) :
    Ends (writeChanges engine id stored converged) s <|
      s.Stages engine store (E.key id) fun image => ∃ next,
        stampChanged converged (stored.version?.map (· + 1)) s.world.clock.next
            s.session.actor.effective = .ok next ∧
          Store.overwrite (E.key id) row ((writtenFields stored next).indices.map
            fun i => (i, next.field i)) = .ok image := by
  unfold writeChanges
  refine Ends.bind (P := fun r s' => r = .ok s.world.clock.next ∧
    s' = { s with world := { s.world with clock := s.world.clock.rest } }) ⟨rfl, rfl⟩ ?_ ?_
  · rintro failure s' ⟨hr, -⟩
    cases hr
  rintro now s₁ ⟨hr, hs₁⟩
  obtain rfl := Except.ok.inj hr
  have hdrafts₁ : s.Drafts store Store.nothing s₁ := by
    rw [hs₁]
    exact ⟨rfl, hs, .refl hsound hopen⟩
  have hopen₁ : (store s₁.world.backend).transactions.get? s₁.session.tx = some t := by
    rw [hs₁]
    exact hopen
  have hseen₁ : (store s₁.world.backend).seen t (E.key id) = some row := by
    rw [hs₁]
    exact hseen
  refine Ends.read_bind (Ends.ofExcept_bind (fun _ _ => .none hdrafts₁) fun next hnext => ?_)
  rw [show s₁.session = s.session by rw [hs₁]] at hnext
  refine (update_ends hkeeps hdrafts₁.plain hdrafts₁.store.sound hopen₁ hseen₁ _).bind ?_ ?_
  · intro failure s₂ h
    split at h
    · exact .none (hdrafts₁.then h.2)
    · cases h.1
  intro answer s₂ h
  split at h
  · obtain ⟨failure, hr⟩ := h.1
    cases hr
  next image himage =>
  -- The image is staged; what is left decides about the answer alone.
  have hdrafts₂ := hdrafts₁.then h.2
  obtain ⟨t₂, hopen₂⟩ := hdrafts₂.open
  refine (announce_ends hkeeps hdrafts₂.plain hdrafts₂.store.sound hopen₂ _).bind ?_ ?_
  · rintro failure s₃ ⟨hdrafts₃, hheard⟩
    refine .one image ⟨next, hnext, himage⟩ (hdrafts₂.and_nothing hdrafts₃) ?_
    intro hannounces _
    cases hheard hannounces
  rintro answer s₃ ⟨hdrafts₃, -⟩
  obtain ⟨t₃, hopen₃⟩ := hdrafts₃.open
  obtain ⟨hdrafts₄, htaken⟩ := recordAudit_ends (E := E) hkeeps hdrafts₃.plain
    hdrafts₃.store.sound hopen₃ .update id
    (ChangeSet.ofMask (writtenFields stored next) (some stored) next)
  refine .one image ⟨next, hnext, himage⟩ (hdrafts₂.and_nothing (hdrafts₃.then hdrafts₄)) ?_
  intro _ haudits
  exact ⟨(), htaken haudits⟩

/-- A write that stages an image of a row, and a load of the row: an image that reads as a record is
read back. -/
theorem reload_ends (hkeeps : engine.backend.KeepsRows store) {id : String} {P : Row → Prop}
    (hreads : ∀ image, P image → ∃ record, Record.ofRow E image = .ok record)
    (hsound : (store s.world.backend).Sound)
    (hopen : (store s.world.backend).transactions.get? s.session.tx = some t)
    {write : SessionM β σ Unit} (hwrite : Ends write s (s.Stages engine store (E.key id) P)) :
    Ends (write >>= fun _ => load engine E id) s (s.Stages engine store (E.key id) P) := by
  refine hwrite.bind ?_ ?_
  · intro failure s₁ h
    cases h with
    | none hdrafts₁ => exact .none hdrafts₁
    | one image himage hdrafts₁ hok =>
      refine .one image himage hdrafts₁ fun hannounces haudits => ?_
      obtain ⟨answer, hr⟩ := hok hannounces haudits
      cases hr
  intro answer s₁ h
  cases h with
  | none hdrafts₁ =>
    obtain ⟨t₁, hopen₁⟩ := hdrafts₁.open
    refine (load_ends hkeeps hdrafts₁.plain hdrafts₁.store.sound hopen₁ id).mono ?_
    rintro r s₂ ⟨hdrafts₂, -⟩
    exact .none (hdrafts₁.then hdrafts₂)
  | one image himage hdrafts₁ hok =>
    obtain ⟨t₁, hopen₁, hseen₁⟩ := hdrafts₁.seen hsound hopen
    have hstaged : (store s₁.world.backend).seen t₁ (E.key id) = some image := by
      rw [hseen₁, Store.oneImage, if_pos rfl]
      rfl
    refine (load_ends hkeeps hdrafts₁.plain hdrafts₁.store.sound hopen₁ id).mono ?_
    rintro r s₂ ⟨hdrafts₂, -, hr⟩
    refine .one image himage (hdrafts₁.and_nothing hdrafts₂) fun _ _ => ?_
    obtain ⟨record, hrecord⟩ := hreads image himage
    rw [hstaged] at hr
    exact ⟨record, hr.trans hrecord⟩

/-- What is left of a save when the handlers have converged and put nothing off: it stages the
stamped record, or nothing. -/
theorem converged_ends (hkeeps : engine.backend.KeepsRows store) (hs : s.session.Plain)
    (hsound : (store s.world.backend).Sound)
    (hopen : (store s.world.backend).transactions.get? s.session.tx = some t)
    (operations : Operations β σ) (given : Record E) {stored : Record E} {row : Row}
    (hseen : (store s.world.backend).seen t (E.key given.id) = some row)
    (hrow : Record.ofRow E row = .ok stored) (converged : Record E) :
    Ends (do
        SessionM.ofExcept (E.schema.checkRow converged.toRow)
        if (changedFields stored converged).isEmpty then
          if (.empty : DeferredWork σ).isEmpty then return given
        else writeChanges engine given.id stored converged
        drain engine operations .empty
        load engine E given.id) s <|
      s.Stages engine store (E.key given.id) fun image =>
        E.schema.checkRow converged.toRow = .ok () ∧
          (changedFields stored converged).isEmpty = false ∧ ∃ next,
            stampChanged converged (stored.version?.map (· + 1))
                s.world.clock.next s.session.actor.effective = .ok next ∧
              Store.overwrite (E.key given.id) row ((writtenFields stored next).indices.map
                fun i => (i, next.field i)) = .ok image := by
  have hstart : s.Drafts store Store.nothing s := ⟨rfl, hs, .refl hsound hopen⟩
  refine Ends.ofExcept_bind (fun _ _ => .none hstart) fun _ hcheck => ?_
  cases hchanged : (changedFields stored converged).isEmpty with
  | true => exact .none hstart
  | false =>
    have hwrite := writeChanges_ends hkeeps hs hsound hopen hseen stored converged
    refine (reload_ends hkeeps ?_ hsound hopen hwrite).mono fun r s' h =>
      h.mono fun image himage => ⟨hcheck, rfl, himage⟩
    rintro image ⟨next, -, himage⟩
    exact Record.ofRow_overwrite ⟨stored, hrow⟩ himage

/-- A save stages the image that `savedImage?` gives for the row the transaction sees, or nothing.
-/
theorem saveWith_ends (hkeeps : engine.backend.KeepsRows store) {handlers : List (PureHandler E)}
    (hhandlers : engine.registry.handlers E = handlers.map (·.toHandler σ))
    (hs : s.session.Plain) (hsound : (store s.world.backend).Sound)
    (hopen : (store s.world.backend).transactions.get? s.session.tx = some t)
    (operations : Operations β σ) (given : Record E) :
    Ends (saveWith engine (drain engine operations) given) s <|
      s.Stages engine store (E.key given.id) fun image => ∃ row,
        (store s.world.backend).seen t (E.key given.id) = some row ∧
          savedImage? handlers engine.config.maxPasses.toNat s.world.clock.next
            s.session.actor.effective row given = some image := by
  have hstart : s.Drafts store Store.nothing s := ⟨rfl, hs, .refl hsound hopen⟩
  unfold saveWith
  refine Ends.ofExcept_bind (fun _ _ => .none hstart) fun _ _ => ?_
  dsimp only
  split
  · exact .none hstart
  refine (load_ends hkeeps hs hsound hopen given.id).bind ?_ ?_
  · rintro failure s₁ ⟨hdrafts₁, -⟩
    exact .none hdrafts₁
  rintro stored s₁ ⟨hdrafts₁, hclock₁, hload⟩
  -- The load went well, so there is a row, and it reads as the stored record.
  obtain ⟨row, hseen, hrow⟩ : ∃ row, (store s.world.backend).seen t (E.key given.id) = some row ∧
      Record.ofRow E row = .ok stored := by
    cases hseen : (store s.world.backend).seen t (E.key given.id) with
    | none => rw [hseen] at hload; cases hload
    | some row => rw [hseen] at hload; exact ⟨row, rfl, hload.symm⟩
  refine Ends.ofExcept_bind (fun _ _ => .none hdrafts₁) fun _ hversion => ?_
  obtain ⟨t₁, hopen₁, hseen₁⟩ := hdrafts₁.seen hsound hopen
  refine Ends.mono ?_ fun r s' => Scope.Stages.after hdrafts₁
  refine Scope.Stages.withSpan hdrafts₁.plain hdrafts₁.store.sound hopen₁ (fun s₂ halike₂ => ?_) _
  have hdrafts₂ := halike₂.drafts hdrafts₁.plain hdrafts₁.store.sound hopen₁
  obtain ⟨t₂, hopen₂, hseen₂⟩ := hdrafts₂.seen hdrafts₁.store.sound hopen₁
  refine Ends.read_bind ?_
  rw [Convergence.forcePending_of_plain hdrafts₂.plain]
  obtain ⟨passes, hyields⟩ := Convergence.run_yields hhandlers stored given
  refine Ends.yields_bind hyields hdrafts₂.plain ?_ ?_
  · intro failure s₃ _ halike₃
    exact .none (halike₃.drafts hdrafts₂.plain hdrafts₂.store.sound hopen₂)
  intro out s₃ hout halike₃
  -- The handlers reached what `settle` computes, and deferred nothing.
  obtain ⟨converged, hsettle, rfl⟩ : ∃ converged,
      Convergence.settle handlers engine.config.maxPasses.toNat stored given = .ok converged ∧
        out = ⟨passes, converged, .empty⟩ := by
    cases hsettle : Convergence.settle handlers engine.config.maxPasses.toNat stored given with
    | error failure => rw [hsettle] at hout; cases hout
    | ok converged => rw [hsettle] at hout; exact ⟨converged, rfl, (Except.ok.inj hout).symm⟩
  have hdrafts₃ := halike₃.drafts hdrafts₂.plain hdrafts₂.store.sound hopen₂
  obtain ⟨t₃, hopen₃, hseen₃⟩ := hdrafts₃.seen hdrafts₂.store.sound hopen₂
  have hseen' : (store s₃.world.backend).seen t₃ (E.key given.id) = some row := by
    rw [hseen₃, hseen₂, hseen₁, hseen]
    rfl
  refine (converged_ends hkeeps hdrafts₃.plain hdrafts₃.store.sound hopen₃ operations given hseen'
    hrow converged).mono fun r s' h =>
    Scope.Stages.after hdrafts₃ (h.mono ?_)
  rintro image ⟨hcheck, hchanged, next, hnext, himage⟩
  have hclock₃ : s₃.world.clock = s.world.clock :=
    halike₃.clock.trans (halike₂.clock.trans hclock₁)
  have hactor₃ : s₃.session.actor = s.session.actor :=
    congrArg Holder.actor (hdrafts₃.holder.trans (hdrafts₂.holder.trans hdrafts₁.holder))
  rw [hclock₃, hactor₃] at hnext
  -- `savedImage?` takes the same steps, all of which went well.
  refine ⟨row, hseen, ?_⟩
  simp [savedImage?, revised, hrow, hversion, hsettle, hcheck, hchanged, hnext, himage,
    Except.toOption, bind, Except.bind, pure, Except.pure]

/-! ## Find and modify -/

/-- One program after another is carried out one after another. -/
theorem runProgram_bind (operations : Operations β σ) (program : SessionProgram σ α)
    (f : α → SessionProgram σ γ) (s : Scope β σ) :
    runProgram engine operations (program.bind f) s =
      runProgram engine operations (f (runProgram engine operations program s).1)
        (runProgram engine operations program s).2 := by
  induction program generalizing s with
  | done result => rfl
  | create F record next ih => exact ih _ _
  | save F record next ih => exact ih _ _
  | fetch F id next ih => exact ih _ _
  | inspect next ih => exact ih _ _
  | call c next ih => exact ih _ _
  | host change next ih => exact ih _ _

theorem runWork_bind (operations : Operations β σ) (work : SessionWork σ α)
    (f : α → SessionWork σ γ) :
    runWork engine operations (work >>= f) =
      runWork engine operations work >>= fun a => runWork engine operations (f a) := by
  funext s
  refine (runProgram_bind operations work.run _ s).trans ?_
  refine Eq.trans ?_ (run_bind (runWork engine operations work) _ s).symm
  change _ = match runProgram engine operations work.run s with
    | (.ok a, s') => runProgram engine operations (f a).run s'
    | (.error failure, s') => (.error failure, s')
  generalize runProgram engine operations work.run s = out
  obtain ⟨result, s'⟩ := out
  cases result with
  | error failure => rfl
  | ok a => rfl

theorem runWork_load (operations : Operations β σ) (id : String) :
    runWork engine operations (SessionWork.load E id) = load engine E id := by
  unfold SessionWork.load
  rw [runWork_bind]
  unfold load
  refine congrArg₂ _ rfl (funext fun record? => ?_)
  cases record? with
  | none => rfl
  | some record => rfl

/-- A find-and-modify loads, changes and saves. -/
theorem findAndModify_eq (id : String) (change : Transform σ E) :
    findAndModify engine id change = (do
      let record ← load engine E id
      let given ← change.apply record
      save engine given) := by
  unfold findAndModify perform SessionWork.findAndModify
  rw [runWork_bind, runWork_load]
  refine congrArg _ (funext fun record => ?_)
  rw [runWork_bind]
  rfl

/-- A find-and-modify stages at most one image of its row: the one its write gives the row that the
transaction sees. Having staged it, the operation goes well unless the notifier or the audit log
fails. -/
theorem findAndModify_ends (hkeeps : engine.backend.KeepsRows store)
    {handlers : List (PureHandler E)}
    (hhandlers : engine.registry.handlers E = handlers.map (·.toHandler σ))
    (hs : s.session.Plain) (hsound : (store s.world.backend).Sound)
    (hopen : (store s.world.backend).transactions.get? s.session.tx = some t) (id : String)
    (change : Record E → Except Failure (Record E)) :
    Ends (findAndModify engine id (Transform.ofFunction σ change)) s fun r s' =>
      ∃ images, s.Drafts store images s' ∧ (images (E.key id) = [] ∨ ∃ row image,
        (store s.world.backend).seen t (E.key id) = some row ∧
        Write.image? handlers engine.config.maxPasses.toNat id
          ⟨change, s.session.actor.effective, s.world.clock.next⟩ row = some image ∧
        images (E.key id) = [image] ∧
        (engine.Announces → engine.Audits store → ∃ record, r = .ok record)) := by
  rw [findAndModify_eq]
  refine (load_ends hkeeps hs hsound hopen id).bind ?_ ?_
  · rintro failure s₁ ⟨hdrafts₁, -⟩
    exact ⟨_, hdrafts₁, .inl rfl⟩
  rintro stored s₁ ⟨hdrafts₁, hclock₁, hload⟩
  rw [Transform.apply_ofFunction]
  refine Ends.ofExcept_bind (fun _ _ => ⟨_, hdrafts₁, .inl rfl⟩) fun given hgiven => ?_
  obtain ⟨t₁, hopen₁, hseen₁⟩ := hdrafts₁.seen hsound hopen
  refine (saveWith_ends hkeeps hhandlers hdrafts₁.plain hdrafts₁.store.sound hopen₁
    (operationsAt engine engine.nesting) given).mono ?_
  intro r s₂ h
  cases h with
  | none hdrafts₂ => exact ⟨_, hdrafts₁.then hdrafts₂, .inl rfl⟩
  | one image himage hdrafts₂ hok =>
    refine ⟨_, hdrafts₁.then hdrafts₂, ?_⟩
    by_cases hid : given.id = id
    · obtain ⟨row, hrow, hsaved⟩ := himage
      have hactor₁ : s₁.session.actor = s.session.actor := congrArg Holder.actor hdrafts₁.holder
      rw [hclock₁, hactor₁] at hsaved
      rw [hseen₁, hid] at hrow
      have hseen : (store s.world.backend).seen t (E.key id) = some row := hrow
      rw [hseen] at hload
      refine .inr ⟨row, image, hseen, ?_, ?_, hok⟩
      · simp [Write.image?, ← hload, hgiven, hid, hsaved, Except.toOption]
      · rw [Store.oneImage, if_pos (by rw [hid])]
    · -- The change made another record of it, and that one was saved.
      left
      rw [Store.oneImage, if_neg fun hkey => hid (congrArg RowKey.id hkey)]

/-- What fails and changes no row. -/
def Refused (store : β → Store) (s : Scope β σ) (r : Except Failure α) (s' : Scope β σ) : Prop :=
  (∃ failure, r = .error failure) ∧ store s'.world.backend = store s.world.backend ∧
    s'.session = s.session

/-- What begins with an operation that is refused is refused. -/
theorem Refused.bind {m : SessionM β σ α} (h : Ends m s (Refused store s))
    (f : α → SessionM β σ γ) : Ends (m >>= f) s (Refused store s) := by
  refine Ends.bind h ?_ ?_
  · rintro failure s' ⟨-, hsame⟩
    exact ⟨⟨failure, rfl⟩, hsame⟩
  · rintro a s' ⟨⟨failure, hr⟩, -⟩
    cases hr

/-- A find-and-modify in a session that was ended changes nothing. -/
theorem findAndModify_closed (hkeeps : engine.backend.KeepsRows store)
    (hclosed : (store s.world.backend).transactions.get? s.session.tx = none) (id : String)
    (change : Transform σ E) : Ends (findAndModify engine id change) s (Refused store s) := by
  -- The load comes first, and its fetch does not find the transaction.
  have hstep : (store s.world.backend).step (.fetch s.session.tx (E.key id)) =
      (.error (Store.unknownTransaction s.session.tx), store s.world.backend) := by
    simp [Store.step, Store.fetch, Store.visibleRow, hclosed]
  obtain ⟨hr, hsession, -, hstore⟩ := call_ends hkeeps s .fetch
    (c := .fetch s.session.tx (E.key id)) fun _ _ h => by cases h
  rw [hstep] at hr hstore
  have hcall : Ends (SessionM.call engine .fetch (.fetch s.session.tx (E.key id))) s
      (Refused store s) := ⟨⟨_, hr⟩, hstore, hsession⟩
  have hfetch : Ends (fetch engine E id) s (Refused store s) :=
    Ends.read_bind (Refused.bind hcall _)
  rw [findAndModify_eq]
  exact Refused.bind (Refused.bind hfetch _) _

end Session

end RecordEngine
