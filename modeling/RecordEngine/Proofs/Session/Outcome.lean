import RecordEngine.Proofs.Convergence.Inward
import RecordEngine.Proofs.Record.Untimed
import RecordEngine.Proofs.Session.Frame
/-!
What a save comes to.

If its handlers are functions of what they are given and its backend does what it is asked to, a
save depends on very little: the row that the session sees, what the session knows of the record,
the actor and the time. `Session.outcome` is the save as a function of these. `save_ends` says that
the save comes to that, in all its effects: the result, the changes staged in the transaction, the
announcements, and nothing that the session knows of other records. A notifier may fail, as long as
what it answers is a matter of what it is told.

Apart from the time of its stamps the outcome is the same at any two times. `SaveOutcome.untimed`
says what is the same.
-/

set_option autoImplicit false

namespace RecordEngine

variable {β σ α γ H : Type} {E : EntityType}

theorem ok_bind (a : α) (f : α → Except Failure γ) : (.ok a >>= f) = f a := rfl

/-- An operation inside a span begins and ends with another trace. -/
theorem SessionM.Ends.withSpan {s : Scope β σ} {m : SessionM β σ α} {event : TraceEvent}
    {Q : Except Failure α → Scope β σ → Prop}
    (h : SessionM.Ends m { s with world.trace := (s.world.trace.enter event).2 } fun r s' =>
      ∀ trace, Q r { s' with world.trace := trace }) :
    SessionM.Ends (SessionM.withSpan event m) s Q := h _

/-- Reading the clock lets it go on. -/
theorem SessionM.Ends.now_bind {s : Scope β σ} {f : Instant → SessionM β σ α}
    {Q : Except Failure α → Scope β σ → Prop}
    (h : SessionM.Ends (f s.world.clock.next)
      { s with world.clock := s.world.clock.rest } Q) : SessionM.Ends (SessionM.now >>= f) s Q := h

/-! ## Staging -/

/-- The image of a row that was updated, if no row is written after that. -/
theorem imageIn_updateRow (key : RowKey) (row : Row) {later : List Change} (other : RowKey)
    (hlater : imageIn later other = none) :
    imageIn (.updateRow key row :: later) other = if key = other then some row else none := by
  rw [← List.singleton_append, imageIn_append, hlater]
  simp [imageIn, Change.imageOf?, Change.written?]

namespace Store

variable {s s' s'' : Store} {tx : TxId} {t : Transaction} {staged staged' : List Change}

/-- A transaction has staged some more changes, and nothing else has happened but reads. -/
structure Adds (s : Store) (tx : TxId) (staged : List Change) (s' : Store) : Prop where
  sound : s'.Sound
  rows : s'.rows = s.rows
  changes : ∃ t t', s.transactions.get? tx = some t ∧ s'.transactions.get? tx = some t' ∧
    t'.changes = t.changes ++ staged

theorem Adds.refl (hs : s.Sound) (hopen : s.transactions.get? tx = some t) : s.Adds tx [] s where
  sound := hs
  rows := rfl
  changes := ⟨t, t, hopen, hopen, (List.append_nil _).symm⟩

theorem Adds.trans (h : s.Adds tx staged s') (h' : s'.Adds tx staged' s'') :
    s.Adds tx (staged ++ staged') s'' where
  sound := h'.sound
  rows := h'.rows.trans h.rows
  changes := by
    obtain ⟨t, t', hopen, hopen', hchanges⟩ := h.changes
    obtain ⟨u, u', hu, hu', hchanges'⟩ := h'.changes
    obtain rfl := Option.some.inj (hopen'.symm.trans hu)
    exact ⟨t, u', hopen, hu', by rw [hchanges', hchanges, List.append_assoc]⟩

/-- What the transaction sees of a row is the last image that was added, or what it saw before. -/
theorem Adds.visibleRow (h : s.Adds tx staged s') (hs : s.Sound) (key : RowKey) :
    (s'.visibleRow tx key).1 =
      (s.visibleRow tx key).1.map fun row? => (imageIn staged key).or row? := by
  obtain ⟨t, t', hopen, hopen', hchanges⟩ := h.changes
  have hcommitted : s'.committedRow? key = s.committedRow? key := by
    rw [committedRow?, h.rows, committedRow?]
  rw [visibleRow_of_open hopen, visibleRow_of_open hopen', seen, seen, h.sound.stagedRow? hopen',
    hs.stagedRow? hopen, hchanges, imageIn_append, hcommitted, Option.or_assoc]
  rfl

theorem adds_touched (hs : s.Sound) (hopen : s.transactions.get? tx = some t) (key : RowKey) :
    s.Adds tx [] (s.holding tx (s.touched t key)) where
  sound := hs.holding hopen (hs.touched hopen key)
  rows := rfl
  changes := by
    refine ⟨t, s.touched t key, hopen, by rw [get?_holding, if_pos rfl], ?_⟩
    rw [touched, Transaction.touch_changes, List.append_nil]

theorem fetch_adds (hs : s.Sound) (hopen : s.transactions.get? tx = some t) (key : RowKey) :
    (s.step (.fetch tx key)).1 = .ok (s.seen t key) ∧
      s.Adds tx [] (s.step (.fetch tx key)).2 := by
  rw [show s.step (.fetch tx key) = (.ok (s.seen t key), s.holding tx (s.touched t key)) from
    visibleRow_of_open hopen key]
  exact ⟨rfl, adds_touched hs hopen key⟩

/-- An update of a row that is there stages the new image, if the row has all the fields. -/
theorem update_adds (hs : s.Sound) (hopen : s.transactions.get? tx = some t) {key : RowKey}
    {row : Row} (hseen : s.seen t key = some row) (fields : List (Nat × Value)) :
    (s.step (.update tx key fields)).1 = (overwrite key row fields).map (fun _ => ()) ∧
      s.Adds tx ((overwrite key row fields).toOption.map (.updateRow key ·)).toList
        (s.step (.update tx key fields)).2 := by
  have hsound := hs.step (.update tx key fields)
  have heffect := effect_step hs (.update tx key fields)
  generalize (s.step (.update tx key fields)).1 = answer at heffect ⊢
  generalize (s.step (.update tx key fields)).2 = s' at hsound heffect ⊢
  cases heffect with
  | unknown _ tx' htx hclosed =>
    obtain rfl : tx = tx' := Option.some.inj htx
    rw [hopen] at hclosed
    cases hclosed
  | updated _ _ _ old image u hu hold himage =>
    obtain rfl := Option.some.inj (hopen.symm.trans hu)
    obtain rfl := Option.some.inj (hseen.symm.trans hold)
    rw [himage]
    refine ⟨rfl, hsound, rfl, t, _, hopen, by rw [get?_holding, if_pos rfl], ?_⟩
    rw [Transaction.stage_changes, touched, Transaction.touch_changes]
    rfl
  | missing _ _ _ u hu hnone =>
    obtain rfl := Option.some.inj (hopen.symm.trans hu)
    rw [hseen] at hnone
    cases hnone
  | misfit _ _ _ old failure u hu hold hfailure =>
    obtain rfl := Option.some.inj (hopen.symm.trans hu)
    obtain rfl := Option.some.inj (hseen.symm.trans hold)
    rw [hfailure]
    exact ⟨rfl, adds_touched hs hopen key⟩

theorem audit_adds (hs : s.Sound) (hopen : s.transactions.get? tx = some t)
    (record : AuditRecord) :
    (s.step (.audit tx record)).1 = .ok () ∧
      s.Adds tx [.appendAudit record] (s.step (.audit tx record)).2 := by
  have hsound := hs.step (.audit tx record)
  have hpin : ∀ key row, (Change.appendAudit record).written? = some (key, row) →
      t.bases.get? key ≠ none := fun _ _ hwritten => by cases hwritten
  have hstep : s.step (.audit tx record) =
      (.ok (), s.holding tx (t.stage (.appendAudit record))) :=
    stage_of_open hopen (hs.transactions tx t hopen) hpin none
  rw [hstep] at hsound ⊢
  exact ⟨rfl, hsound, rfl, t, _, hopen, by rw [get?_holding, if_pos rfl], rfl⟩

end Store

/-! ## Backends -/

/-- Where a backend keeps its rows and audit records, what has been heard of announcements, and what
they are answered. -/
structure Books (β H : Type) where
  store : β → Store
  heard : β → H
  hear : H → Notice → H
  reply : Notice → Except Failure Unit

/-- The backend does what it is asked to: a call is a step of the store, and an announcement is
heard, leaves the store alone and is answered as such announcements are. -/
structure Backend.KeepsBooks (backend : Backend β) (books : Books β H) : Prop where
  answer : ∀ c b, (backend.call c b).1 = ((books.store b).step c).1
  store : ∀ c b, books.store (backend.call c b).2 = ((books.store b).step c).2
  silent : ∀ c b, books.heard (backend.call c b).2 = books.heard b
  replies : ∀ notice b, (backend.announce notice b).1 = books.reply notice
  apart : ∀ notice b, books.store (backend.announce notice b).2 = books.store b
  heard : ∀ notice b,
    books.heard (backend.announce notice b).2 = books.hear (books.heard b) notice

def Memory.books : Books Memory (Option Channel) where
  store := Memory.store
  heard := Memory.channel
  hear channel notice := channel.map (·.announce notice)
  reply _ := .ok ()

theorem Backend.memory_keepsBooks : Backend.memory.KeepsBooks Memory.books where
  answer _ _ := rfl
  store _ _ := rfl
  silent _ _ := rfl
  replies _ _ := rfl
  apart _ _ := rfl
  heard _ _ := rfl

namespace Scope

variable {books : Books β H} {id : String} {staged staged' : List Change}
  {notices notices' : List Notice} {s s' s'' : Scope β σ}

/-- What happened in a session on account of one record: some changes were staged and some writes
announced, and nothing that the session knows of other records has changed. -/
structure Advances (books : Books β H) (id : String) (s : Scope β σ) (staged : List Change)
    (notices : List Notice) (s' : Scope β σ) : Prop where
  holder : s'.session.holder = s.session.holder
  store : (books.store s.world.backend).Adds s.session.tx staged (books.store s'.world.backend)
  heard : books.heard s'.world.backend = notices.foldl books.hear (books.heard s.world.backend)
  /-- The times that the clock will tell are among those that it was to tell. -/
  clock : ∀ n, ∃ m, s'.world.clock n = s.world.clock m
  others : ∀ other, other ≠ id → s.session.AgreesOn other s'.session

namespace Advances

theorem tx (h : s.Advances books id staged notices s') : s'.session.tx = s.session.tx :=
  congrArg Holder.tx h.holder

theorem trans (h : s.Advances books id staged notices s')
    (h' : s'.Advances books id staged' notices' s'') :
    s.Advances books id (staged ++ staged') (notices ++ notices') s'' where
  holder := h'.holder.trans h.holder
  store := h.store.trans (h.tx ▸ h'.store)
  heard := by rw [List.foldl_append, ← h.heard, h'.heard]
  clock n := by
    obtain ⟨m, hm⟩ := h'.clock n
    obtain ⟨k, hk⟩ := h.clock m
    exact ⟨k, hm.trans hk⟩
  others other hother := (h.others other hother).trans (h'.others other hother)

/-- After something that staged and announced nothing. -/
theorem after (h : s.Advances books id [] [] s') (h' : s'.Advances books id staged notices s'') :
    s.Advances books id staged notices s'' := h.trans h'

/-- The clock goes on. -/
theorem tick (hsound : (books.store s.world.backend).Sound) {t : Transaction}
    (hopen : (books.store s.world.backend).transactions.get? s.session.tx = some t) :
    s.Advances books id [] [] { s with world.clock := s.world.clock.rest } where
  holder := rfl
  store := .refl hsound hopen
  heard := rfl
  clock n := ⟨n + 1, rfl⟩
  others other _ := .refl other _

/-- What goes to the trace is no matter. -/
theorem traced (h : s.Advances books id staged notices s') (trace : TraceSink) :
    s.Advances books id staged notices { s' with world.trace := trace } :=
  ⟨h.holder, h.store, h.heard, h.clock, h.others⟩

/-- A call is a step of the store, and the session is as it was. -/
theorem of_step {backend : β} (hheard : books.heard backend = books.heard s.world.backend)
    (hstore : (books.store s.world.backend).Adds s.session.tx staged (books.store backend)) :
    s.Advances books id staged [] { s with world.backend := backend } where
  holder := rfl
  store := hstore
  heard := hheard
  clock n := ⟨n, rfl⟩
  others other _ := .refl other _

/-- What the session sees of a row is the last image that was staged, or what it saw before. -/
theorem row (h : s.Advances books id staged notices s')
    (hsound : (books.store s.world.backend).Sound) (key : RowKey) :
    s'.row books.store key =
      (s.row books.store key).map fun row? => (imageIn staged key).or row? := by
  rw [Scope.row, h.tx, h.store.visibleRow hsound]
  rfl

end Advances

/-- What is seen is seen in an open transaction. -/
theorem open_of_row {store : β → Store} {key : RowKey} {row? : Option Row}
    (h : s.row store key = .ok row?) :
    ∃ t, (store s.world.backend).transactions.get? s.session.tx = some t ∧
      (store s.world.backend).seen t key = row? := by
  cases hopen : (store s.world.backend).transactions.get? s.session.tx with
  | none =>
    rw [row, Store.visibleRow, hopen] at h
    cases h
  | some t =>
    rw [row_of_open hopen] at h
    exact ⟨t, rfl, Except.ok.inj h⟩

/-- Nothing happened in a session but reads. -/
structure Reads (books : Books β H) (s s' : Scope β σ) : Prop where
  session : s'.session = s.session
  clock : s'.world.clock = s.world.clock
  store : (books.store s.world.backend).Adds s.session.tx [] (books.store s'.world.backend)
  heard : books.heard s'.world.backend = books.heard s.world.backend

theorem Reads.advances (h : s.Reads books s') (id : String) : s.Advances books id [] [] s' where
  holder := congrArg Session.holder h.session
  store := h.store
  heard := h.heard
  clock n := ⟨n, congrFun h.clock n⟩
  others other _ := h.session ▸ .refl other _

theorem Reads.refl (hsound : (books.store s.world.backend).Sound) {t : Transaction}
    (hopen : (books.store s.world.backend).transactions.get? s.session.tx = some t) :
    s.Reads books s where
  session := rfl
  clock := rfl
  store := .refl hsound hopen
  heard := rfl

theorem Reads.traced (h : s.Reads books s') (trace : TraceSink) :
    s.Reads books { s' with world.trace := trace } := ⟨h.session, h.clock, h.store, h.heard⟩

/-- What spares other records advances by nothing. -/
theorem Spares.advances (h : s.Spares id s') (hsound : (books.store s.world.backend).Sound)
    {t : Transaction}
    (hopen : (books.store s.world.backend).transactions.get? s.session.tx = some t) :
    s.Advances books id [] [] s' where
  holder := h.holder
  store := by
    rw [h.backend]
    exact .refl hsound hopen
  heard := by rw [h.backend]; rfl
  clock n := ⟨n, congrFun h.clock n⟩
  others := h.others

end Scope

/-! ## Outcomes -/

/-- What a save comes to. -/
structure SaveOutcome (E : EntityType) where
  result : Except Failure (Record E)
  /-- What it stages in its transaction, in order. -/
  staged : List Change
  /-- What it announces. -/
  notices : List Notice

/-- A write, as the record that was stored, the record that takes its place, and the new image of
the row. -/
structure Written (E : EntityType) where
  stored : Record E
  next : Record E
  image : Row

namespace Session

/-- The record of a row that has to be there. -/
def loaded (E : EntityType) (id : String) : Option Row → Except Failure (Record E)
  | none => .error (.notFound E.name id)
  | some row => Record.ofRow E row

/-- What a save requires of the record it is given and of the row that is there. -/
def admitted (record : Record E) (seen : Option Row) : Except Failure (Record E) := do
  E.schema.checkRow record.toRow
  if record.id.isEmpty then throw (missingId E)
  let stored ← loaded E record.id seen
  checkVersion record stored record.id
  return stored

/-- The write of a record in place of the one that is stored. -/
def rewritten (id : String) (stored : Record E) (row : Row) (proposed : Record E) (now : Instant)
    (who : String) : Except Failure (Written E) := do
  let next ← stampChanged proposed (stored.version?.map (· + 1)) now who
  let image ← (Store.overwrite (E.key id) row (overwrites stored next)).mapError
    (.persistence Stage.update.label)
  return ⟨stored, next, image⟩

/-- The write that a save makes of what the handlers made of its record, if it makes one. -/
def changed (id : String) (stored : Record E) (row : Row) (converged : Except Failure (Record E))
    (now : Instant) (who : String) : Except Failure (Option (Written E)) := do
  let proposed ← converged
  E.schema.checkRow proposed.toRow
  if (changedFields stored proposed).isEmpty then return none
  return some (← rewritten id stored row proposed now who)

end Session

/-- What is staged of the row, if there is a write. -/
def Written.staged (id : String) (written? : Option (Written E)) : List Change :=
  (written?.map fun written => .updateRow (E.key id) written.image).toList

/-- What is announced of a write. -/
def Written.notice (written : Written E) (id : String) : Notice :=
  ⟨E.name, id, written.stored.version?.map (· + 1)⟩

/-- What is put down about a write. -/
def Written.audit (written : Written E) (id : String) (actor : Actor) : AuditRecord :=
  { actor := actor.id, effective := actor.effective, action := .update, entity := E.name, id,
    changes := ChangeSet.ofMask (Session.writtenFields written.stored written.next)
      (some written.stored) written.next }

/-- What a save comes to after its write: the write is announced, and unless that fails it is put
down and the row is read. -/
def Written.finish (written : Written E) (reply : Notice → Except Failure Unit) (id : String)
    (actor : Actor) : SaveOutcome E :=
  match reply (written.notice id) with
  | .error failure =>
    ⟨.error (.persistence Stage.notify.label failure), [], [written.notice id]⟩
  | .ok () =>
    ⟨Record.ofRow E written.image, [.appendAudit (written.audit id actor)], [written.notice id]⟩

/-- What a save of a record comes to, given what it writes, if it gets that far. -/
def SaveOutcome.of (reply : Notice → Except Failure Unit) (record : Record E) (actor : Actor) :
    Except Failure (Option (Written E)) → SaveOutcome E
  | .error failure => ⟨.error failure, [], []⟩
  | .ok none => ⟨.ok record, [], []⟩
  | .ok (some written) =>
    let finished := written.finish reply record.id actor
    { finished with
      staged := .updateRow (E.key record.id) written.image :: finished.staged }

namespace Session

/-- What the handlers make of a record in a session. -/
def converged (engine : Engine β σ) (s : Scope β σ) (record stored : Record E) :
    Except Failure (Record E) :=
  ((Convergence.run engine stored record
    (Convergence.forcePending engine E s.session record.id)).run s).1.map (·.record)

/-- What a save of a record comes to in a session that sees a row under its identifier, or none. -/
def outcome (engine : Engine β σ) (reply : Notice → Except Failure Unit) (s : Scope β σ)
    (record : Record E) (seen : Option Row) : SaveOutcome E :=
  .of reply record s.session.actor <| do
    let stored ← admitted record seen
    changed record.id stored (seen.getD []) (converged engine s record stored)
      s.world.clock.next s.session.actor.effective

/-! ### Saves come to their outcomes -/

open SessionM

variable {engine : Engine β σ} {books : Books β H} {s : Scope β σ} {id : String}

section
variable (hbooks : engine.backend.KeepsBooks books)
include hbooks

/-- A call does to the books what it does to the store. -/
theorem call_advances (s : Scope β σ) (id : String) (stage : Stage) {c : Call}
    {answer : Except Failure c.Answer} {staged : List Change}
    (h : ((books.store s.world.backend).step c).1 = answer ∧
      (books.store s.world.backend).Adds s.session.tx staged
        ((books.store s.world.backend).step c).2) :
    Ends (SessionM.call engine stage c) s fun r s' =>
      r = answer.mapError (.persistence stage.label) ∧ s'.session = s.session ∧
        s.Advances books id staged [] s' := by
  refine ⟨?_, rfl, .of_step (hbooks.silent c _) ?_⟩
  · rw [← h.1, ← hbooks.answer]
    rfl
  · rw [hbooks.store]
    exact h.2

variable (hsound : (books.store s.world.backend).Sound)
include hsound

theorem load_reads {seen : Option Row} (hrow : s.row books.store (E.key id) = .ok seen) :
    Ends (load engine E id) s fun r s' => r = loaded E id seen ∧ s.Reads books s' := by
  obtain ⟨t, hopen, rfl⟩ := Scope.open_of_row hrow
  obtain ⟨hanswer, hadds⟩ := Store.fetch_adds hsound hopen (E.key id)
  rw [← hbooks.answer] at hanswer
  rw [← hbooks.store] at hadds
  have hcall : (SessionM.call engine .fetch (.fetch s.session.tx ⟨E.name, id⟩)).run s =
      (.ok ((books.store s.world.backend).seen t (E.key id)), { s with world.backend :=
        (engine.backend.call (.fetch s.session.tx (E.key id)) s.world.backend).2 }) := by
    rw [SessionM.call_run]
    exact congrArg₂ _ (congrArg (Except.mapError _) hanswer) rfl
  unfold Ends
  simp only [load, fetch, SessionM.run_bind, SessionM.read_run, hcall]
  have hreads : s.Reads books { s with world.backend :=
      (engine.backend.call (.fetch s.session.tx (E.key id)) s.world.backend).2 } :=
    ⟨rfl, rfl, hadds, hbooks.silent _ _⟩
  cases (books.store s.world.backend).seen t (E.key id) with
  | none => exact ⟨rfl, hreads⟩
  | some row =>
    dsimp only [SessionM.ofExcept, ExceptT.run, loaded]
    cases Record.ofRow E row with
    | error failure => exact ⟨rfl, hreads⟩
    | ok record => exact ⟨rfl, hreads⟩

theorem admitChange_reads {record : Record E} {seen : Option Row}
    (hrow : s.row books.store (E.key record.id) = .ok seen) :
    Ends (admitChange engine record) s fun r s' =>
      r = admitted record seen ∧ s.Reads books s' := by
  obtain ⟨t, hopen, -⟩ := Scope.open_of_row hrow
  have hnone : s.Reads books s := .refl hsound hopen
  unfold admitChange admitted
  refine Ends.ofExcept_bind (fun failure hfailure => ?_) fun _ hcheck => ?_
  · rw [hfailure]
    exact ⟨rfl, hnone⟩
  rw [hcheck]
  by_cases hid : record.id.isEmpty
  · simp only [hid, if_true]
    exact ⟨rfl, hnone⟩
  simp only [hid, if_false, Bool.false_eq_true]
  refine Ends.bind (load_reads hbooks hsound hrow) ?_ ?_
  · rintro failure s₁ ⟨hloaded, hreads⟩
    rw [← hloaded]
    exact ⟨rfl, hreads⟩
  · rintro stored s₁ ⟨hloaded, hreads⟩
    rw [← hloaded]
    refine Ends.ofExcept_bind (fun failure hfailure => ?_) fun _ hversion => ?_
    · change _ = (checkVersion record stored record.id >>= fun _ => pure stored) ∧ _
      rw [hfailure]
      exact ⟨rfl, hreads⟩
    · change _ = (checkVersion record stored record.id >>= fun _ => pure stored) ∧ _
      rw [hversion]
      exact ⟨rfl, hreads⟩

/-- The write of a save comes to what `rewritten` says, and stages just that. -/
theorem updateRow_advances {row : Row} (hrow : s.row books.store (E.key id) = .ok (some row))
    (stored proposed : Record E) :
    Ends (updateRow engine id stored proposed) s fun r s' =>
      ∃ written, written = rewritten id stored row proposed s.world.clock.next
          s.session.actor.effective ∧
        r = written.map (·.next) ∧
        s.Advances books id (Written.staged id written.toOption) [] s' := by
  obtain ⟨t, hopen, hseen⟩ := Scope.open_of_row hrow
  have htick : s.Advances books id [] [] { s with world.clock := s.world.clock.rest } :=
    .tick hsound hopen
  unfold updateRow rewritten
  refine Ends.now_bind (Ends.read_bind (Ends.ofExcept_bind (fun failure hfailure => ?_)
    fun next hnext => ?_))
  · rw [hfailure]
    exact ⟨_, rfl, rfl, htick⟩
  rw [hnext, ok_bind]
  have hcall := call_advances hbooks { s with world.clock := s.world.clock.rest } id .update
    (Store.update_adds hsound hopen hseen (overwrites stored next))
  refine hcall.bind ?_ ?_
  · rintro failure s' ⟨hanswer, -, hadvances⟩
    cases himage : Store.overwrite (E.key id) row (overwrites stored next) with
    | ok image =>
      rw [himage] at hanswer
      cases hanswer
    | error cause =>
      rw [himage] at hanswer hadvances
      obtain rfl := Except.error.inj hanswer
      exact ⟨_, rfl, rfl, htick.after hadvances⟩
  · rintro done s' ⟨hanswer, -, hadvances⟩
    cases himage : Store.overwrite (E.key id) row (overwrites stored next) with
    | ok image =>
      rw [himage] at hadvances
      exact ⟨_, rfl, rfl, htick.after hadvances⟩
    | error cause =>
      rw [himage] at hanswer
      cases hanswer

variable (hhandlers : ∀ handler ∈ engine.registry.handlers E, handler.IsPure)
include hhandlers

omit hbooks hsound in
/-- The handlers leave other records alone, and put off nothing. -/
theorem run_spares (s : Scope β σ) (record stored : Record E) :
    Ends (Convergence.run engine stored record
      (Convergence.forcePending engine E s.session record.id)) s fun r s' =>
        converged engine s record stored = r.map (·.record) ∧
          (∀ out, r = .ok out → out.queue = .empty) ∧ s.Spares record.id s' :=
  ⟨rfl, fun _ hout => Convergence.queue_of_run hhandlers hout,
    (Convergence.run_inward hhandlers stored record _).spares s⟩

/-- Up to its write a save comes to what `changed` says, and stages just that. -/
theorem updateChanged_advances {record : Record E} {row : Row}
    (hrow : s.row books.store (E.key record.id) = .ok (some row)) (stored : Record E) :
    Ends (updateChanged engine record stored) s fun r s' =>
      ∃ written, written = changed record.id stored row (converged engine s record stored)
          s.world.clock.next s.session.actor.effective ∧
        r = written.map (fun written? => (written?.map (·.next), .empty)) ∧
        s.Advances books record.id (Written.staged record.id written.toOption.join) [] s' := by
  obtain ⟨t, hopen, -⟩ := Scope.open_of_row hrow
  unfold updateChanged changed
  refine Ends.read_bind ?_
  refine (run_spares hhandlers s record stored).bind ?_ ?_
  · rintro failure s₁ ⟨hconverged, -, hspares⟩
    rw [hconverged]
    exact ⟨_, rfl, rfl, hspares.advances hsound hopen⟩
  rintro out s₁ ⟨hconverged, hout, hspares⟩
  have hqueue : out.queue = .empty := hout out rfl
  have hadvances : s.Advances books record.id [] [] s₁ := hspares.advances hsound hopen
  replace hconverged : converged engine s record stored = .ok out.record := hconverged
  rw [hconverged, ok_bind]
  refine Ends.ofExcept_bind (fun failure hfailure => ?_) fun _ hcheck => ?_
  · rw [hfailure]
    exact ⟨_, rfl, rfl, hadvances⟩
  rw [hcheck, ok_bind]
  by_cases hchanged : (changedFields stored out.record).isEmpty
  · simp only [hchanged, if_true]
    refine ⟨_, rfl, ?_, hadvances⟩
    rw [← hqueue]
    rfl
  simp only [hchanged, if_false, Bool.false_eq_true]
  -- The handlers left the row, the clock and the actor alone.
  have hrow₁ : s₁.row books.store (E.key record.id) = .ok (some row) := by
    rw [hadvances.row hsound, hrow]
    rfl
  have hwrite := updateRow_advances hbooks hadvances.store.sound hrow₁ stored out.record
  rw [hspares.clock, show s₁.session.actor = s.session.actor from
    congrArg Holder.actor hspares.holder] at hwrite
  refine hwrite.bind ?_ ?_
  · rintro failure s₂ ⟨written, hwritten, hresult, hadvances₂⟩
    rw [← hwritten]
    cases written with
    | ok written => cases hresult
    | error cause =>
      obtain rfl := Except.error.inj hresult
      exact ⟨_, rfl, rfl, hadvances.after hadvances₂⟩
  · rintro next s₂ ⟨written, hwritten, hresult, hadvances₂⟩
    rw [← hwritten]
    cases written with
    | error cause => cases hresult
    | ok written =>
      obtain rfl := Except.ok.inj hresult
      refine ⟨_, rfl, ?_, hadvances.after hadvances₂⟩
      rw [← hqueue]
      rfl

omit hhandlers in
/-- An announcement is heard and answered, and nothing else happens. -/
theorem announce_advances (id : String) (notice : Notice) {t : Transaction}
    (hopen : (books.store s.world.backend).transactions.get? s.session.tx = some t) :
    Ends (SessionM.announce engine notice) s fun r s' =>
      r = (books.reply notice).mapError (.persistence Stage.notify.label) ∧
        s'.session = s.session ∧ s.Advances books id [] [notice] s' ∧
        (books.store s'.world.backend).transactions.get? s.session.tx = some t := by
  refine ⟨?_, rfl, ⟨rfl, ?_, hbooks.heard _ _, fun n => ⟨n, rfl⟩, fun other _ => .refl other _⟩,
    ?_⟩
  · change Except.mapError _ (engine.backend.announce _ _).1 = _
    rw [hbooks.replies]
  · change Store.Adds _ _ _ (books.store (engine.backend.announce _ _).2)
    rw [hbooks.apart]
    exact .refl hsound hopen
  · change (books.store (engine.backend.announce _ _).2).transactions.get? _ = _
    rw [hbooks.apart]
    exact hopen

omit hhandlers in
/-- After its write a save announces it and, unless that fails, puts it down and loads the row. -/
theorem finish_advances {record : Record E} {written : Written E} (operations : Operations β σ)
    (hrow : s.row books.store (E.key record.id) = .ok (some written.image)) :
    Ends (do
      announceChange engine record.id written.stored (some written.next)
      closeSave engine (drain engine operations) record (some written.next) .empty) s fun r s' =>
        r = (written.finish books.reply record.id s.session.actor).result ∧
          s.Advances books record.id
            (written.finish books.reply record.id s.session.actor).staged
            (written.finish books.reply record.id s.session.actor).notices s' := by
  obtain ⟨t, hopen, -⟩ := Scope.open_of_row hrow
  have hannounce := announce_advances hbooks hsound record.id (written.notice record.id) hopen
  unfold Written.finish
  cases hreply : books.reply (written.notice record.id) with
  | error failure =>
    rw [hreply] at hannounce
    have hfailed : Ends (announceChange engine record.id written.stored (some written.next)) s
        fun r s' => r = .error (.persistence Stage.notify.label failure) ∧
          s.Advances books record.id [] [written.notice record.id] s' := by
      refine hannounce.bind ?_ ?_
      · rintro cause s₁ ⟨hr, -, hadvances, -⟩
        exact ⟨congrArg _ (Except.error.inj hr), hadvances⟩
      · rintro done s₁ ⟨hr, -⟩
        cases hr
    refine hfailed.bind ?_ ?_
    · rintro cause s₁ ⟨hr, hadvances⟩
      exact ⟨congrArg _ (Except.error.inj hr), hadvances⟩
    · rintro done s₁ ⟨hr, -⟩
      cases hr
  | ok done =>
    rw [hreply] at hannounce
    have hannounced : Ends (announceChange engine record.id written.stored (some written.next)) s
        fun r s' => r = .ok () ∧
          s.Advances books record.id [.appendAudit (written.audit record.id s.session.actor)]
            [written.notice record.id] s' := by
      refine hannounce.bind (fun failure s₁ h => ?_) ?_
      · obtain ⟨hr, -⟩ := h
        cases hr
      rintro - s₁ ⟨-, hsession, hadvances, hopen₁⟩
      rw [← hsession] at hopen₁ ⊢
      refine Ends.read_bind ((call_advances hbooks s₁ record.id .audit
        (Store.audit_adds hadvances.store.sound hopen₁
          (written.audit record.id s₁.session.actor))).mono ?_)
      rintro r s₂ ⟨hr, -, hadvances₂⟩
      exact ⟨hr, hadvances.trans hadvances₂⟩
    refine hannounced.bind ?_ ?_
    · rintro failure s₁ ⟨hr, -⟩
      cases hr
    rintro - s₁ ⟨-, hadvances⟩
    -- Nothing was put off, and the row is as it was.
    change Ends (load engine E record.id) s₁ _
    have hrow₁ : s₁.row books.store (E.key record.id) = .ok (some written.image) := by
      rw [hadvances.row hsound, hrow]
      rfl
    refine (load_reads hbooks hadvances.store.sound hrow₁).mono ?_
    rintro r s₂ ⟨rfl, hreads⟩
    exact ⟨rfl, hadvances.trans (hreads.advances record.id)⟩

end

/-! ### The whole save -/

/-- How a save ends that comes to an outcome. -/
structure Comes (books : Books β H) (s : Scope β σ) (id : String) (out : SaveOutcome E)
    (r : Except Failure (Record E)) (s' : Scope β σ) : Prop where
  result : r = out.result
  advances : s.Advances books id out.staged out.notices s'

/-- A save that is admitted found a row. -/
theorem row_of_admitted {record stored : Record E} {seen : Option Row}
    (h : admitted record seen = .ok stored) :
    ∃ row, seen = some row ∧ Record.ofRow E row = .ok stored := by
  obtain ⟨_, -, h⟩ := bind_eq_ok.1 h
  by_cases hid : record.id.isEmpty
  · simp only [hid, if_true] at h
    cases h
  simp only [hid, if_false, Bool.false_eq_true] at h
  obtain ⟨loaded, hloaded, h⟩ := bind_eq_ok.1 h
  obtain ⟨_, -, h⟩ := bind_eq_ok.1 h
  obtain rfl := Except.ok.inj h
  cases seen with
  | none => cases hloaded
  | some row => exact ⟨row, rfl, hloaded⟩

/-- What a write is made of. -/
theorem of_rewritten {stored proposed : Record E} {row : Row} {now : Instant} {who : String}
    {written : Written E} (h : rewritten id stored row proposed now who = .ok written) :
    written.stored = stored ∧
      stampChanged proposed (stored.version?.map (· + 1)) now who = .ok written.next ∧
      Store.overwrite (E.key id) row (overwrites stored written.next) = .ok written.image := by
  obtain ⟨next, hnext, h⟩ := bind_eq_ok.1 h
  obtain ⟨image, himage, h⟩ := bind_eq_ok.1 h
  obtain rfl := Except.ok.inj h
  exact ⟨rfl, hnext, mapError_eq_ok.1 himage⟩

theorem of_changed {stored : Record E} {row : Row} {converged : Except Failure (Record E)}
    {now : Instant} {who : String} {written : Written E}
    (h : changed id stored row converged now who = .ok (some written)) :
    ∃ proposed, rewritten id stored row proposed now who = .ok written := by
  obtain ⟨proposed, -, h⟩ := bind_eq_ok.1 h
  obtain ⟨_, -, h⟩ := bind_eq_ok.1 h
  by_cases hchanged : (changedFields stored proposed).isEmpty
  · rw [if_pos hchanged] at h
    cases h
  rw [if_neg hchanged] at h
  obtain ⟨written', hwritten, h⟩ := bind_eq_ok.1 h
  obtain rfl := Option.some.inj (Except.ok.inj h)
  exact ⟨proposed, hwritten⟩

section
variable (hbooks : engine.backend.KeepsBooks books)
  (hhandlers : ∀ handler ∈ engine.registry.handlers E, handler.IsPure)
include hhandlers

/-- The handlers make the same of a record in sessions that agree on it. -/
theorem converged_of_agrees {s' : Scope β σ} {record : Record E}
    (h : s.session.AgreesOn record.id s'.session) (stored : Record E) :
    converged engine s' record stored = converged engine s record stored := by
  have hinward : Inward record.id (Convergence.run engine stored record
      (Convergence.forcePending engine E s.session record.id)) :=
    Convergence.run_inward hhandlers stored record _
  rw [converged, converged, Convergence.forcePending_of_agrees h, (hinward.alike s s' h).1]

variable (hsound : (books.store s.world.backend).Sound)
include hbooks hsound

/-- A save comes to its outcome. -/
theorem save_ends {record : Record E} {seen : Option Row}
    (hrow : s.row books.store (E.key record.id) = .ok seen) :
    Ends (save engine record) s
      (Comes books s record.id (outcome engine books.reply s record seen)) := by
  have hsave : save engine record =
      saveWith engine (drain engine (operationsAt engine engine.nesting)) record := rfl
  rw [hsave, saveWith_eq_head]
  refine (admitChange_reads hbooks hsound hrow).bind ?_ ?_
  · rintro failure s₁ ⟨hadmitted, hreads⟩
    rw [outcome, ← hadmitted]
    exact ⟨rfl, hreads.advances _⟩
  rintro stored s₁ ⟨hadmitted, hreads⟩
  obtain ⟨row, rfl, -⟩ := row_of_admitted hadmitted.symm
  rw [outcome, ← hadmitted, ok_bind]
  refine Ends.withSpan ?_
  generalize (s₁.world.trace.enter (.modelActivity E.name record.id .update)).2 = trace
  replace hreads := hreads.traced trace
  generalize { s₁ with world.trace := trace } = s₂ at hreads ⊢
  -- The session is as it was, so the handlers find it so.
  have hrow₂ : s₂.row books.store (E.key record.id) = .ok (some row) := by
    rw [(hreads.advances record.id).row hsound, hrow]
    rfl
  have hwrite := updateChanged_advances hbooks hreads.store.sound hhandlers hrow₂ stored
  have hsame : s.session.AgreesOn record.id s₂.session := hreads.session ▸ .refl record.id s.session
  rw [converged_of_agrees hhandlers hsame stored, hreads.clock, hreads.session] at hwrite
  refine hwrite.bind ?_ ?_
  · rintro failure s₃ ⟨written, hwritten, hresult, hadvances⟩ trace
    rw [Option.getD_some, ← hwritten]
    cases written with
    | ok written => cases hresult
    | error cause =>
      obtain rfl := Except.error.inj hresult
      exact ⟨rfl, ((hreads.advances _).after hadvances).traced trace⟩
  rintro ⟨next?, queue⟩ s₃ ⟨written, hwritten, hresult, hadvances⟩
  rw [Option.getD_some, ← hwritten]
  replace hadvances := (hreads.advances _).after hadvances
  cases written with
  | error cause => cases hresult
  | ok written? =>
    obtain ⟨rfl, rfl⟩ := Prod.mk.inj (Except.ok.inj hresult)
    cases written? with
    | none => exact fun trace => ⟨rfl, hadvances.traced trace⟩
    | some written =>
      obtain ⟨proposed, hwritten⟩ := of_changed hwritten.symm
      obtain ⟨rfl, -, -⟩ := of_rewritten hwritten
      have hrow₃ : s₃.row books.store (E.key record.id) = .ok (some written.image) := by
        have himage : imageIn [.updateRow (E.key record.id) written.image] (E.key record.id) =
            some written.image := by simp [imageIn, Change.imageOf?, Change.written?]
        rw [hadvances.row hsound, hrow]
        exact congrArg (fun image => Except.ok (Option.or image (some row))) himage
      refine (finish_advances hbooks hadvances.store.sound
        (operationsAt engine engine.nesting) hrow₃).mono ?_
      rw [show s₃.session.actor = s.session.actor from congrArg Holder.actor hadvances.holder]
      rintro r s₄ ⟨hr, hadvances₄⟩ trace
      exact ⟨hr, (hadvances.trans hadvances₄).traced trace⟩

end

end Session

end RecordEngine
