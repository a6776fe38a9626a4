import RecordEngine.Proofs.Session.Interleaving
import RecordEngine.Proofs.Session.Modify
import RecordEngine.Proofs.Store.Frame
import RecordEngine.Retry
/-!
What a find-and-modify leaves alone.

A find-and-modify loads the record of one identifier, lets the caller change it and saves what came
of it. The save asks the record for the identifier, and nobody checks that it is still the one that
was loaded: a change that assigns another identifier has the row of that one overwritten. So the row
that may change is that of the record given to the save. Every other row the session sees stays as
it is, whatever the handlers look at in the meantime, and the same goes for the committed rows when
the operation is tried again and again.
-/

set_option autoImplicit false

namespace RecordEngine

variable {β σ α : Type} {E : EntityType}

/-- A call that writes nothing: rows may be looked at, and transactions may be opened and, all but
one's own, dropped. -/
def Call.Looks (own : TxId) : Call → Prop
  | .begin | .fetch .. => True
  | .rollback tx => tx ≠ own
  | .commit _ | .insert .. | .update .. | .audit .. => False

theorem Call.Looks.spares {own : TxId} {may : RowKey → List (Nat × Value) → Prop} {c : Call}
    (h : c.Looks own) : c.Spares own may := by
  cases c with
  | begin => trivial
  | fetch => trivial
  | rollback tx => exact h
  | _ => exact h.elim

/-! ## Calls that reach the store through a backend -/

namespace Backend.KeepsRows

variable {backend : Backend β} {store : β → Store} {b b' : β} {es : List Event} {tx : TxId}
  {may : RowKey → List (Nat × Value) → Prop}

theorem store_call (h : backend.KeepsRows store) (c : Call) (b : β) :
    store (backend.call c b).2 = store b ∨
      store (backend.call c b).2 = ((store b).step c).2 := by
  cases c with
  | audit tx record => exact h.audit tx record b
  | _ => exact .inr (h.call _ b fun _ _ hc => by cases hc).2

theorem sound_call (h : backend.KeepsRows store) (hs : (store b).Sound) (c : Call) :
    (store (backend.call c b).2).Sound := by
  rcases h.store_call c b with hsame | hstep
  · rw [hsame]
    exact hs
  · rw [hstep]
    exact hs.step c

theorem frames_call (h : backend.KeepsRows store) (hs : (store b).Sound) {c : Call}
    (hc : c.Spares tx may) : (store b).Frames tx may (store (backend.call c b).2) := by
  rcases h.store_call c b with hsame | hstep
  · rw [hsame]
    exact .refl _
  · rw [hstep]
    exact (Store.effect_step hs c).frames hs hc

theorem frames (h : backend.KeepsRows store) (hserves : backend.Serves b es b')
    (hs : (store b).Sound) (hes : ∀ e ∈ es, e.call.Spares tx may) :
    (store b').Sound ∧ (store b).Frames tx may (store b') := by
  induction hserves with
  | nil b => exact ⟨hs, .refl _⟩
  | call c b b' rest hrest ih =>
    obtain ⟨hc, hes⟩ := List.forall_mem_cons.1 hes
    obtain ⟨hsound, hframes⟩ := ih (h.sound_call hs c) hes
    exact ⟨hsound, (h.frames_call hs hc).trans hframes⟩
  | announce notice b b' events hrest ih =>
    rw [← h.announce notice b] at hs ⊢
    exact ih hs hes

/-- Whatever the transaction is shown of a row in the course of the calls has the steady properties
of what it saw at the beginning. -/
theorem fetched (h : backend.KeepsRows store) (hserves : backend.Serves b es b')
    (hs : (store b).Sound) (hes : ∀ e ∈ es, e.call.Spares tx may) {t : Transaction}
    (hopen : (store b).transactions.get? tx = some t) {key : RowKey} {P : Option Row → Prop}
    (hP : Store.Steady may key P) (hseen : P ((store b).seen t key)) {row? : Option Row}
    (he : ⟨.fetch tx key, .ok row?⟩ ∈ es) : P row? := by
  induction hserves generalizing t with
  | nil b => cases he
  | call c b b' rest hrest ih =>
    obtain ⟨hc, hes⟩ := List.forall_mem_cons.1 hes
    rcases List.mem_cons.1 he with heq | he
    · obtain ⟨hcall, hanswer⟩ := Event.mk.inj heq
      subst hcall
      have hok := (h.call (.fetch tx key) b fun _ _ hc => by cases hc).1
      rw [← eq_of_heq hanswer] at hok
      change _ = (((store b).visibleRow tx key).1) at hok
      rw [Store.visibleRow_of_open hopen] at hok
      exact Except.ok.inj hok ▸ hseen
    · obtain ⟨t', hopen', hkept⟩ := (h.frames_call hs hc).seen t hopen
      exact ih (h.sound_call hs c) hes hopen' (hkept key P hP hseen) he
  | announce notice b b' events hrest ih =>
    rw [← h.announce notice b] at hs hopen hseen
    exact ih hs hes hopen hseen he

end Backend.KeepsRows

/-! ## What a session sees -/

/-- The row is that of a record with an identifier. -/
def EntityType.Reads (E : EntityType) (id : String) (row : Row) : Prop :=
  ∃ record, Record.ofRow E row = .ok record ∧ record.id = id

namespace Scope

variable {store : β → Store} {s s' : Scope β σ}

/-- What the transaction of a session sees of a row; a failure once it has ended. -/
def row (store : β → Store) (s : Scope β σ) (key : RowKey) : Except Failure (Option Row) :=
  ((store s.world.backend).visibleRow s.session.tx key).1

theorem row_of_open {t : Transaction}
    (hopen : (store s.world.backend).transactions.get? s.session.tx = some t) (key : RowKey) :
    s.row store key = .ok ((store s.world.backend).seen t key) := by
  rw [row, Store.visibleRow_of_open hopen]

/-- What the session sees under an identifier, if anything, is the row of a record with that
identifier. -/
def Files (store : β → Store) (E : EntityType) (s : Scope β σ) (id : String) : Prop :=
  ∀ row, s.row store (E.key id) = .ok (some row) → E.Reads id row

/-- The record that a find-and-modify gives to the save: what the change makes of the record loaded.
-/
def modified? (store : β → Store) (s : Scope β σ) (id : String) (change : Transform σ E) :
    Option (Record E) := do
  let row ← (← (s.row store (E.key id)).toOption)
  let stored ← (Record.ofRow E row).toOption
  (change stored s.world.host).1.toOption

theorem modified?_eq_some {id : String} {change : Transform σ E} {given : Record E} :
    s.modified? store id change = some given ↔ ∃ row stored,
      s.row store (E.key id) = .ok (some row) ∧ Record.ofRow E row = .ok stored ∧
        (change stored s.world.host).1 = .ok given := by
  unfold modified?
  cases hrow : s.row store (E.key id) with
  | error failure => simp [Except.toOption]
  | ok row? =>
    cases row? with
    | none => simp [Except.toOption]
    | some row =>
      cases hreads : Record.ofRow E row with
      | error failure => simp [Except.toOption, hreads]
      | ok stored =>
        cases hchange : (change stored s.world.host).1 <;>
          simp [Except.toOption, hreads, hchange]

/-- What a session sees of a row that may not be overwritten. -/
theorem row_of_frames {may : RowKey → List (Nat × Value) → Prop}
    (hholder : s'.session.holder = s.session.holder)
    (h : (store s.world.backend).Frames s.session.tx may (store s'.world.backend)) {t : Transaction}
    (hopen : (store s.world.backend).transactions.get? s.session.tx = some t) {key : RowKey}
    (hkey : ∀ fields, ¬ may key fields) : s'.row store key = s.row store key := by
  have htx : s'.session.tx = s.session.tx := congrArg Holder.tx hholder
  obtain ⟨t', hopen', -⟩ := h.seen t hopen
  have hseen := h.seen_eq hopen hopen' hkey
  rw [← htx] at hopen'
  rw [row_of_open hopen', row_of_open hopen, hseen]

/-- How a find-and-modify ends. Nothing is committed, no row that the session sees has changed but
that of the record given to the save, and the record given back has the identifier of that one. -/
structure Modifies (store : β → Store) (s : Scope β σ) (id : String) (change : Transform σ E)
    (r : Except Failure (Record E)) (s' : Scope β σ) : Prop where
  holder : s'.session.holder = s.session.holder
  sound : (store s'.world.backend).Sound
  rows : (store s'.world.backend).rows = (store s.world.backend).rows
  seen : ∀ key, (∀ given, s.modified? store id change = some given → key ≠ E.key given.id) →
    s'.row store key = s.row store key
  given : ∀ record, r = .ok record → ∃ given, s.modified? store id change = some given ∧
    (s.Files store E given.id → record.id = given.id)

/-- What fails before anything is written. -/
theorem Modifies.unwritten {id : String} {change : Transform σ E} {failure : Failure}
    {t : Transaction} (hopen : (store s.world.backend).transactions.get? s.session.tx = some t)
    (hsession : s'.session = s.session) (hsound : (store s'.world.backend).Sound)
    (h : (store s.world.backend).Frames s.session.tx (fun _ _ => False) (store s'.world.backend)) :
    s.Modifies store id change (.error failure) s' where
  holder := congrArg Session.holder hsession
  sound := hsound
  rows := h.rows
  seen _ _ := row_of_frames (congrArg Session.holder hsession) h hopen fun _ hfalse => hfalse
  given _ hrecord := by cases hrecord

end Scope

namespace Session

open SessionM

variable {engine : Engine β σ} {store : β → Store} {s : Scope β σ}

/-- The overwrites that a save of the record of an identifier may make. -/
def Rewrites (E : EntityType) (id : String) (key : RowKey) (fields : List (Nat × Value)) : Prop :=
  key = E.key id ∧ ∃ stored proposed : Record E,
    fields = (writtenFields stored proposed).indices.map fun i => (i, proposed.field i)

/-- A save leaves the row of a record with an identifier the row of one with that identifier. -/
theorem steady_rewrites (id : String) (key : RowKey) :
    Store.Steady (Rewrites E id) key fun row? => ∀ row, row? = some row → E.Reads id row := by
  rintro fields old row ⟨-, stored, proposed, rfl⟩ hrow hold
  obtain ⟨record, hrecord, hid⟩ := hold old rfl
  obtain ⟨record', hrecord'⟩ := Record.ofRow_overwrite ⟨record, hrecord⟩ hrow
  rintro row' hrow'
  obtain rfl := Option.some.inj hrow'
  exact ⟨record', hrecord', (Record.id_of_overwrite hrow hrecord hrecord').trans hid⟩

/-- Work that nobody put off is done at once. -/
theorem drain_confined {who : Holder} {Q : Event → Prop} {operations : Operations β σ}
    {queue : DeferredWork σ} (hqueue : DeferredWork.Holds (fun _ => False) queue) :
    Confines engine who Q (drain engine operations queue) fun _ => True := by
  have hnone : queue.actions = [] := List.eq_nil_iff_forall_not_mem.2 hqueue
  rw [drain, hnone]
  exact .pure trivial

section
variable (hkeeps : engine.backend.KeepsRows store)
  (hhandlers : ∀ handler ∈ engine.registry.handlers E, handler.Asks Call.Looks fun _ => False)
include hkeeps hhandlers

/-- A save does nothing to the rows its transaction sees but overwrite fields under the identifier
of the record it was given, and what it gives back has that identifier. -/
theorem save_frames (hsound : (store s.world.backend).Sound) {t : Transaction}
    (hopen : (store s.world.backend).transactions.get? s.session.tx = some t) (given : Record E) :
    Ends (save engine given) s fun r s' => s'.session.holder = s.session.holder ∧
      (store s'.world.backend).Sound ∧
      (store s.world.backend).Frames s.session.tx (Rewrites E given.id) (store s'.world.backend) ∧
      ∀ record, r = .ok record → s.Files store E given.id → record.id = given.id := by
  obtain ⟨hwho, es, hserves, hspares, hgiven⟩ := saveWith_gives
    (Q := fun e => e.call.Spares s.session.tx (Rewrites E given.id))
    (fun _ _ hlooks => hlooks.spares) hhandlers (fun _ _ => trivial)
    (fun _ => drain_confined) (fun _ => trivial)
    (fun stored proposed _ => ⟨rfl, stored, proposed, rfl⟩) s rfl
  obtain ⟨hsound', hframes⟩ := hkeeps.frames hserves hsound hspares
  refine ⟨hwho, hsound', hframes, fun record hrecord hfiles => ?_⟩
  rcases hgiven record hrecord with ⟨rfl, -⟩ | ⟨id, rfl, e, he, row, rfl, hread⟩
  · rfl
  · -- The row was read by a fetch, and what that fetch was shown is filed like what was there.
    have hreads : ∀ row, (store s.world.backend).seen t (E.key given.id) = some row →
        E.Reads given.id row := fun row hrow => hfiles row (by rw [Scope.row_of_open hopen, hrow])
    obtain ⟨record', hread', hid⟩ := hkeeps.fetched hserves hsound hspares hopen
      (steady_rewrites given.id _) hreads he row rfl
    obtain rfl := Except.ok.inj (hread.symm.trans hread')
    exact hid

omit hhandlers in
/-- A load touches nothing, and what it loads is what the session sees. -/
theorem load_frames (hsound : (store s.world.backend).Sound) (id : String) :
    Ends (load engine E id) s fun r s' => s'.session = s.session ∧ s'.world.host = s.world.host ∧
      (store s'.world.backend).Sound ∧
      (∀ may, (store s.world.backend).Frames s.session.tx may (store s'.world.backend)) ∧
      ∀ stored, r = .ok stored → ∃ row, s.row store (E.key id) = .ok (some row) ∧
        Record.ofRow E row = .ok stored := by
  obtain ⟨result, hload, hread⟩ := load_run engine E id s
  unfold Ends
  rw [hload]
  refine ⟨rfl, rfl, hkeeps.sound_call hsound _, fun may => hkeeps.frames_call hsound trivial, ?_⟩
  intro stored hstored
  obtain ⟨row, hrow, hreads⟩ := hread stored hstored
  have hanswer := (hkeeps.call (.fetch s.session.tx (E.key id)) s.world.backend
    fun _ _ hc => by cases hc).1
  exact ⟨row, hanswer.symm.trans hrow, hreads⟩

/-- A find-and-modify leaves alone every row but that of the record given to the save. -/
theorem findAndModify_modifies (hsound : (store s.world.backend).Sound) (id : String)
    (change : Transform σ E) :
    Ends (findAndModify engine id change) s (s.Modifies store id change) := by
  cases hopen : (store s.world.backend).transactions.get? s.session.tx with
  | none =>
    -- A session that was ended before is turned away at the load.
    obtain ⟨⟨failure, hr⟩, hstore, hsession⟩ := findAndModify_closed hkeeps hopen id change
    refine ⟨congrArg Session.holder hsession, hstore ▸ hsound, congrArg Store.rows hstore, ?_, ?_⟩
    · intro key _
      rw [Scope.row, hstore, hsession]
      rfl
    · intro record hrecord
      rw [hr] at hrecord
      cases hrecord
  | some t =>
    rw [findAndModify_eq]
    refine (load_frames hkeeps hsound id).bind ?_ ?_
    · rintro failure s₁ ⟨hsession, -, hsound₁, hframes₁, -⟩
      exact .unwritten hopen hsession hsound₁ (hframes₁ _)
    rintro stored s₁ ⟨hsession, hhost, hsound₁, hframes₁, hstored⟩
    obtain ⟨row, hrow, hreads⟩ := hstored stored rfl
    have happly : Ends (change.apply stored) s₁ fun r s₂ =>
        r = (change stored s.world.host).1 ∧ s₂.session = s₁.session ∧
          s₂.world.backend = s₁.world.backend :=
      ⟨by rw [← hhost]; rfl, rfl, rfl⟩
    refine happly.bind ?_ ?_
    · rintro failure s₂ ⟨-, hsession₂, hbackend₂⟩
      rw [← hbackend₂] at hsound₁ hframes₁
      exact .unwritten hopen (hsession₂.trans hsession) hsound₁ (hframes₁ _)
    rintro given s₂ ⟨hgiven, hsession₂, hbackend₂⟩
    rw [← hbackend₂] at hsound₁ hframes₁
    replace hsession₂ : s₂.session = s.session := hsession₂.trans hsession
    have hmodified : s.modified? store id change = some given :=
      Scope.modified?_eq_some.2 ⟨row, stored, hrow, hreads, hgiven.symm⟩
    have hrow₂ (key : RowKey) : s₂.row store key = s.row store key :=
      Scope.row_of_frames (congrArg Session.holder hsession₂) (hframes₁ fun _ _ => False) hopen
        fun _ h => h
    obtain ⟨t₂, hopen₂, -⟩ := (hframes₁ fun _ _ => False).seen t hopen
    rw [← hsession₂] at hopen₂
    refine (save_frames hkeeps hhandlers hsound₁ hopen₂ given).mono ?_
    rintro r s₃ ⟨hholder₃, hsound₃, hframes₃, hid⟩
    refine ⟨hholder₃.trans (congrArg Session.holder hsession₂), hsound₃,
      hframes₃.rows.trans (hframes₁ fun _ _ => False).rows, fun key hkey => ?_, ?_⟩
    · have hspared (fields : List (Nat × Value)) : ¬ Rewrites E given.id key fields :=
        fun hrewrites => hkey given hmodified hrewrites.1
      rw [Scope.row_of_frames hholder₃ hframes₃ hopen₂ hspared, hrow₂]
    · intro record hrecord
      refine ⟨given, hmodified, fun hfiles => hid record hrecord fun row hrow => ?_⟩
      exact hfiles row ((hrow₂ _).symm.trans hrow)

end

end Session

/-! ## Trying again -/

namespace Engine

variable {engine : Engine β σ} {store : β → Store} {w : World β σ}

/-- What has been committed by attempts at a find-and-modify. If they failed, nothing; if one went
through, no row but that of the record given to its save, and the record given back has the
identifier of that one. -/
structure Attempted (E : EntityType) (id : String) (change : Transform σ E) (s : Store)
    (result : Except Failure (Record E)) (s' : Store) : Prop where
  failed : ∀ failure, result = .error failure → s'.rows = s.rows
  done : ∀ record, result = .ok record → ∃ row stored host given,
    s.committedRow? (E.key id) = some row ∧ Record.ofRow E row = .ok stored ∧
      (change stored host).1 = .ok given ∧
      (∀ key, key ≠ E.key given.id → s'.committedRow? key = s.committedRow? key) ∧
      ((∀ row, s.committedRow? (E.key given.id) = some row → E.Reads given.id row) →
        record.id = given.id)

theorem Attempted.of_error {id : String} {change : Transform σ E} {s s' : Store}
    (failure : Failure) (h : s'.rows = s.rows) :
    Attempted E id change s (.error failure) s' :=
  ⟨fun _ _ => h, fun _ hrecord => by cases hrecord⟩

/-- Attempts after one that failed. -/
theorem Attempted.again {id : String} {change : Transform σ E} {s s' s'' : Store}
    {result : Except Failure (Record E)} (hrows : s'.rows = s.rows)
    (h : Attempted E id change s' result s'') : Attempted E id change s result s'' := by
  have hcommitted : s'.committedRow? = s.committedRow? := by
    funext key
    rw [Store.committedRow?, hrows, Store.committedRow?]
  exact ⟨fun failure hfailure => (h.failed failure hfailure).trans hrows, hcommitted ▸ h.done⟩

variable (hkeeps : engine.backend.KeepsRows store)
include hkeeps

theorem begin_opens (actor : Actor) (options : Options) (w : World β σ) :
    ∃ b, (engine.begin actor options).run w =
        (.ok (Session.start ⟨(store w.backend).nextTx⟩ actor options), { w with backend := b }) ∧
      store b = ((store w.backend).step .begin).2 := by
  obtain ⟨hanswer, hstore⟩ := hkeeps.call .begin w.backend fun _ _ hc => by cases hc
  refine ⟨_, ?_, hstore⟩
  rw [engine.begin_run, hanswer]
  rfl

/-- An attempt that went well is committed, and one that failed is rolled back. -/
theorem endAttempt_attempted {s s' : Scope β σ} {id : String} {change : Transform σ E}
    {result : Except Failure (Record E)} (h : s.Modifies store id change result s')
    (hrow : ∀ key, s.row store key = .ok ((store s.world.backend).committedRow? key)) :
    (store ((engine.endAttempt s'.session result).run s'.world).2.backend).Sound ∧
      Attempted E id change (store s.world.backend)
        ((engine.endAttempt s'.session result).run s'.world).1
        (store ((engine.endAttempt s'.session result).run s'.world).2.backend) := by
  cases result with
  | error failure =>
    obtain ⟨-, hstore⟩ := hkeeps.call (.rollback s'.session.tx) s'.world.backend
      fun _ _ hc => by cases hc
    change (store (engine.backend.call (.rollback s'.session.tx) s'.world.backend).2).Sound ∧
      Attempted E id change (store s.world.backend) (.error failure)
        (store (engine.backend.call (.rollback s'.session.tx) s'.world.backend).2)
    rw [hstore]
    exact ⟨h.sound.step _, .of_error failure ((Store.rows_rollback h.sound _).trans h.rows)⟩
  | ok record =>
    obtain ⟨hanswer, hstore⟩ := hkeeps.call (.commit s'.session.tx) s'.world.backend
      fun _ _ hc => by cases hc
    change (store (engine.backend.call (.commit s'.session.tx) s'.world.backend).2).Sound ∧
      Attempted E id change (store s.world.backend)
        (((engine.backend.call (.commit s'.session.tx) s'.world.backend).1.mapError
          (.persistence Stage.commit.label)).map fun _ => record)
        (store (engine.backend.call (.commit s'.session.tx) s'.world.backend).2)
    rw [hanswer, hstore]
    refine ⟨h.sound.step _, ?_⟩
    rcases Store.commit_cases h.sound s'.session.tx with
      ⟨⟨failure, hfailure⟩, hrows⟩ | ⟨t', hopen', hok, hcommitted⟩
    · rw [hfailure]
      exact .of_error _ (hrows.trans h.rows)
    · rw [hok]
      refine ⟨fun _ hfailure => (by cases hfailure), fun record' hrecord => ?_⟩
      obtain rfl := Except.ok.inj hrecord
      obtain ⟨given, hgiven, hid⟩ := h.given record rfl
      obtain ⟨row, stored, hloaded, hreads, hchange⟩ := Scope.modified?_eq_some.1 hgiven
      refine ⟨row, stored, _, given, ?_, hreads, hchange, fun key hkey => ?_, fun hfiles => ?_⟩
      · exact Except.ok.inj ((hrow _).symm.trans hloaded)
      · -- What is published of the row is what the session saw of it in the end.
        have hsame := h.seen key fun given' hgiven' =>
          Option.some.inj (hgiven.symm.trans hgiven') ▸ hkey
        rw [Scope.row_of_open hopen', hrow key] at hsame
        rw [hcommitted, Except.ok.inj hsame]
      · refine hid fun row hseen => hfiles row ?_
        exact Except.ok.inj ((hrow _).symm.trans hseen)

variable
  (hhandlers : ∀ handler ∈ engine.registry.handlers E, handler.Asks Call.Looks fun _ => False)
include hhandlers

/-- An attempt has a session of its own, which sees at the beginning what is committed. -/
theorem attempt_attempted (hsound : (store w.backend).Sound) (actor : Actor) (options : Options)
    (id : String) (change : Transform σ E) :
    ∃ session w₁, (engine.begin actor options).run w = (.ok session, w₁) ∧
      (store ((engine.attempt session id change).run w₁).2.backend).Sound ∧
      Attempted E id change (store w.backend) ((engine.attempt session id change).run w₁).1
        (store ((engine.attempt session id change).run w₁).2.backend) := by
  obtain ⟨b, hbegin, hb⟩ := begin_opens hkeeps actor options w
  refine ⟨_, _, hbegin, ?_⟩
  let s : Scope β σ := ⟨{ w with backend := b },
    Session.start ⟨(store w.backend).nextTx⟩ actor options⟩
  have hsound₁ : (store s.world.backend).Sound := by
    rw [show s.world.backend = b from rfl, hb]
    exact hsound.step .begin
  obtain ⟨t, hopen, hseen⟩ := (store w.backend).seen_of_begin
  rw [← hb] at hopen hseen
  have hrows : (store b).committedRow? = (store w.backend).committedRow? := by rw [hb]; rfl
  have hended := endAttempt_attempted hkeeps
    (Session.findAndModify_modifies (s := s) hkeeps hhandlers hsound₁ id change) fun key => by
      rw [Scope.row_of_open hopen, hseen, hrows]
  exact ⟨hended.1, hended.2.again (by rw [hb]; rfl)⟩

/-- However often it is tried, a find-and-modify commits at most the row of one record. -/
theorem attempts_attempted (hsound : (store w.backend).Sound) (actor : Actor) (options : Options)
    (id : String) (change : Transform σ E) (number left : Nat) :
    (store (engine.attempts actor options id change number left w).2.backend).Sound ∧
      Attempted E id change (store w.backend)
        (engine.attempts actor options id change number left w).1.result
        (store (engine.attempts actor options id change number left w).2.backend) := by
  induction left generalizing number w with
  | zero =>
    obtain ⟨session, w₁, hbegin, hfirst⟩ :=
      attempt_attempted hkeeps hhandlers hsound actor options id change
    rw [attempts, hbegin]
    dsimp only
    generalize (engine.attempt session id change).run w₁ = out at hfirst ⊢
    obtain ⟨result, w₂⟩ := out
    cases result with
    | ok record => exact hfirst
    | error failure =>
      dsimp only
      split <;> exact hfirst
  | succ left ih =>
    obtain ⟨session, w₁, hbegin, hfirst⟩ :=
      attempt_attempted hkeeps hhandlers hsound actor options id change
    rw [attempts, hbegin]
    dsimp only
    generalize (engine.attempt session id change).run w₁ = out at hfirst ⊢
    obtain ⟨result, w₂⟩ := out
    cases result with
    | ok record => exact hfirst
    | error failure =>
      dsimp only
      split
      · -- Nothing was committed, so it is as if the next attempt were the first one.
        obtain ⟨hsound₂, hrest⟩ := ih hfirst.1 (number + 1)
        exact ⟨hsound₂, hrest.again (hfirst.2.failed failure rfl)⟩
      · exact hfirst

end Engine

/-- **What a find-and-modify leaves alone.** Let the rows of an engine be kept in a store, and let
the handlers write nothing and put off nothing. Of all rows that a session sees, a find-and-modify
changes at most the one of the record that it gives to the save, whatever the change does, and the
record it gives back has the identifier of that one. So with a change that keeps the identifier it
touches the row it was asked for and no other. When it is tried again and again in sessions of its
own, the same holds of the committed rows. -/
theorem spared_by_findAndModify (engine : Engine β σ) (store : β → Store)
    (hkeeps : engine.backend.KeepsRows store)
    (hhandlers : ∀ handler ∈ engine.registry.handlers E, handler.Asks Call.Looks fun _ => False)
    (id : String) (change : Transform σ E) :
    (∀ s : Scope β σ, (store s.world.backend).Sound →
      SessionM.Ends (Session.findAndModify engine id change) s fun r s' =>
        (∀ key, (∀ given, s.modified? store id change = some given → key ≠ E.key given.id) →
          s'.row store key = s.row store key) ∧
        (∀ record, r = .ok record → ∃ given, s.modified? store id change = some given ∧
          (s.Files store E given.id → record.id = given.id)) ∧
        (s.Files store E id →
          (∀ stored host given, (change stored host).1 = .ok given → given.id = stored.id) →
          (∀ key, key ≠ E.key id → s'.row store key = s.row store key) ∧
            ∀ record, r = .ok record → record.id = id)) ∧
    ∀ w : World β σ, (store w.backend).Sound → ∀ actor options,
      Engine.Attempted E id change (store w.backend)
        (engine.saveWithRetry actor options id change w).1.result
        (store (engine.saveWithRetry actor options id change w).2.backend) := by
  refine ⟨fun s hsound => ?_, fun w hsound actor options =>
    (Engine.attempts_attempted hkeeps hhandlers hsound actor options id change _ _).2⟩
  refine (Session.findAndModify_modifies hkeeps hhandlers hsound id change).mono ?_
  intro r s' h
  refine ⟨h.seen, h.given, fun hfiles hkept => ?_⟩
  have hsame {given : Record E} (hgiven : s.modified? store id change = some given) :
      given.id = id := by
    obtain ⟨row, stored, hrow, hreads, hchange⟩ := Scope.modified?_eq_some.1 hgiven
    obtain ⟨stored', hreads', hid⟩ := hfiles row hrow
    obtain rfl := Except.ok.inj (hreads.symm.trans hreads')
    exact (hkept _ _ _ hchange).trans hid
  refine ⟨fun key hkey => h.seen key fun given hgiven => hsame hgiven ▸ hkey, ?_⟩
  intro record hrecord
  obtain ⟨given, hgiven, hid⟩ := h.given record hrecord
  rw [hsame hgiven] at hid
  exact hid hfiles

/-! ## Two customers -/

def customerType : EntityType where
  name := "customer"
  fields := [{ name := "id", role := some .identifier, type := .text },
    { name := "name", type := .text },
    { name := "version", role := some .version, type := .int64 }]

/-- A handler that looks at the second customer whenever something has changed. -/
def lookout : Handler Unit customerType where
  name := "lookout"
  trigger := none
  function cx _ proposed :=
    .call (.fetch cx.tx (customerType.key "c-2")) fun _ => .done (.ok proposed)

def lookoutEngine : Engine Memory Unit :=
  { noteEngine with registry := ⟨[⟨customerType, lookout⟩]⟩ }

/-- Two customers are stored. -/
def customerCalls : List Call :=
  [.begin, .insert ⟨1⟩ (customerType.key "c-1") [.text "c-1", .text "Ann", .integer 1],
    .insert ⟨1⟩ (customerType.key "c-2") [.text "c-2", .text "Bob", .integer 1], .commit ⟨1⟩]

def customerWorld : World Memory Unit := noteOutside.on ⟨Store.empty.run customerCalls, none⟩

/-- A session that has just begun. -/
def customerScope : Scope Memory Unit where
  world := noteOutside.on ⟨Store.empty.run (customerCalls ++ [.begin]), none⟩
  session := .start ⟨2⟩ (.ofId "ann") {}

/-- Gives a customer another name. -/
def rename (name : String) : Transform Unit customerType :=
  fun record host => (record.setField 1 (.text name), host)

/-- Gives a customer another identifier and another name. -/
def reassign (id name : String) : Transform Unit customerType :=
  fun record host => (record.setField 0 (.text id) >>= (·.setField 1 (.text name)), host)

theorem rename_keeps_id {name : String} {stored given : Record customerType} {host : Unit}
    (h : (rename name stored host).1 = .ok given) : given.id = stored.id := by
  have hset : stored.setField 1 (.text name) = .ok given := h
  obtain ⟨f, w, -, -, hfield⟩ := Record.field_of_setField hset
  exact congrArg Record.idText ((hfield 0).trans (if_neg (by decide)))

theorem lookout_looks : ∀ handler ∈ lookoutEngine.registry.handlers customerType,
    handler.Asks Call.Looks fun _ => False := by
  intro handler hhandler
  obtain rfl := List.mem_singleton.1 hhandler
  exact fun _ _ _ => ⟨trivial, fun _ => trivial⟩

theorem customerScope_files : customerScope.Files Memory.store customerType "c-1" := by
  have hrow : customerScope.row Memory.store (customerType.key "c-1") =
      .ok (some [.text "c-1", .text "Ann", .integer 1]) := by decide +kernel
  intro row h
  rw [hrow] at h
  obtain rfl := Option.some.inj (Except.ok.inj h)
  exact ⟨⟨[.text "c-1", .text "Ann", .integer 1], ⟨rfl, rfl, rfl, trivial⟩⟩, rfl, rfl⟩

theorem spared_by_rename :
    (((Session.findAndModify lookoutEngine "c-1" (rename "Eve")).run customerScope).1.map
          (·.toRow) = .ok [.text "c-1", .text "Eve", .integer 2] ∧
      ((Session.findAndModify lookoutEngine "c-1" (rename "Eve")).run customerScope).2.row
          Memory.store (customerType.key "c-2") =
        customerScope.row Memory.store (customerType.key "c-2")) ∧
    Engine.Attempted customerType "c-1" (reassign "c-2" "Eve") customerWorld.backend.store
      (lookoutEngine.saveWithRetry (.ofId "ann") {} "c-1" (reassign "c-2" "Eve")
        customerWorld).1.result
      (lookoutEngine.saveWithRetry (.ofId "ann") {} "c-1" (reassign "c-2" "Eve")
        customerWorld).2.backend.store := by
  obtain ⟨hrename, -⟩ := spared_by_findAndModify lookoutEngine Memory.store
    Backend.memory_keepsRows lookout_looks "c-1" (rename "Eve")
  obtain ⟨-, hreassign⟩ := spared_by_findAndModify lookoutEngine Memory.store
    Backend.memory_keepsRows lookout_looks "c-1" (reassign "c-2" "Eve")
  have hends := hrename customerScope (Store.sound_empty.run _)
  unfold SessionM.Ends at hends
  have hspared := (hends.2.2 customerScope_files fun _ _ _ => rename_keeps_id).1
    (customerType.key "c-2") (by decide)
  have hrenamed : ((Session.findAndModify lookoutEngine "c-1" (rename "Eve")).run
      customerScope).1.map (·.toRow) = .ok [.text "c-1", .text "Eve", .integer 2] := by
    decide +kernel
  exact ⟨⟨hrenamed, hspared⟩, hreassign customerWorld (Store.sound_empty.run _) _ _⟩

/-- A change that assigns another identifier gets through, because nobody compares it with the one
that was loaded: the row of the other customer is overwritten, and the record given back is that of
the other customer. -/
theorem neighbour_overwritten :
    ((Session.findAndModify noteEngine "c-1" (reassign "c-2" "Eve")).run customerScope).1.map
        (·.toRow) = .ok [.text "c-2", .text "Eve", .integer 2] ∧
      ((Session.findAndModify noteEngine "c-1" (reassign "c-2" "Eve")).run customerScope).2.row
          Memory.store (customerType.key "c-2") ≠
        customerScope.row Memory.store (customerType.key "c-2") ∧
      (noteEngine.saveWithRetry (.ofId "ann") {} "c-1" (reassign "c-2" "Eve")
          customerWorld).2.backend.store.committedRow? (customerType.key "c-2") =
        some [.text "c-2", .text "Eve", .integer 2] := by
  decide +kernel

end RecordEngine
