import RecordEngine.Proofs.Session.Confined
/-!
What operations maintain.

`Confines` tells of what kind the calls of an operation are, whatever they are answered. Some things
can only be said with the answers in view: a handler that opens a transaction of its own and ends it
again does not end that of the session, because the store does not give out a number twice.
`Maintains` carries a property of the backend along. A program `Heeds` a rule when every call it
makes obeys it, under all answers that the store can give somebody whose transaction is open; a
backend `Guards` the property when no call that obeys the rule takes it away.

The second half takes create and save apart into what comes before the row is written, the write,
and what comes after it, because failing on either side of the write are two different things.
-/

set_option autoImplicit false

namespace RecordEngine

variable {β σ α γ : Type} {E : EntityType}

/-! ## Programs that keep to a rule -/

/-- An answer the store can give while a transaction is open: no other is opened under its number.
-/
def Call.Apart (own : TxId) : (c : Call) → Except Failure c.Answer → Prop
  | .begin, .ok tx => tx ≠ own
  | _, _ => True

/-- In the session of a transaction, every call the program makes past the session is allowed, and
it creates and saves only records of certain types. -/
def SessionProgram.Heeds (own : TxId) (may : Call → Prop) (types : EntityType → Prop) :
    SessionProgram σ α → Prop
  | .done _ => True
  | .create F _ next => types F ∧ ∀ answer, (next answer).Heeds own may types
  | .save F _ next => types F ∧ ∀ answer, (next answer).Heeds own may types
  | .fetch _ _ next => ∀ answer, (next answer).Heeds own may types
  | .inspect next => ∀ view, view.tx = own → (next view).Heeds own may types
  | .call c next => may c ∧ ∀ answer, c.Apart own answer → (next answer).Heeds own may types
  | .host _ next => ∀ state, (next state).Heeds own may types

/-- In the session of a transaction, every call of a handler's run is allowed, and the work it puts
off is of a kind. -/
def HandlerProgram.Heeds (own : TxId) (may : Call → Prop) (defers : SessionWork σ Unit → Prop) :
    HandlerProgram σ E → Prop
  | .done _ => True
  | .call c next => may c ∧ ∀ answer, c.Apart own answer → (next answer).Heeds own may defers
  | .defer _ action next => defers action ∧ next.Heeds own may defers
  | .host _ next => ∀ state, (next state).Heeds own may defers

/-- The handler keeps to a rule in the sessions of a transaction. -/
def Handler.Heeds (own : TxId) (may : Call → Prop) (defers : SessionWork σ Unit → Prop)
    (handler : Handler σ E) : Prop :=
  ∀ cx before proposed, cx.tx = own → (handler.function cx before proposed).Heeds own may defers

/-- Every handler of the engine keeps to a rule in the sessions of a transaction, and so does the
work it puts off. -/
def Engine.Heeds (engine : Engine β σ) (own : TxId) (may : Call → Prop)
    (types : EntityType → Prop) : Prop :=
  ∀ F, ∀ handler ∈ engine.registry.handlers F,
    handler.Heeds own may fun work => work.run.Heeds own may types

/-- Whoever keeps to a rule keeps to one that allows more. -/
theorem SessionProgram.Heeds.mono {own : TxId} {may may' : Call → Prop} {types : EntityType → Prop}
    {program : SessionProgram σ α} (h : program.Heeds own may types)
    (hmay : ∀ c, may c → may' c) : program.Heeds own may' types := by
  induction program with
  | done result => trivial
  | create F record next ih => exact ⟨h.1, fun answer => ih answer (h.2 answer)⟩
  | save F record next ih => exact ⟨h.1, fun answer => ih answer (h.2 answer)⟩
  | fetch F id next ih => exact fun answer => ih answer (h answer)
  | inspect next ih => exact fun view hview => ih view (h view hview)
  | call c next ih =>
    exact ⟨hmay c h.1, fun answer hanswer => ih answer (h.2 answer hanswer)⟩
  | host change next ih => exact fun state => ih state (h state)

theorem HandlerProgram.Heeds.mono {own : TxId} {may may' : Call → Prop}
    {defers defers' : SessionWork σ Unit → Prop} {program : HandlerProgram σ E}
    (h : program.Heeds own may defers) (hmay : ∀ c, may c → may' c)
    (hdefers : ∀ work, defers work → defers' work) : program.Heeds own may' defers' := by
  induction program with
  | done result => trivial
  | call c next ih =>
    exact ⟨hmay c h.1, fun answer hanswer => ih answer (h.2 answer hanswer)⟩
  | defer label action next ih => exact ⟨hdefers action h.1, ih h.2⟩
  | host change next ih => exact fun state => ih state (h state)

theorem Engine.Heeds.mono {engine : Engine β σ} {own : TxId} {may may' : Call → Prop}
    {types : EntityType → Prop} (h : engine.Heeds own may types) (hmay : ∀ c, may c → may' c) :
    engine.Heeds own may' types :=
  fun F handler hhandler cx before proposed htx =>
    (h F handler hhandler cx before proposed htx).mono hmay fun _ hwork => hwork.mono hmay

/-- No call that obeys the rule takes a property of the backend away, and while the property holds
no other transaction is opened under the number. -/
def Backend.Guards (backend : Backend β) (own : TxId) (may : Call → Prop) (I : β → Prop) : Prop :=
  ∀ c b, may c → I b → I (backend.call c b).2 ∧ c.Apart own (backend.call c b).1

/-- No announcement takes a property of the backend away. -/
def Backend.Overhears (backend : Backend β) (I : β → Prop) : Prop :=
  ∀ notice b, I b → I (backend.announce notice b).2

theorem Backend.Guards.serves {backend : Backend β} {own : TxId} {may : Call → Prop}
    {I : β → Prop} (h : backend.Guards own may I) (hhears : backend.Overhears I) {b b' : β}
    {es : List Event} (hserves : backend.Serves b es b') (hes : ∀ e ∈ es, may e.call)
    (hI : I b) : I b' := by
  induction hserves with
  | nil b => exact hI
  | call c b b' rest hrest ih =>
    obtain ⟨hc, hes⟩ := List.forall_mem_cons.1 hes
    exact ih hes (h c b hc hI).1
  | announce notice b b' events hrest ih => exact ih hes (hhears notice b hI)

/-- The engine with a notifier that takes no notice. An operation that announces nothing is the same
with either. -/
def Engine.mute (engine : Engine β σ) : Engine β σ :=
  { engine with backend := { engine.backend with announce := fun _ b => (.ok (), b) } }

/-- A rule for calls allows those that create, save and fetch make for records of certain types: they
insert what a create makes of a record that has passed the check, and overwrite a row with what a
save makes of one. -/
structure Holder.Permits (who : Holder) (types : EntityType → Prop) (may : Call → Prop) : Prop where
  fetch : ∀ (F : EntityType) id, may (.fetch who.tx (F.key id))
  insert : ∀ F, types F → ∀ id (record : Record F) audit, Creation F id record audit →
    may (.insert who.tx (F.key id) record.toRow)
  update : ∀ F, types F → ∀ id (stored proposed : Record F) audit,
    Revision F id stored proposed audit → may (.update who.tx (F.key id)
      ((Session.writtenFields stored proposed).indices.map fun i => (i, proposed.field i)))
  audit : ∀ record, may (.audit who.tx record)

/-- A create inserts a record under the identifier that the record has. -/
theorem Creation.id_eq {id : String} {record : Record E} {audit : AuditRecord}
    (h : Creation E id record audit) : record.id = id := by
  obtain ⟨converged, now, hid, -, hstamp⟩ := h.stamped
  rw [Session.id_of_stampNew hstamp, hid]

/-- What is granted for all records is permitted. -/
theorem Holder.Grants.permits {who : Holder} {types : EntityType → Prop} {may : Call → Prop}
    (h : who.Grants types fun e => may e.call) : who.Permits types may where
  fetch F id := h.fetch F id (.ok none)
  insert F hF id record audit hcreation := by
    rw [← hcreation.id_eq]
    exact h.insert F hF record (.ok ())
  update F hF id stored proposed audit _ := h.update F hF id stored proposed (.ok ())
  audit record := h.audit record (.ok ())

/-! ## Operations that maintain a property -/

namespace SessionM

variable {engine : Engine β σ} {who : Holder} {may : Call → Prop} {I : β → Prop}

/-- In the session of a holder, an operation keeps a property of the backend, and its result is as
told. -/
def Maintains (who : Holder) (I : β → Prop) (m : SessionM β σ α) (R : α → Prop) : Prop :=
  ∀ s : Scope β σ, s.session.holder = who → I s.world.backend →
    (m.run s).2.session.holder = who ∧ I (m.run s).2.world.backend ∧
      ∀ a, (m.run s).1 = .ok a → R a

theorem Maintains.ends {m : SessionM β σ α} {R : α → Prop} (h : Maintains who I m R)
    {s s' : Scope β σ} (hs : s.session.holder = who) (hI : I s.world.backend)
    {result : Except Failure α} (hrun : m.run s = (result, s')) :
    s'.session.holder = who ∧ I s'.world.backend ∧ ∀ a, result = .ok a → R a := by
  have hends := h s hs hI
  rwa [hrun] at hends

/-- An operation whose calls obey the rule. -/
theorem Maintains.of_confines (hguards : engine.backend.Guards who.tx may I)
    (hhears : engine.backend.Overhears I) {m : SessionM β σ α} {R : α → Prop}
    (h : Confines engine who (fun e => may e.call) m R) : Maintains who I m R := by
  intro s hs hI
  obtain ⟨hwho, es, hserves, hmay, hR⟩ := h s hs
  exact ⟨hwho, hguards.serves hhears hserves hmay hI, hR⟩

/-- An operation that announces nothing. -/
theorem Maintains.quiet (hguards : engine.backend.Guards who.tx may I) {m : SessionM β σ α}
    {R : α → Prop} (h : Confines engine.mute who (fun e => may e.call) m R) :
    Maintains who I m R :=
  have hmute : engine.mute.backend.Guards who.tx may I := hguards
  .of_confines hmute (fun _ _ hI => hI) h

theorem Maintains.mono {m : SessionM β σ α} {R R' : α → Prop} (h : Maintains who I m R)
    (hRR' : ∀ a, R a → R' a) : Maintains who I m R' := by
  intro s hs hI
  obtain ⟨hwho, hI', hR⟩ := h s hs hI
  exact ⟨hwho, hI', fun a ha => hRR' a (hR a ha)⟩

theorem Maintains.bind {m : SessionM β σ α} {f : α → SessionM β σ γ} {R : α → Prop}
    {R' : γ → Prop} (h : Maintains who I m R) (hf : ∀ a, R a → Maintains who I (f a) R') :
    Maintains who I (m >>= f) R' := by
  intro s hs hI
  obtain ⟨hwho, hI', hR⟩ := h s hs hI
  rw [run_bind]
  generalize m.run s = out at hwho hI' hR
  obtain ⟨result, s'⟩ := out
  cases result with
  | error failure => exact ⟨hwho, hI', fun _ ha => by cases ha⟩
  | ok a => exact hf a (hR a rfl) s' hwho hI'

theorem Maintains.read_bind {f : Scope β σ → α} {g : α → SessionM β σ γ} {R : γ → Prop}
    (h : ∀ s : Scope β σ, s.session.holder = who → Maintains who I (g (f s)) R) :
    Maintains who I (SessionM.read f >>= g) R :=
  fun s hs hI => h s hs s hs hI

theorem Maintains.withSpan {m : SessionM β σ α} {R : α → Prop} (h : Maintains who I m R)
    (event : TraceEvent) : Maintains who I (SessionM.withSpan event m) R :=
  fun s hs hI => h { s with world.trace := (s.world.trace.enter event).2 } hs hI

theorem Maintains.adapt {m : SessionM β σ α} {R : α → Prop} (h : Maintains who I m R)
    (f : Failure → Failure) : Maintains who I (m.adapt f) R := by
  intro s hs hI
  obtain ⟨hwho, hI', hR⟩ := h s hs hI
  rw [adapt_run]
  exact ⟨hwho, hI', fun a ha => hR a (mapError_eq_ok.1 ha)⟩

/-- From a backend with a property, an operation in the session of a holder ends with a result and a
backend related as told. -/
def Leaves (who : Holder) (I : β → Prop) (m : SessionM β σ α)
    (J : Except Failure α → β → Prop) : Prop :=
  ∀ s : Scope β σ, s.session.holder = who → I s.world.backend →
    (m.run s).2.session.holder = who ∧ J (m.run s).1 (m.run s).2.world.backend

theorem Leaves.ends {m : SessionM β σ α} {J : Except Failure α → β → Prop} (h : Leaves who I m J)
    {s s' : Scope β σ} (hs : s.session.holder = who) (hI : I s.world.backend)
    {result : Except Failure α} (hrun : m.run s = (result, s')) :
    s'.session.holder = who ∧ J result s'.world.backend := by
  have hends := h s hs hI
  rwa [hrun] at hends

theorem Leaves.maintains {m : SessionM β σ α} {J : Except Failure α → β → Prop} {R : α → Prop}
    (h : Leaves who I m J) (hI : ∀ r b, J r b → I b) (hR : ∀ a b, J (.ok a) b → R a) :
    Maintains who I m R := by
  intro s hs hstart
  obtain ⟨hwho, hJ⟩ := h s hs hstart
  exact ⟨hwho, hI _ _ hJ, fun a ha => hR a _ (ha ▸ hJ)⟩

/-- What maintains the property comes first. -/
theorem Leaves.after {m : SessionM β σ α} {f : α → SessionM β σ γ} {R : α → Prop}
    {J : Except Failure γ → β → Prop} (h : Maintains who I m R)
    (herror : ∀ failure b, I b → J (.error failure) b)
    (hf : ∀ a, R a → Leaves who I (f a) J) : Leaves who I (m >>= f) J := by
  intro s hs hI
  obtain ⟨hwho, hI', hR⟩ := h s hs hI
  rw [run_bind]
  generalize m.run s = out at hwho hI' hR
  obtain ⟨result, s'⟩ := out
  cases result with
  | error failure => exact ⟨hwho, herror failure _ hI'⟩
  | ok a => exact hf a (hR a rfl) s' hwho hI'

theorem Leaves.read_bind {f : Scope β σ → α} {g : α → SessionM β σ γ}
    {J : Except Failure γ → β → Prop}
    (h : ∀ s : Scope β σ, s.session.holder = who → Leaves who I (g (f s)) J) :
    Leaves who I (SessionM.read f >>= g) J :=
  fun s hs hI => h s hs s hs hI

theorem Leaves.withSpan {m : SessionM β σ α} {J : Except Failure α → β → Prop}
    (h : Leaves who I m J) (event : TraceEvent) : Leaves who I (SessionM.withSpan event m) J :=
  fun s hs hI => h { s with world.trace := (s.world.trace.enter event).2 } hs hI

/-- How an operation ends that leads up to one call and keeps a property until then: before the
call, with the call, or without having had to make it. -/
inductive Reaches (engine : Engine β σ) (I : β → Prop) (calls : Call → Prop)
    (idle made : α → Prop) : Except Failure α → β → Prop where
  | short (failure : Failure) (b : β) (hI : I b) :
      Reaches engine I calls idle made (.error failure) b
  | refused (c : Call) (b : β) (failure cause : Failure) (hc : calls c) (hI : I b)
      (hanswer : (engine.backend.call c b).1 = .error cause) :
      Reaches engine I calls idle made (.error failure) (engine.backend.call c b).2
  | made (c : Call) (b : β) (answer : c.Answer) (a : α) (hc : calls c) (hI : I b)
      (hanswer : (engine.backend.call c b).1 = .ok answer) (hmade : made a) :
      Reaches engine I calls idle made (.ok a) (engine.backend.call c b).2
  | idle (a : α) (b : β) (hI : I b) (hidle : idle a) : Reaches engine I calls idle made (.ok a) b

variable {calls : Call → Prop} {idle made : α → Prop}

/-- The call is the last thing that can fail. -/
theorem Leaves.call (stage : Stage) {c : Call} (hc : calls c) {a : α} (ha : made a) :
    Leaves who I (SessionM.call engine stage c >>= fun _ => pure a)
      (Reaches engine I calls idle made) := by
  intro s hs hI
  rw [run_bind, call_run]
  cases hanswer : (engine.backend.call c s.world.backend).1 with
  | error failure => exact ⟨hs, .refused c _ _ failure hc hI hanswer⟩
  | ok answer => exact ⟨hs, .made c _ answer a hc hI hanswer ha⟩

/-- If the call itself keeps the property, it is kept throughout. -/
theorem Reaches.maintained {may : Call → Prop}
    (hguards : engine.backend.Guards who.tx may I) (hcalls : ∀ c, calls c → may c)
    {r : Except Failure α} {b : β} (h : Reaches engine I calls idle made r b) : I b := by
  cases h with
  | short failure b hI => exact hI
  | refused c b failure cause hc hI => exact (hguards c b (hcalls c hc) hI).1
  | made c b answer a hc hI => exact (hguards c b (hcalls c hc) hI).1
  | idle a b hI => exact hI

theorem Reaches.result {a : α} {b : β} (h : Reaches engine I calls idle made (.ok a) b) :
    idle a ∨ made a := by
  cases h with
  | made c b answer a hc hI hanswer hmade => exact .inr hmade
  | idle a b hI hidle => exact .inl hidle

end SessionM

/-! ## Convergence -/

namespace Convergence

open SessionM

variable {engine : Engine β σ} {who : Holder} {may : Call → Prop} {I : β → Prop}
  {defers : SessionWork σ Unit → Prop}

section
variable (hguards : engine.backend.Guards who.tx may I)
include hguards

theorem handler_maintains {program : HandlerProgram σ E}
    (h : program.Heeds who.tx may defers) {queue : DeferredWork σ}
    (hqueue : DeferredWork.Holds defers queue) :
    Maintains who I (program.run engine queue) fun out => DeferredWork.Holds defers out.2 := by
  induction program generalizing queue with
  | done result =>
    refine (Maintains.quiet hguards (Confines.ofExcept _)).mono fun out hout => ?_
    cases result with
    | error failure => cases hout
    | ok record =>
      rw [← Except.ok.inj hout]
      exact hqueue
  | call c next ih =>
    intro s hs hI
    -- The answer is one that the backend gives while the property holds.
    obtain ⟨hI', hapart⟩ := hguards c s.world.backend h.1 hI
    exact ih _ (h.2 _ hapart) hqueue
      { s with world.backend := (engine.backend.call c s.world.backend).2 } hs hI'
  | defer label action next ih => exact ih h.2 (DeferredWork.holds_push hqueue label h.1)
  | host change next ih =>
    intro s hs hI
    exact ih s.world.host (h _) hqueue { s with world.host := change s.world.host } hs hI

theorem invoke_maintains {handler : Handler σ E} (h : handler.Heeds who.tx may defers)
    (id : String) (pass : Nat) (before proposed : Record E) {queue : DeferredWork σ}
    (hqueue : DeferredWork.Holds defers queue) :
    Maintains who I (invoke engine handler id pass before proposed queue) (Keeps defers id) := by
  unfold invoke
  refine (Maintains.quiet hguards (Confines.noteRun _ _ _)).bind fun _ _ => ?_
  refine Maintains.read_bind fun s hs => ?_
  have hheeds := h ⟨s.session.tx, s.session.actor, s.session.options, pass⟩ before proposed
    (congrArg Holder.tx hs)
  refine ((handler_maintains hguards hheeds hqueue).adapt _).bind fun out hout => ?_
  refine (Maintains.quiet hguards (Confines.traceEvent _)).bind fun _ _ => ?_
  refine Maintains.quiet hguards ?_
  by_cases hid : out.1.id ≠ id
  · rw [if_pos hid]
    exact (Confines.throw (R := fun _ => False) _).bind fun _ hfalse => hfalse.elim
  · rw [if_neg hid]
    exact .pure ⟨Classical.not_not.1 hid, hout⟩

theorem dispatch_maintains {handler : Handler σ E} (h : handler.Heeds who.tx may defers)
    {id : String} (pass : Nat) (mask : FieldMask) (before : Record E) {proposed : Record E}
    {queue : DeferredWork σ} (hkeeps : Keeps defers id (proposed, queue)) :
    Maintains who I (dispatch engine handler id pass mask before proposed queue)
      (Keeps defers id) := by
  unfold dispatch
  refine (Maintains.quiet hguards (Confines.consumeSkip _ _ _)).bind fun skipped _ => ?_
  refine (Maintains.quiet hguards (Confines.consumeForce _ _ _)).bind fun forced _ => ?_
  have hpassed : Maintains who I (pure (proposed, queue)) (Keeps defers id) :=
    .quiet hguards (.pure hkeeps)
  split
  · exact hpassed
  · refine Maintains.withSpan ?_ _
    split
    · exact hpassed
    · exact invoke_maintains hguards h id pass before proposed hkeeps.2

theorem dispatchAll_maintains {handlers : List (Handler σ E)}
    (h : ∀ handler ∈ handlers, handler.Heeds who.tx may defers) {id : String} (pass : Nat)
    (mask : FieldMask) (before : Record E) {proposed : Record E} {queue : DeferredWork σ}
    (hkeeps : Keeps defers id (proposed, queue)) :
    Maintains who I (dispatchAll engine id pass mask before handlers proposed queue)
      (Keeps defers id) := by
  induction handlers generalizing proposed queue with
  | nil => exact .quiet hguards (.pure hkeeps)
  | cons handler rest ih =>
    obtain ⟨hfirst, hrest⟩ := List.forall_mem_cons.1 h
    refine (dispatch_maintains hguards hfirst pass mask before hkeeps).bind fun out hout => ?_
    exact ih hrest hout

theorem runFrom_maintains
    (h : ∀ handler ∈ engine.registry.handlers E, handler.Heeds who.tx may defers) {id : String}
    (pass : Nat) (baseline : Record E) {proposed : Record E} {queue : DeferredWork σ}
    (hkeeps : Keeps defers id (proposed, queue)) (forced : Bool) (left : Nat) :
    Maintains who I (runFrom engine id pass baseline proposed queue forced left) fun out =>
      Keeps defers id (out.record, out.queue) := by
  induction left generalizing pass baseline proposed queue forced with
  | zero =>
    simp only [runFrom]
    refine Maintains.quiet hguards ?_
    split
    · exact .pure hkeeps
    · exact .throw _
  | succ left ih =>
    simp only [runFrom]
    split
    · exact .quiet hguards (.pure hkeeps)
    · refine Maintains.bind (Maintains.withSpan
        (dispatchAll_maintains hguards h (pass + 1) _ baseline hkeeps) _) fun out hout => ?_
      exact ih (pass + 1) proposed hout false

/-- Convergence maintains what its handlers do, keeps the identifier and gathers the work they put
off. -/
theorem run_maintains
    (h : ∀ handler ∈ engine.registry.handlers E, handler.Heeds who.tx may defers)
    (baseline proposed : Record E) (forceFirst : Bool) :
    Maintains who I (run engine baseline proposed forceFirst) fun out =>
      Keeps defers proposed.id (out.record, out.queue) :=
  runFrom_maintains hguards h 0 baseline ⟨rfl, DeferredWork.holds_empty⟩ forceFirst _

end

end Convergence

/-! ## Create and save in two halves -/

namespace Session

open SessionM

/-- What a create requires of the record it is given, once it has an identifier. -/
def admitNew (engine : Engine β σ) (record : Record E) : SessionM β σ (Record E) := do
  let record ← withId engine record
  SessionM.ofExcept (E.schema.checkRow record.toRow)
  SessionM.ofExcept (checkNewVersion record)
  return record

/-- What a create does from there up to its write: the record as it was written, and the work put
off. -/
def insertNew (engine : Engine β σ) (record : Record E) :
    SessionM β σ (Record E × DeferredWork σ) := do
  let out ← Convergence.run engine (.default E) record false
  SessionM.ofExcept (E.schema.checkRow out.record.toRow)
  let now ← SessionM.now
  let session ← SessionM.read (·.session)
  let stamped ← SessionM.ofExcept (stampNew out.record now session.actor.effective)
  SessionM.call engine .insert (.insert session.tx ⟨E.name, record.id⟩ stamped.toRow)
  return (stamped, out.queue)

/-- A create up to and including its write. -/
def createHead (engine : Engine β σ) (record : Record E) :
    SessionM β σ (Record E × DeferredWork σ) := do
  let record ← admitNew engine record
  SessionM.withSpan (.modelActivity E.name record.id .create) (insertNew engine record)

/-- What a create does between its write and the work put off. -/
def announceNew (engine : Engine β σ) (id : String) (written : Record E) : SessionM β σ Unit := do
  SessionM.announce engine ⟨E.name, id, written.version?⟩
  recordAudit engine .create E id
    (ChangeSet.ofMask (FieldMask.diff (.default E) written) none written)

theorem createWith_eq (engine : Engine β σ) (drain : DeferredWork σ → SessionM β σ Unit)
    (record : Record E) :
    createWith engine drain record = (do
      let record ← admitNew engine record
      SessionM.withSpan (.modelActivity E.name record.id .create) do
        let written ← insertNew engine record
        announceNew engine record.id written.1
        drain written.2
        load engine E record.id) := by
  simp only [createWith, admitNew, insertNew, announceNew, bind_assoc, pure_bind]

/-- What a save requires of the record it is given and of the one that is stored. -/
def admitChange (engine : Engine β σ) (record : Record E) : SessionM β σ (Record E) := do
  SessionM.ofExcept (E.schema.checkRow record.toRow)
  if record.id.isEmpty then throw (missingId E)
  let stored ← load engine E record.id
  SessionM.ofExcept (checkVersion record stored record.id)
  return stored

/-- The write of a save, with the record that is written. -/
def updateRow (engine : Engine β σ) (id : String) (stored proposed : Record E) :
    SessionM β σ (Record E) := do
  let now ← SessionM.now
  let session ← SessionM.read (·.session)
  let stamped ← SessionM.ofExcept
    (stampChanged proposed (stored.version?.map (· + 1)) now session.actor.effective)
  SessionM.call engine .update <| .update session.tx ⟨E.name, id⟩ <|
    (writtenFields stored stamped).indices.map fun index => (index, stamped.field index)
  return stamped

/-- What a save does from there up to its write, or up to the decision that there is nothing to
write. -/
def updateChanged (engine : Engine β σ) (record stored : Record E) :
    SessionM β σ (Option (Record E) × DeferredWork σ) := do
  let session ← SessionM.read (·.session)
  let out ← Convergence.run engine stored record
    (Convergence.forcePending engine E session record.id)
  SessionM.ofExcept (E.schema.checkRow out.record.toRow)
  if (changedFields stored out.record).isEmpty then return (none, out.queue)
  let stamped ← updateRow engine record.id stored out.record
  return (some stamped, out.queue)

/-- A save up to and including its write, or up to the decision that there is nothing to write. -/
def saveHead (engine : Engine β σ) (record : Record E) :
    SessionM β σ (Option (Record E) × DeferredWork σ) := do
  let stored ← admitChange engine record
  SessionM.withSpan (.modelActivity E.name record.id .update) (updateChanged engine record stored)

/-- What a save does between its write, if there was one, and the work put off. -/
def announceChange (engine : Engine β σ) (id : String) (stored : Record E) :
    Option (Record E) → SessionM β σ Unit
  | none => return ()
  | some written => do
    SessionM.announce engine ⟨E.name, id, stored.version?.map (· + 1)⟩
    recordAudit engine .update E id
      (ChangeSet.ofMask (writtenFields stored written) (some stored) written)

/-- What is left for a save to do after that. -/
def closeSave (engine : Engine β σ) (drain : DeferredWork σ → SessionM β σ Unit)
    (record : Record E) (written : Option (Record E)) (queue : DeferredWork σ) :
    SessionM β σ (Record E) :=
  if written.isNone && queue.isEmpty then return record
  else do
    drain queue
    load engine E record.id

theorem saveWith_eq_head (engine : Engine β σ) (drain : DeferredWork σ → SessionM β σ Unit)
    (record : Record E) :
    saveWith engine drain record = (do
      let stored ← admitChange engine record
      SessionM.withSpan (.modelActivity E.name record.id .update) do
        let written ← updateChanged engine record stored
        announceChange engine record.id stored written.1
        closeSave engine drain record written.1 written.2) := by
  have hthrow {γ δ : Type} (f : γ → SessionM β σ δ) :
      (throw (missingId E) >>= f) = (throw (missingId E) : SessionM β σ δ) := rfl
  unfold saveWith admitChange updateChanged
  simp only [bind_assoc]
  refine congrArg _ (funext fun _ => ?_)
  by_cases hid : record.id.isEmpty
  · simp only [hid, if_true, hthrow]
  simp only [hid, if_false, Bool.false_eq_true, bind_assoc, pure_bind]
  refine congrArg _ (funext fun stored => congrArg _ (funext fun _ => congrArg _ ?_))
  refine congrArg _ (funext fun session => congrArg _ (funext fun out => ?_))
  refine congrArg _ (funext fun _ => ?_)
  -- Either there is something to write, or nothing, and then perhaps nothing is left to do.
  by_cases hchanged : (changedFields stored out.record).isEmpty
  · simp only [hchanged, if_true, pure_bind, announceChange, closeSave, Option.isNone_none,
      Bool.true_and]
  · simp only [hchanged, if_false, Bool.false_eq_true, bind_assoc, pure_bind, writeChanges,
      updateRow, announceChange, closeSave, Option.isNone_some, Bool.false_and]

/-! ### The halves -/

variable {engine : Engine β σ} {who : Holder} {may : Call → Prop} {I : β → Prop}
  {defers : SessionWork σ Unit → Prop} {types : EntityType → Prop}

/-- The writes of a create under an identifier. -/
def Inserts (who : Holder) (E : EntityType) (id : String) (c : Call) : Prop :=
  ∃ (record : Record E) (audit : AuditRecord), Creation E id record audit ∧
    c = .insert who.tx (E.key id) record.toRow

/-- The writes of a save under an identifier. -/
def Updates (who : Holder) (E : EntityType) (id : String) (c : Call) : Prop :=
  ∃ (stored proposed : Record E) (audit : AuditRecord), Revision E id stored proposed audit ∧
    c = .update who.tx (E.key id)
      ((writtenFields stored proposed).indices.map fun i => (i, proposed.field i))

section
variable (hguards : engine.backend.Guards who.tx may I)
include hguards

theorem admitNew_maintains (record : Record E) :
    Maintains who I (admitNew engine record) fun _ => True := by
  refine Maintains.quiet hguards ((withId_confined record).bind fun record _ => ?_)
  refine (Confines.ofExcept _).bind fun _ _ => (Confines.ofExcept _).bind fun _ _ => ?_
  exact .pure trivial

section
variable (hheeds : ∀ handler ∈ engine.registry.handlers E, handler.Heeds who.tx may defers)
include hheeds

/-- Up to its write a create maintains what its handlers do. -/
theorem insertNew_leaves (record : Record E) :
    Leaves who I (insertNew engine record) (Reaches engine I (Inserts who E record.id)
      (fun _ => False) fun written => DeferredWork.Holds defers written.2) := by
  have hshort (failure : Failure) (b : β) (hI : I b) :
      Reaches engine I (Inserts who E record.id) (fun _ => False)
        (fun written : Record E × DeferredWork σ => DeferredWork.Holds defers written.2)
        (.error failure) b := .short failure b hI
  unfold insertNew
  refine .after (Convergence.run_maintains hguards hheeds _ _ _) hshort fun out hkeeps => ?_
  obtain ⟨hid, hqueue⟩ := hkeeps
  refine .after (.quiet hguards (Confines.ofExcept _)) hshort fun _ hcheck => ?_
  refine .after (.quiet hguards Confines.now) hshort fun now _ => ?_
  refine .read_bind fun s hs => ?_
  subst hs
  refine .after (.quiet hguards (Confines.ofExcept _)) hshort fun stamped hstamped => ?_
  have hcreation : Creation E record.id stamped ⟨s.session.actor.id, s.session.actor.effective,
      .create, E.name, record.id, .ofMask (FieldMask.diff (.default E) stamped) none stamped⟩ :=
    ⟨⟨out.record, now, hid, hcheck, hstamped⟩, rfl, rfl, rfl, rfl⟩
  exact .call .insert ⟨stamped, _, hcreation, rfl⟩ hqueue

/-- Up to its write a save maintains what its handlers do. -/
theorem updateChanged_leaves {record stored : Record E}
    (hversion : checkVersion record stored record.id = .ok ()) :
    Leaves who I (updateChanged engine record stored) (Reaches engine I (Updates who E record.id)
      (fun written => written.1 = none ∧ DeferredWork.Holds defers written.2)
      fun written => written.1 ≠ none ∧ DeferredWork.Holds defers written.2) := by
  have hshort (failure : Failure) (b : β) (hI : I b) :
      Reaches engine I (Updates who E record.id)
        (fun written : Option (Record E) × DeferredWork σ =>
          written.1 = none ∧ DeferredWork.Holds defers written.2)
        (fun written => written.1 ≠ none ∧ DeferredWork.Holds defers written.2)
        (.error failure) b := .short failure b hI
  unfold updateChanged
  refine .read_bind fun s hs => ?_
  refine .after (Convergence.run_maintains hguards hheeds _ _ _) hshort fun out hkeeps => ?_
  refine .after (.quiet hguards (Confines.ofExcept _)) hshort fun _ hcheck => ?_
  by_cases hchanged : (changedFields stored out.record).isEmpty
  · rw [if_pos hchanged]
    exact fun s hs hI => ⟨hs, .idle _ _ hI ⟨rfl, hkeeps.2⟩⟩
  rw [if_neg hchanged, updateRow, bind_assoc]
  refine .after (.quiet hguards Confines.now) hshort fun now _ => ?_
  simp only [bind_assoc, pure_bind]
  refine .read_bind fun s hs => ?_
  subst hs
  refine .after (.quiet hguards (Confines.ofExcept _)) hshort fun stamped hstamped => ?_
  have hrevision : Revision E record.id stored stamped ⟨s.session.actor.id,
      s.session.actor.effective, .update, E.name, record.id,
      .ofMask (writtenFields stored stamped) (some stored) stamped⟩ :=
    ⟨⟨record, out.record, now, rfl, hkeeps.1, hversion, hcheck, Bool.eq_false_iff.2 hchanged,
      hstamped⟩, rfl, rfl, rfl, rfl⟩
  exact .call .update ⟨stored, stamped, _, hrevision, rfl⟩
    ⟨Option.some_ne_none stamped, hkeeps.2⟩

end

section
variable (hfetch : ∀ (F : EntityType) id, may (.fetch who.tx (F.key id)))
include hfetch

theorem fetch_maintains (E : EntityType) (id : String) :
    Maintains who I (fetch engine E id) fun _ => True :=
  .quiet hguards (fetch_confined fun _ => hfetch E id)

theorem load_maintains (E : EntityType) (id : String) :
    Maintains who I (load engine E id) fun _ => True :=
  .quiet hguards (load_confined fun _ => hfetch E id)

theorem admitChange_maintains (record : Record E) :
    Maintains who I (admitChange engine record) fun stored =>
      checkVersion record stored record.id = .ok () := by
  unfold admitChange
  refine (Maintains.quiet hguards (Confines.ofExcept _)).bind fun _ _ => ?_
  by_cases hid : record.id.isEmpty
  · simp only [hid, if_true]
    exact (Maintains.quiet hguards (Confines.throw (R := fun _ => False) _)).bind
      fun _ hfalse => hfalse.elim
  · simp only [hid, if_false, Bool.false_eq_true]
    refine (load_maintains hguards hfetch E record.id).bind fun stored _ => ?_
    refine (Maintains.quiet hguards (Confines.ofExcept _)).bind fun _ hversion => ?_
    exact .quiet hguards (.pure hversion)

end

section
variable (hpermits : who.Permits types may)
include hpermits

section
variable (hhears : engine.backend.Overhears I)
include hhears

theorem announceNew_maintains (id : String) (written : Record E) :
    Maintains who I (announceNew engine id written) fun _ => True :=
  .of_confines hguards hhears <| (Confines.announce _).bind fun _ _ =>
    recordAudit_confined (fun record _ => hpermits.audit record) _ _ _

theorem announceChange_maintains (id : String) (stored : Record E) (written : Option (Record E)) :
    Maintains who I (announceChange engine id stored written) fun _ => True := by
  cases written with
  | none => exact .quiet hguards (.pure trivial)
  | some written =>
    exact .of_confines hguards hhears <| (Confines.announce _).bind fun _ _ =>
      recordAudit_confined (fun record _ => hpermits.audit record) _ _ _

end

variable {drain : DeferredWork σ → SessionM β σ Unit}
  (hdrain : ∀ queue, DeferredWork.Holds defers queue →
    Maintains who I (drain queue) fun _ => True)
include hdrain

theorem closeSave_maintains (record : Record E) (written : Option (Record E))
    {queue : DeferredWork σ} (hqueue : DeferredWork.Holds defers queue) :
    Maintains who I (closeSave engine drain record written queue) fun _ => True := by
  unfold closeSave
  split
  · exact .quiet hguards (.pure trivial)
  · exact (hdrain queue hqueue).bind fun _ _ => load_maintains hguards hpermits.fetch E _

variable (hhears : engine.backend.Overhears I) (hE : types E)
  (hheeds : ∀ handler ∈ engine.registry.handlers E, handler.Heeds who.tx may defers)
include hhears hE hheeds

theorem createWith_maintains (record : Record E) :
    Maintains who I (createWith engine drain record) fun _ => True := by
  rw [createWith_eq]
  refine (admitNew_maintains hguards record).bind fun record _ => Maintains.withSpan ?_ _
  have hinsert : Maintains who I (insertNew engine record) fun written =>
      DeferredWork.Holds defers written.2 := by
    refine (insertNew_leaves hguards hheeds record).maintains (fun r b hreaches => ?_)
      fun written b hreaches => hreaches.result.resolve_left id
    refine hreaches.maintained hguards ?_
    rintro c ⟨stamped, audit, hcreation, rfl⟩
    exact hpermits.insert E hE _ stamped audit hcreation
  refine hinsert.bind fun written hqueue => ?_
  refine (announceNew_maintains hguards hpermits hhears _ _).bind fun _ _ => ?_
  exact (hdrain _ hqueue).bind fun _ _ => load_maintains hguards hpermits.fetch E _

/-- What a save does once it was admitted. -/
theorem settleSave_maintains {record stored : Record E}
    (hversion : checkVersion record stored record.id = .ok ()) :
    Maintains who I (SessionM.withSpan (.modelActivity E.name record.id .update) do
      let written ← updateChanged engine record stored
      announceChange engine record.id stored written.1
      closeSave engine drain record written.1 written.2) fun _ => True := by
  refine Maintains.withSpan ?_ _
  have hupdate : Maintains who I (updateChanged engine record stored) fun written =>
      DeferredWork.Holds defers written.2 := by
    refine (updateChanged_leaves hguards hheeds hversion).maintains (fun r b hreaches => ?_)
      fun written b hreaches => hreaches.result.elim And.right And.right
    refine hreaches.maintained hguards ?_
    rintro c ⟨before, proposed, audit, hrevision, rfl⟩
    exact hpermits.update E hE record.id before proposed audit hrevision
  refine hupdate.bind fun written hqueue => ?_
  refine (announceChange_maintains hguards hpermits hhears _ _ _).bind fun _ _ => ?_
  exact closeSave_maintains hguards hpermits hdrain record written.1 hqueue

theorem saveWith_maintains (record : Record E) :
    Maintains who I (saveWith engine drain record) fun _ => True := by
  rw [saveWith_eq_head]
  exact (admitChange_maintains hguards hpermits.fetch record).bind fun stored hversion =>
    settleSave_maintains hguards hpermits hdrain hhears hE hheeds hversion

end

end

/-! ### Programs and nested work -/

/-- Create and save maintain a property, for records of certain types. -/
def Operations.Maintain (who : Holder) (I : β → Prop) (types : EntityType → Prop)
    (operations : Operations β σ) : Prop :=
  ∀ F, types F → ∀ record : Record F,
    Maintains who I (operations.create F record) (fun _ => True) ∧
      Maintains who I (operations.save F record) fun _ => True

section
variable (hguards : engine.backend.Guards who.tx may I)
  (hpermits : who.Permits types may)
include hguards hpermits

theorem runProgram_maintains {operations : Operations β σ}
    (hoperations : Operations.Maintain who I types operations) {program : SessionProgram σ α}
    (h : program.Heeds who.tx may types) (s : Scope β σ) (hs : s.session.holder = who)
    (hI : I s.world.backend) :
    (runProgram engine operations program s).2.session.holder = who ∧
      I (runProgram engine operations program s).2.world.backend := by
  induction program generalizing s with
  | done result => exact ⟨hs, hI⟩
  | create F record next ih =>
    obtain ⟨hs', hI', -⟩ := (hoperations F h.1 record).1 s hs hI
    exact ih _ (h.2 _) _ hs' hI'
  | save F record next ih =>
    obtain ⟨hs', hI', -⟩ := (hoperations F h.1 record).2 s hs hI
    exact ih _ (h.2 _) _ hs' hI'
  | fetch F id next ih =>
    obtain ⟨hs', hI', -⟩ := fetch_maintains hguards hpermits.fetch F id s hs hI
    exact ih _ (h _) _ hs' hI'
  | inspect next ih => exact ih _ (h _ (congrArg Holder.tx hs)) s hs hI
  | call c next ih =>
    obtain ⟨hI', hapart⟩ := hguards c s.world.backend h.1 hI
    exact ih _ (h.2 _ hapart) { s with
      world.backend := (engine.backend.call c s.world.backend).2 } hs hI'
  | host change next ih =>
    exact ih s.world.host (h _) { s with world.host := change s.world.host } hs hI

theorem runWork_maintains {operations : Operations β σ}
    (hoperations : Operations.Maintain who I types operations) {work : SessionWork σ α}
    (h : work.run.Heeds who.tx may types) :
    Maintains who I (runWork engine operations work) fun _ => True := by
  intro s hs hI
  obtain ⟨hs', hI'⟩ := runProgram_maintains hguards hpermits hoperations h s hs hI
  exact ⟨hs', hI', fun _ _ => trivial⟩

theorem drainAll_maintains {operations : Operations β σ}
    (hoperations : Operations.Maintain who I types operations)
    {actions : List (String × SessionWork σ Unit)}
    (h : ∀ action ∈ actions, action.2.run.Heeds who.tx may types) :
    Maintains who I (drainAll engine operations actions) fun _ => True := by
  induction actions with
  | nil => exact .quiet hguards (.pure trivial)
  | cons action rest ih =>
    obtain ⟨hfirst, hrest⟩ := List.forall_mem_cons.1 h
    exact (runWork_maintains hguards hpermits hoperations hfirst).bind fun _ _ => ih hrest

/-- Create and save maintain what the handlers and the deferred work do, however deep the work
nests. -/
theorem operationsAt_maintains (hhears : engine.backend.Overhears I)
    (hengine : engine.Heeds who.tx may types) (level : Nat) :
    Operations.Maintain who I types (operationsAt engine level) := by
  induction level with
  | zero =>
    intro F hF record
    exact ⟨.quiet hguards (.throw _), .quiet hguards (.throw _)⟩
  | succ level ih =>
    intro F hF record
    have hdrain (queue : DeferredWork σ)
        (hqueue : DeferredWork.Holds (fun work => work.run.Heeds who.tx may types) queue) :
        Maintains who I (drain engine (operationsAt engine level) queue) fun _ => True :=
      drainAll_maintains hguards hpermits ih hqueue
    exact ⟨createWith_maintains hguards hpermits hdrain hhears hF (hengine F) record,
      saveWith_maintains hguards hpermits hdrain hhears hF (hengine F) record⟩

end

end Session

end RecordEngine
