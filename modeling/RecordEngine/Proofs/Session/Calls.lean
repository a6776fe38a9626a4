import RecordEngine.Proofs.Audit.Protocol
/-!
The calls an operation makes.

Whatever stands behind an engine, an operation of a session makes a list of calls and is given their
answers. `Issues` is the assertion that these calls and the result of the operation are related in
some way, for every backend and every state; `Browses` says that they are all reads, and `Leads`
that they obey the protocol of audited writes and leave nothing owing. Each comes with one rule for
each thing an operation is put together from, so that an operation is checked along its text.
-/

set_option autoImplicit false

namespace RecordEngine

variable {β σ α γ : Type}

/-- The calls a backend is given between two states, with its answers; announcements are no calls.
-/
inductive Backend.Serves (backend : Backend β) : β → List Event → β → Prop where
  | nil (b : β) : Serves backend b [] b
  | call (c : Call) (b b' : β) (rest : List Event)
      (hrest : Serves backend (backend.call c b).2 rest b') :
      Serves backend b (⟨c, (backend.call c b).1⟩ :: rest) b'
  | announce (notice : Notice) (b b' : β) (events : List Event)
      (hrest : Serves backend (backend.announce notice b).2 events b') :
      Serves backend b events b'

theorem Backend.Serves.append {backend : Backend β} {b b' b'' : β} {es es' : List Event}
    (h : backend.Serves b es b') (h' : backend.Serves b' es' b'') :
    backend.Serves b (es ++ es') b'' := by
  induction h with
  | nil => exact h'
  | call c b b₁ rest hrest ih => exact .call c b b'' _ (ih h')
  | announce notice b b₁ events hrest ih => exact .announce notice b b'' _ (ih h')

/-- Whose a session is: it stays the same as long as the session lives. -/
structure Holder where
  tx : TxId
  actor : Actor

def Session.holder (session : Session) : Holder := ⟨session.tx, session.actor⟩

/-- The announcements of an engine reach a notifier that never fails. -/
def Engine.Announces (engine : Engine β σ) : Prop :=
  ∀ notice b, (engine.backend.announce notice b).1 = .ok ()

/-- A session is begun by one call, and starts with the transaction it is answered. -/
theorem Engine.begin_run (engine : Engine β σ) (actor : Actor) (options : Options)
    (w : World β σ) :
    (engine.begin actor options).run w =
      (((engine.backend.call .begin w.backend).1.mapError (.persistence Stage.begin.label)).map
          (Session.start · actor options),
        { w with backend := (engine.backend.call .begin w.backend).2 }) := by
  have hcall : (WorldM.call engine .begin .begin).run w =
      ((engine.backend.call .begin w.backend).1.mapError (.persistence Stage.begin.label),
        { w with backend := (engine.backend.call .begin w.backend).2 }) := rfl
  simp only [ExceptT.run] at hcall
  simp only [Engine.begin, ExceptT.run, bind, ExceptT.bind, ExceptT.mk, StateT.bind, hcall]
  cases (engine.backend.call .begin w.backend).1 <;> rfl

namespace SessionM

variable {engine : Engine β σ} {who : Holder}

/-- In the session of a holder, an operation makes calls that are related to its result. -/
def Issues (engine : Engine β σ) (who : Holder) (m : SessionM β σ α)
    (P : List Event → Except Failure α → Prop) : Prop :=
  ∀ s : Scope β σ, s.session.holder = who → (m.run s).2.session.holder = who ∧
    ∃ es, engine.backend.Serves s.world.backend es (m.run s).2.world.backend ∧ P es (m.run s).1

theorem Issues.mono {m : SessionM β σ α} {P Q : List Event → Except Failure α → Prop}
    (h : Issues engine who m P) (hPQ : ∀ es r, P es r → Q es r) : Issues engine who m Q := by
  intro s hs
  obtain ⟨hwho, es, hserves, hP⟩ := h s hs
  exact ⟨hwho, es, hserves, hPQ es _ hP⟩

theorem run_bind (m : SessionM β σ α) (f : α → SessionM β σ γ) (s : Scope β σ) :
    (m >>= f).run s = match m.run s with
      | (.ok a, s') => (f a).run s'
      | (.error failure, s') => (.error failure, s') := by
  simp only [ExceptT.run, bind, ExceptT.bind, ExceptT.mk, StateT.bind, ExceptT.bindCont]
  cases m s with
  | mk result s' => cases result <;> rfl

theorem ofExcept_run (result : Except Failure α) (s : Scope β σ) :
    (SessionM.ofExcept result).run s = (result, s) := rfl

theorem read_run (f : Scope β σ → α) (s : Scope β σ) :
    (SessionM.read f).run s = (.ok (f s), s) := rfl

theorem call_run (engine : Engine β σ) (stage : Stage) (c : Call) (s : Scope β σ) :
    (SessionM.call engine stage c).run s =
      ((engine.backend.call c s.world.backend).1.mapError (.persistence stage.label),
        { s with world.backend := (engine.backend.call c s.world.backend).2 }) := rfl

/-- Failures are rewritten, states are not. -/
theorem adapt_run (m : SessionM β σ α) (f : Failure → Failure) (s : Scope β σ) :
    (m.adapt f).run s = ((m.run s).1.mapError f, (m.run s).2) := rfl

/-- One operation after another makes the calls of both. -/
theorem Issues.bind {m : SessionM β σ α} {f : α → SessionM β σ γ}
    {P : List Event → Except Failure α → Prop} {Q : List Event → Except Failure γ → Prop}
    (h : Issues engine who m P)
    (herror : ∀ es failure, P es (.error failure) → Q es (.error failure))
    (hok : ∀ es a, P es (.ok a) → Issues engine who (f a) fun es' r => Q (es ++ es') r) :
    Issues engine who (m >>= f) Q := by
  intro s hs
  obtain ⟨hwho, es, hserves, hP⟩ := h s hs
  rw [run_bind]
  generalize m.run s = out at hwho hserves hP
  obtain ⟨result, s'⟩ := out
  cases result with
  | error failure => exact ⟨hwho, es, hserves, herror es failure hP⟩
  | ok a =>
    obtain ⟨hwho', es', hserves', hQ⟩ := hok es a hP s' hwho
    exact ⟨hwho', es ++ es', hserves.append hserves', hQ⟩

/-- What an operation reads off its scope it reads in the session of its holder. -/
theorem Issues.read_bind {f : Scope β σ → α} {g : α → SessionM β σ γ}
    {Q : List Event → Except Failure γ → Prop}
    (h : ∀ s : Scope β σ, s.session.holder = who → Issues engine who (g (f s)) Q) :
    Issues engine who (SessionM.read f >>= g) Q :=
  fun s hs => h s hs s hs

/-- A span is no call. -/
theorem Issues.withSpan {m : SessionM β σ α} {P : List Event → Except Failure α → Prop}
    (h : Issues engine who m P) (event : TraceEvent) : Issues engine who (withSpan event m) P := by
  intro s hs
  exact h { s with world := { s.world with trace := (s.world.trace.enter event).2 } } hs

/-- A result that is there makes no call. -/
theorem Issues.ofExcept (result : Except Failure α) :
    Issues engine who (SessionM.ofExcept result) fun es r => es = [] ∧ r = result :=
  fun _ hs => ⟨hs, [], .nil _, rfl, rfl⟩

/-- A call is answered by the backend. -/
theorem Issues.call (stage : Stage) (c : Call) :
    Issues engine who (SessionM.call engine stage c) fun es r =>
      ∃ answer, es = [⟨c, answer⟩] ∧ r = answer.mapError (.persistence stage.label) := by
  intro s hs
  exact ⟨hs, [_], .call c _ _ [] (.nil _), _, rfl, rfl⟩

/-- An announcement is no call. -/
theorem Issues.announce (notice : Notice) :
    Issues engine who (SessionM.announce engine notice) fun es _ => es = [] :=
  fun _ hs => ⟨hs, [], .announce notice _ _ [] (.nil _), rfl⟩

/-! ### Calls of a kind -/

/-- In the session of a holder, every call of an operation is of a kind, and its result is as
told. -/
def Confines (engine : Engine β σ) (who : Holder) (Q : Event → Prop) (m : SessionM β σ α)
    (R : α → Prop) : Prop :=
  Issues engine who m fun es r => (∀ e ∈ es, Q e) ∧ ∀ a, r = .ok a → R a

section
variable {Q : Event → Prop}

theorem Confines.mono {m : SessionM β σ α} {R R' : α → Prop} (h : Confines engine who Q m R)
    (hRR' : ∀ a, R a → R' a) : Confines engine who Q m R' :=
  Issues.mono h fun _ _ hP => ⟨hP.1, fun a ha => hRR' a (hP.2 a ha)⟩

/-- An operation that leaves the backend alone. -/
theorem Confines.silent {m : SessionM β σ α} {R : α → Prop}
    (h : ∀ s, (m.run s).2.session.holder = s.session.holder ∧
      (m.run s).2.world.backend = s.world.backend ∧ ∀ a, (m.run s).1 = .ok a → R a) :
    Confines engine who Q m R := by
  intro s hs
  obtain ⟨hwho, hbackend, hR⟩ := h s
  refine ⟨hwho.trans hs, [], ?_, List.forall_mem_nil _, hR⟩
  rw [hbackend]
  exact .nil _

theorem Confines.pure {R : α → Prop} {a : α} (h : R a) :
    Confines engine who Q (Pure.pure a : SessionM β σ α) R :=
  .silent fun _ => ⟨rfl, rfl, fun _ ha => Except.ok.inj ha ▸ h⟩

theorem Confines.throw {R : α → Prop} (failure : Failure) :
    Confines engine who Q (MonadExcept.throw failure : SessionM β σ α) R :=
  .silent fun _ => ⟨rfl, rfl, fun _ ha => by cases ha⟩

theorem Confines.ofExcept (result : Except Failure α) :
    Confines engine who Q (SessionM.ofExcept result) fun a => result = .ok a :=
  .silent fun _ => ⟨rfl, rfl, fun _ ha => ha⟩

theorem Confines.read (f : Scope β σ → α) :
    Confines engine who Q (SessionM.read f) fun _ => True :=
  .silent fun _ => ⟨rfl, rfl, fun _ _ => trivial⟩

theorem Confines.now : Confines engine who Q (SessionM.now (σ := σ)) fun _ => True :=
  .silent fun _ => ⟨rfl, rfl, fun _ _ => trivial⟩

theorem Confines.newId : Confines engine who Q (SessionM.newId (σ := σ)) fun _ => True :=
  .silent fun _ => ⟨rfl, rfl, fun _ _ => trivial⟩

theorem Confines.traceEvent (event : TraceEvent) :
    Confines engine who Q (SessionM.traceEvent event) fun _ => True :=
  .silent fun _ => ⟨rfl, rfl, fun _ _ => trivial⟩

theorem Confines.consumeSkip (entity handler id : String) :
    Confines engine who Q (SessionM.consumeSkip entity handler id) fun _ => True :=
  .silent fun _ => ⟨rfl, rfl, fun _ _ => trivial⟩

theorem Confines.consumeForce (entity handler id : String) :
    Confines engine who Q (SessionM.consumeForce entity handler id) fun _ => True := by
  refine .silent fun s => ?_
  -- The operation forks on the history of handlers; neither way calls the backend.
  change (ite _ _ _ : Except Failure Bool × Scope β σ).2.session.holder = _ ∧
    (ite _ _ _ : Except Failure Bool × Scope β σ).2.world.backend = _ ∧ _
  split <;> exact ⟨rfl, rfl, fun _ _ => trivial⟩

theorem Confines.noteRun (entity handler id : String) :
    Confines engine who Q (SessionM.noteRun entity handler id) fun _ => True :=
  .silent fun _ => ⟨rfl, rfl, fun _ _ => trivial⟩

theorem Confines.bind {m : SessionM β σ α} {f : α → SessionM β σ γ} {R : α → Prop}
    {R' : γ → Prop} (h : Confines engine who Q m R)
    (hf : ∀ a, R a → Confines engine who Q (f a) R') : Confines engine who Q (m >>= f) R' := by
  refine Issues.bind h (fun es failure hP => ⟨hP.1, fun _ ha => by cases ha⟩) fun es a hP => ?_
  refine Issues.mono (hf a (hP.2 a rfl)) fun es' r hP' => ⟨fun e he => ?_, hP'.2⟩
  rcases List.mem_append.1 he with he | he
  · exact hP.1 e he
  · exact hP'.1 e he

theorem Confines.withSpan {m : SessionM β σ α} {R : α → Prop} (h : Confines engine who Q m R)
    (event : TraceEvent) : Confines engine who Q (SessionM.withSpan event m) R :=
  Issues.withSpan h event

theorem Confines.adapt {m : SessionM β σ α} {R : α → Prop} (h : Confines engine who Q m R)
    (f : Failure → Failure) : Confines engine who Q (m.adapt f) R := by
  intro s hs
  obtain ⟨hwho, es, hserves, hkind, hR⟩ := h s hs
  rw [adapt_run]
  refine ⟨hwho, es, hserves, hkind, fun a ha => hR a ?_⟩
  generalize (m.run s).1 = result at ha
  cases result with
  | error failure => cases ha
  | ok a' => exact ha

theorem Confines.call {stage : Stage} {c : Call} (h : ∀ answer, Q ⟨c, answer⟩) :
    Confines engine who Q (SessionM.call engine stage c) fun _ => True := by
  refine Issues.mono (.call stage c) fun es r hP => ⟨fun e he => ?_, fun _ _ => trivial⟩
  obtain ⟨answer, rfl, -⟩ := hP
  obtain rfl := List.mem_singleton.1 he
  exact h answer

theorem Confines.announce (notice : Notice) :
    Confines engine who Q (SessionM.announce engine notice) fun _ => True :=
  Issues.mono (.announce notice) fun _ _ hes =>
    ⟨hes ▸ List.forall_mem_nil _, fun _ _ => trivial⟩

end

/-- In the session of a holder, an operation makes no calls but reads, and its result is as
told. -/
def Browses (engine : Engine β σ) (who : Holder) (m : SessionM β σ α) (R : α → Prop) : Prop :=
  Issues engine who m fun es r => (∀ e ∈ es, e.call.isRead = true) ∧ ∀ a, r = .ok a → R a

end SessionM

/-- A wrapped success is the success. -/
theorem mapError_eq_ok {result : Except Failure α} {f : Failure → Failure} {a : α} :
    result.mapError f = .ok a ↔ result = .ok a := by
  cases result <;> simp [Except.mapError]

/-- A failure is what is left of one when the value is mapped. -/
theorem map_eq_error {result : Except Failure α} {f : α → γ} {failure : Failure} :
    result.map f = .error failure ↔ result = .error failure := by
  cases result <;> simp [Except.map]

namespace Session

open SessionM

variable {engine : Engine β σ} {who : Holder} {E : EntityType}

/-- A fetch is one call, and the record it gives is that of the row it was answered. -/
theorem fetch_issues (E : EntityType) (id : String) :
    Issues engine who (fetch engine E id) fun es r =>
      ∃ answer, es = [⟨.fetch who.tx ⟨E.name, id⟩, answer⟩] ∧
        ∀ record, r = .ok (some record) →
          ∃ row, answer = .ok (some row) ∧ Record.ofRow E row = .ok record := by
  refine Issues.read_bind fun s hs => ?_
  subst hs
  refine Issues.bind (.call .fetch _) ?_ ?_
  · rintro es failure ⟨answer, rfl, -⟩
    exact ⟨answer, rfl, fun _ hrecord => by cases hrecord⟩
  · rintro es row? ⟨answer, rfl, hanswer⟩
    -- The wrapping of failures is undone: the answer was a success.
    obtain rfl := mapError_eq_ok.1 hanswer.symm
    cases row? with
    | none =>
      refine Issues.mono (.ofExcept (.ok none)) ?_
      rintro es' r ⟨rfl, rfl⟩
      exact ⟨_, rfl, fun _ hrecord => by cases hrecord⟩
    | some row =>
      refine Issues.mono (.ofExcept _) ?_
      rintro es' r ⟨rfl, rfl⟩
      refine ⟨_, rfl, fun record hrecord => ⟨row, rfl, ?_⟩⟩
      generalize Record.ofRow E row = result at hrecord
      cases result with
      | error failure => cases hrecord
      | ok record' => exact congrArg Except.ok (Option.some.inj (Except.ok.inj hrecord))

/-- A load is one fetch; what it loads is the record of the row it is answered. -/
theorem load_run (engine : Engine β σ) (E : EntityType) (id : String) (s : Scope β σ) :
    ∃ result, (load engine E id).run s =
        (result, { s with world.backend :=
          (engine.backend.call (.fetch s.session.tx (E.key id)) s.world.backend).2 }) ∧
      ∀ stored, result = .ok stored → ∃ row,
        (engine.backend.call (.fetch s.session.tx (E.key id)) s.world.backend).1 =
            .ok (some row) ∧
          Record.ofRow E row = .ok stored := by
  have hcall : (SessionM.call engine .fetch (.fetch s.session.tx ⟨E.name, id⟩)).run s =
      ((engine.backend.call (.fetch s.session.tx (E.key id)) s.world.backend).1.mapError
          (.persistence Stage.fetch.label),
        { s with world.backend :=
          (engine.backend.call (.fetch s.session.tx (E.key id)) s.world.backend).2 }) :=
    SessionM.call_run ..
  simp only [load, fetch, SessionM.run_bind, SessionM.read_run, hcall]
  cases (engine.backend.call (.fetch s.session.tx (E.key id)) s.world.backend).1 with
  | error failure => exact ⟨_, rfl, fun _ h => by cases h⟩
  | ok row? =>
    cases row? with
    | none => exact ⟨_, rfl, fun _ h => by cases h⟩
    | some row =>
      -- Whether the row reads as a record decides the rest.
      refine ⟨Record.ofRow E row, ?_, fun stored h => ⟨row, rfl, h⟩⟩
      dsimp only [Except.mapError, SessionM.ofExcept, ExceptT.run]
      cases Record.ofRow E row <;> rfl

/-- A load is a fetch that finds a row. -/
theorem load_issues (E : EntityType) (id : String) :
    Issues engine who (load engine E id) fun es r =>
      ∃ answer, es = [⟨.fetch who.tx ⟨E.name, id⟩, answer⟩] ∧
        ∀ record, r = .ok record →
          ∃ row, answer = .ok (some row) ∧ Record.ofRow E row = .ok record := by
  refine Issues.bind (fetch_issues E id) ?_ ?_
  · rintro es failure ⟨answer, rfl, -⟩
    exact ⟨answer, rfl, fun _ hrecord => by cases hrecord⟩
  · rintro es record? ⟨answer, rfl, hanswer⟩
    cases record? with
    | none =>
      refine Issues.mono (.ofExcept (.error (.notFound E.name id))) ?_
      rintro es' r ⟨rfl, rfl⟩
      exact ⟨answer, rfl, fun _ hrecord => by cases hrecord⟩
    | some record =>
      refine Issues.mono (.ofExcept (.ok record)) ?_
      rintro es' r ⟨rfl, rfl⟩
      refine ⟨answer, rfl, fun record' hrecord => hanswer record' ?_⟩
      rw [← Except.ok.inj hrecord]

end Session

/-! ### The protocol -/

namespace SessionM

variable {engine : Engine β σ} {who : Holder} {types : EntityType → Prop} {mode : Mode}

/-- An operation, begun in some mode of its transaction, obeys the protocol and leaves nothing
owing. -/
def Leads (engine : Engine β σ) (types : EntityType → Prop) (who : Holder) (mode : Mode)
    (m : SessionM β σ α) : Prop :=
  Issues engine who m fun es _ => ∃ mode', mode'.due = [] ∧ Mode.Steps types who.tx mode es mode'

theorem Leads.of_browses (hmode : mode.due = []) {m : SessionM β σ α} {R : α → Prop}
    (h : Browses engine who m R) : Leads engine types who mode m :=
  Issues.mono h fun _ _ hP => ⟨mode, hmode, .reads mode hP.1⟩

/-- Reads first. -/
theorem Leads.browse (hmode : mode.due = []) {m : SessionM β σ α} {R : α → Prop}
    (h : Browses engine who m R) {f : α → SessionM β σ γ}
    (hf : ∀ a, R a → Leads engine types who mode (f a)) :
    Leads engine types who mode (m >>= f) := by
  refine Issues.bind h (fun es failure hP => ⟨mode, hmode, .reads mode hP.1⟩) fun es a hP => ?_
  refine Issues.mono (hf a (hP.2 a rfl)) fun es' r hQ => ?_
  obtain ⟨mode', hmode', hsteps⟩ := hQ
  exact ⟨mode', hmode', (Mode.Steps.reads mode hP.1).append hsteps⟩

/-- One obedient operation after another. -/
theorem Leads.bind {m : SessionM β σ α} (h : Leads engine types who mode m) {f : α → SessionM β σ γ}
    (hf : ∀ a mode', mode'.due = [] → Leads engine types who mode' (f a)) :
    Leads engine types who mode (m >>= f) := by
  refine Issues.bind h (fun es failure hP => hP) ?_
  rintro es a ⟨mode', hmode', hsteps⟩
  refine Issues.mono (hf a mode' hmode') fun es' r hQ => ?_
  obtain ⟨mode'', hmode'', hsteps'⟩ := hQ
  exact ⟨mode'', hmode'', hsteps.append hsteps'⟩

theorem Leads.withSpan {m : SessionM β σ α} (h : Leads engine types who mode m)
    (event : TraceEvent) : Leads engine types who mode (SessionM.withSpan event m) :=
  Issues.withSpan h event

/-- A load that finds a row leaves it loaded. -/
theorem Leads.load (hmode : mode.due = []) {F : EntityType} {id : String}
    {f : Record F → SessionM β σ γ}
    (hf : ∀ row record, Record.ofRow F row = .ok record →
      Leads engine types who (.loaded F id row) (f record)) :
    Leads engine types who mode (Session.load engine F id >>= f) := by
  refine Issues.bind (Session.load_issues F id) ?_ ?_
  · rintro es failure ⟨answer, rfl, -⟩
    exact ⟨mode, hmode, (Mode.Step.read mode _ rfl).single⟩
  · rintro es record ⟨answer, rfl, hanswer⟩
    obtain ⟨row, rfl, hrow⟩ := hanswer record rfl
    refine Issues.mono (hf row record hrow) fun es' r hQ => ?_
    obtain ⟨mode', hmode', hsteps⟩ := hQ
    exact ⟨mode', hmode', .cons _ _ _ _ _ (.loaded mode hmode F id row) hsteps⟩

/-- A call after which there is more to do if it is granted, and nothing is owing if it is not. -/
theorem Leads.call {stage : Stage} {c : Call} {f : c.Answer → SessionM β σ γ}
    (herror : ∀ failure, ∃ mode', mode'.due = [] ∧
      Mode.Step types who.tx mode ⟨c, .error failure⟩ mode')
    (hok : ∀ answer, ∃ mode', Mode.Step types who.tx mode ⟨c, .ok answer⟩ mode' ∧
      Leads engine types who mode' (f answer)) :
    Leads engine types who mode (SessionM.call engine stage c >>= f) := by
  refine Issues.bind (.call stage c) ?_ ?_
  · rintro es failure ⟨answer, rfl, hanswer⟩
    cases answer with
    | ok a => cases hanswer
    | error failure' =>
      obtain ⟨mode', hmode', hstep⟩ := herror failure'
      exact ⟨mode', hmode', hstep.single⟩
  · rintro es a ⟨answer, rfl, hanswer⟩
    obtain rfl := mapError_eq_ok.1 hanswer.symm
    obtain ⟨mode', hstep, hf⟩ := hok a
    refine Issues.mono hf fun es' r hQ => ?_
    obtain ⟨mode'', hmode'', hsteps⟩ := hQ
    exact ⟨mode'', hmode'', .cons _ _ _ _ _ hstep hsteps⟩

/-- The audit record that is owed is staged, and with it nothing is owing any more. -/
theorem Leads.recordAudit {action : AuditAction} {F : EntityType} {id : String}
    {changes : ChangeSet} :
    Leads engine types who
      (.owing ⟨who.actor.id, who.actor.effective, action, F.name, id, changes⟩)
      (Session.recordAudit engine action F id changes) := by
  refine Issues.read_bind fun s hs => ?_
  subst hs
  refine Issues.mono (.call .audit _) ?_
  rintro es r ⟨answer, rfl, -⟩
  exact ⟨.idle, rfl, (Mode.Step.audited _ _).single⟩

/-- An announcement never fails. -/
theorem Leads.announce (hannounce : engine.Announces) {notice : Notice}
    {f : Unit → SessionM β σ γ} (h : Leads engine types who mode (f ())) :
    Leads engine types who mode (SessionM.announce engine notice >>= f) := by
  intro s hs
  -- An announcement reaches the backend but is no call, so it adds no event.
  have hrun : (SessionM.announce engine notice).run s =
      (.ok (), { s with world := { s.world with backend :=
        (engine.backend.announce notice s.world.backend).2 } }) := by
    change (Except.mapError _ (engine.backend.announce notice s.world.backend).1, _) = _
    rw [hannounce]
    rfl
  rw [run_bind, hrun]
  obtain ⟨hwho, es, hserves, hP⟩ := h
    { s with world := { s.world with backend :=
      (engine.backend.announce notice s.world.backend).2 } } hs
  exact ⟨hwho, es, .announce notice _ _ es hserves, hP⟩

end SessionM

end RecordEngine
