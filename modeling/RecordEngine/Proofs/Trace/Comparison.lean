import RecordEngine.Proofs.Trace.Told
/-!
Comparing what two engines do and tell.

Let an engine be given other handlers. If the runs of the handlers then compare in some way, to the
same result, so do create and save and every session made of them, to whatever depth deferred work
nests: nothing else asks for the handlers. A `Comparison` is the way in which the runs compare: what
holds of the sessions, and how what the two tell is related with the session before and after. An
engine that is compared with itself is one about which something is proved.
-/

set_option autoImplicit false

namespace RecordEngine

variable {β σ α γ : Type} {E : EntityType}

/-- A way for two operations to compare. -/
structure Comparison where
  /-- What is known of the session that both begin in, and what they keep. -/
  holds : Session → Prop
  /-- How what the two tell is related, with the session that they begin and end in. -/
  tells : Session → List TraceEntry → List TraceEntry → Session → Prop
  nil : ∀ session, holds session → tells session [] [] session
  append : ∀ {session session' session''} {a a' b b' : List TraceEntry},
    tells session a a' session' → tells session' b b' session'' →
      tells session (a ++ b) (a' ++ b') session''
  activity : ∀ {session session'} {a a' : List TraceEntry} (entity id : String)
    (action : AuditAction), tells session a a' session' →
      tells session (TraceEntry.span (.modelActivity entity id action) a)
        (TraceEntry.span (.modelActivity entity id action) a') session'

namespace SessionM

variable {R : Comparison}

/-- In a scope both operations come to the same and end in the same scope, and what they tell
compares. -/
def ComparesIn (R : Comparison) (s : Scope β σ) (m m' : SessionM β σ α) : Prop :=
  ∃ told told' r s', Traces m s told r s' ∧ Traces m' s told' r s' ∧
    R.holds s'.session ∧ R.tells s.session told told' s'.session

def Compares (R : Comparison) (m m' : SessionM β σ α) : Prop :=
  ∀ s : Scope β σ, R.holds s.session → ComparesIn R s m m'

/-- An operation that leaves the trace and the session alone. -/
def Quiet (m : SessionM β σ α) : Prop :=
  ∀ s : Scope β σ, ∃ (r : Except Failure α) (s' : Scope β σ), s'.session = s.session ∧
    ∀ sink, m.run (s.tracing sink) = (r, s'.tracing sink)

theorem Quiet.bind {m : SessionM β σ α} {f : α → SessionM β σ γ} (h : Quiet m)
    (hf : ∀ a, Quiet (f a)) : Quiet (m >>= f) := by
  intro s
  obtain ⟨r, s', hsession, hrun⟩ := h s
  cases r with
  | error failure =>
    refine ⟨.error failure, s', hsession, fun sink => ?_⟩
    rw [run_bind, hrun]
  | ok a =>
    obtain ⟨r, s'', hsession', hrun'⟩ := hf a s'
    refine ⟨r, s'', hsession'.trans hsession, fun sink => ?_⟩
    rw [run_bind, hrun]
    exact hrun' sink

theorem Quiet.ofExcept (result : Except Failure α) :
    Quiet (SessionM.ofExcept result : SessionM β σ α) :=
  fun s => ⟨result, s, rfl, fun _ => rfl⟩

theorem Quiet.pure (a : α) : Quiet (Pure.pure a : SessionM β σ α) := .ofExcept (.ok a)

theorem Quiet.throw (failure : Failure) :
    Quiet (MonadExcept.throw failure : SessionM β σ α) := .ofExcept (.error failure)

/-- What is read off the session. -/
theorem Quiet.read (f : Session → α) :
    Quiet (SessionM.read (fun s => f s.session) : SessionM β σ α) :=
  fun s => ⟨.ok (f s.session), s, rfl, fun _ => rfl⟩

theorem Quiet.call (engine : Engine β σ) (stage : Stage) (c : Call) :
    Quiet (SessionM.call engine stage c) :=
  fun s => ⟨((SessionM.call engine stage c).run s).1, ((SessionM.call engine stage c).run s).2, rfl,
    fun _ => rfl⟩

theorem Quiet.announce (engine : Engine β σ) (notice : Notice) :
    Quiet (SessionM.announce engine notice) :=
  fun s => ⟨((SessionM.announce engine notice).run s).1,
    ((SessionM.announce engine notice).run s).2, rfl, fun _ => rfl⟩

theorem Quiet.now : Quiet (SessionM.now : SessionM β σ Instant) :=
  fun s => ⟨(SessionM.now.run s).1, (SessionM.now.run s).2, rfl, fun _ => rfl⟩

theorem Quiet.newId : Quiet (SessionM.newId : SessionM β σ String) :=
  fun s => ⟨(SessionM.newId.run s).1, (SessionM.newId.run s).2, rfl, fun _ => rfl⟩

/-- Any run of a quiet operation tells how it runs wherever its trace goes. -/
theorem Quiet.traces {m : SessionM β σ α} (h : Quiet m) {s s' : Scope β σ} {r : Except Failure α}
    (hrun : m.run s = (r, s')) : Traces m s [] r s' ∧ s'.session = s.session := by
  obtain ⟨r', s'', hsession, hall⟩ := h s
  have hhere := hall s.world.trace
  rw [Scope.tracing_self, hrun] at hhere
  obtain ⟨rfl, rfl⟩ := Prod.mk.inj hhere
  exact ⟨.silent hall, hsession⟩

theorem Compares.quiet {m : SessionM β σ α} (h : Quiet m) : Compares R m m := by
  intro s hs
  obtain ⟨r, s', hsession, hrun⟩ := h s
  have htraces : Traces m s [] r s' := .silent hrun
  refine ⟨[], [], r, s', htraces, htraces, ?_, ?_⟩
  · rw [hsession]
    exact hs
  · rw [hsession]
    exact R.nil _ hs

theorem ComparesIn.bind {s : Scope β σ} {m m' : SessionM β σ α} {f f' : α → SessionM β σ γ}
    (h : ComparesIn R s m m') (hf : ∀ a, Compares R (f a) (f' a)) :
    ComparesIn R s (m >>= f) (m' >>= f') := by
  obtain ⟨told, told', r, s', htraces, htraces', hs', htells⟩ := h
  cases r with
  | error failure =>
    exact ⟨told, told', _, s', htraces.bind_error, htraces'.bind_error, hs', htells⟩
  | ok a =>
    obtain ⟨more, more', r, s'', hnext, hnext', hs'', htells'⟩ := hf a s' hs'
    exact ⟨_, _, r, s'', htraces.bind hnext, htraces'.bind hnext', hs'', R.append htells htells'⟩

theorem Compares.bind {m m' : SessionM β σ α} {f f' : α → SessionM β σ γ} (h : Compares R m m')
    (hf : ∀ a, Compares R (f a) (f' a)) : Compares R (m >>= f) (m' >>= f') :=
  fun s hs => (h s hs).bind hf

/-- What goes on with the answer of an operation, be it a failure. -/
theorem ComparesIn.answered {s : Scope β σ} {m m' : SessionM β σ α}
    {k k' : Except Failure α → SessionM β σ γ} (h : ComparesIn R s m m')
    (hk : ∀ r s', R.holds s'.session → ComparesIn R s' (k r) (k' r)) :
    ComparesIn R s (fun s => (k (m.run s).1).run (m.run s).2)
      (fun s => (k' (m'.run s).1).run (m'.run s).2) := by
  obtain ⟨told, told', r, s', htraces, htraces', hs', htells⟩ := h
  obtain ⟨more, more', r', s'', hnext, hnext', hs'', htells'⟩ := hk r s' hs'
  exact ⟨_, _, r', s'', htraces.answered hnext, htraces'.answered hnext', hs'',
    R.append htells htells'⟩

/-- What comes after a quiet operation. -/
theorem Compares.after {m : SessionM β σ α} {f f' : α → SessionM β σ γ} (h : Quiet m)
    (hf : ∀ a, Compares R (f a) (f' a)) : Compares R (m >>= f) (m >>= f') :=
  (Compares.quiet h).bind hf

/-- What would come after a failure does not matter. -/
theorem Compares.throw_bind (failure : Failure) (f f' : α → SessionM β σ γ) :
    Compares R (throw failure >>= f) (throw failure >>= f') := by
  intro s hs
  have htraces : Traces (throw failure : SessionM β σ α) s [] (.error failure) s :=
    .silent fun _ => rfl
  exact ⟨[], [], _, s, htraces.bind_error, htraces.bind_error, hs, R.nil _ hs⟩

/-- What is read off a session of which something is known. -/
theorem Compares.session_bind {f f' : Session → SessionM β σ γ}
    (h : ∀ session, R.holds session → Compares R (f session) (f' session)) :
    Compares R (SessionM.read (·.session) >>= f) (SessionM.read (·.session) >>= f') :=
  fun s hs => h s.session hs s hs

theorem Compares.activity {m m' : SessionM β σ α} (h : Compares R m m') (entity id : String)
    (action : AuditAction) : Compares R (SessionM.withSpan (.modelActivity entity id action) m)
      (SessionM.withSpan (.modelActivity entity id action) m') := by
  intro s hs
  obtain ⟨told, told', r, s', htraces, htraces', hs', htells⟩ := h s hs
  exact ⟨_, _, r, s', htraces.withSpan _, htraces'.withSpan _, hs',
    R.activity entity id action htells⟩

end SessionM

/-! ## Create and save -/

namespace Session

open SessionM

variable {engine : Engine β σ}

theorem fetch_quiet (E : EntityType) (id : String) : Quiet (fetch engine E id) := by
  refine .bind (.read (·.tx)) fun tx => .bind (.call engine _ _) fun row? => ?_
  cases row? with
  | none => exact .pure none
  | some row => exact .ofExcept _

theorem load_quiet (E : EntityType) (id : String) : Quiet (load engine E id) := by
  refine .bind (fetch_quiet E id) fun record? => ?_
  cases record? with
  | none => exact .throw _
  | some record => exact .pure record

theorem withId_quiet (record : Record E) : Quiet (withId engine record) := by
  unfold withId
  split
  · split
    · exact .bind (.ofExcept _) fun index => .bind .newId fun id => .ofExcept _
    · exact .throw _
  · exact .pure record

theorem recordAudit_quiet (action : AuditAction) (id : String) (changes : ChangeSet) :
    Quiet (recordAudit engine action E id changes) :=
  .bind (.read fun session => session) fun _ => .call engine _ _

theorem writeChanges_quiet (id : String) (stored proposed : Record E) :
    Quiet (writeChanges engine id stored proposed) := by
  refine .bind .now fun now => .bind (.read fun session => session) fun session => ?_
  refine .bind (.ofExcept _) fun stamped => .bind (.call engine _ _) fun _ => ?_
  exact .bind (.announce engine _) fun _ => recordAudit_quiet _ _ _

end Session

/-- The engine with other handlers. -/
def Engine.withRegistry (engine : Engine β σ) (registry : Registry σ) : Engine β σ :=
  { engine with registry }

/-- The runs of the handlers of an engine compare with those of other handlers, and as to whether
one is forced the two agree. -/
structure Comparison.Runs (R : Comparison) (engine : Engine β σ) (registry : Registry σ) :
    Prop where
  run : ∀ (E : EntityType) (baseline proposed : Record E) (forceFirst : Bool),
    SessionM.Compares R (Convergence.run engine baseline proposed forceFirst)
      (Convergence.run (engine.withRegistry registry) baseline proposed forceFirst)
  pending : ∀ (E : EntityType) (session : Session) (id : String), R.holds session →
    Convergence.forcePending (engine.withRegistry registry) E session id =
      Convergence.forcePending engine E session id

namespace Session

open SessionM

variable {R : Comparison} {engine : Engine β σ} {registry : Registry σ}

/-! Of the engine only the handlers are different, and none of these asks for them. -/

theorem load_withRegistry (E : EntityType) (id : String) :
    load (engine.withRegistry registry) E id = load engine E id := rfl

theorem withId_withRegistry (record : Record E) :
    withId (engine.withRegistry registry) record = withId engine record := rfl

theorem recordAudit_withRegistry (action : AuditAction) (id : String) (changes : ChangeSet) :
    recordAudit (engine.withRegistry registry) action E id changes =
      recordAudit engine action E id changes := rfl

theorem writeChanges_withRegistry (id : String) (stored proposed : Record E) :
    writeChanges (engine.withRegistry registry) id stored proposed =
      writeChanges engine id stored proposed := rfl

theorem call_withRegistry (stage : Stage) (c : Call) :
    SessionM.call (engine.withRegistry registry) stage c = SessionM.call engine stage c := rfl

theorem announce_withRegistry (notice : Notice) :
    SessionM.announce (engine.withRegistry registry) notice = SessionM.announce engine notice := rfl

/-- What a save does with what the handlers left. -/
def finishSave (engine : Engine β σ) (drain : DeferredWork σ → SessionM β σ Unit)
    (record stored : Record E) (out : Convergence.Outcome σ E) : SessionM β σ (Record E) := do
  SessionM.ofExcept (E.schema.checkRow out.record.toRow)
  if (changedFields stored out.record).isEmpty then
    if out.queue.isEmpty then return record
  else writeChanges engine record.id stored out.record
  drain out.queue
  load engine E record.id

theorem saveWith_eq (engine : Engine β σ) (drain : DeferredWork σ → SessionM β σ Unit)
    (record : Record E) :
    saveWith engine drain record = (do
      SessionM.ofExcept (E.schema.checkRow record.toRow)
      if record.id.isEmpty then throw (missingId E)
      let stored ← load engine E record.id
      SessionM.ofExcept (checkVersion record stored record.id)
      SessionM.withSpan (.modelActivity E.name record.id .update) do
        let session ← SessionM.read (·.session)
        let out ← Convergence.run engine stored record
          (Convergence.forcePending engine E session record.id)
        finishSave engine drain record stored out) := rfl

/-- A save that finds its record tells, within its span, what the handlers do, and then what it does
with what they left. -/
theorem saveWith_traces {drain : DeferredWork σ → SessionM β σ Unit} {record stored : Record E}
    {s s₁ s₂ : Scope β σ} {told : List TraceEntry} {r : Except Failure (Convergence.Outcome σ E)}
    (hcheck : E.schema.checkRow record.toRow = .ok ()) (hid : record.id.isEmpty = false)
    (hload : (load engine E record.id).run s = (.ok stored, s₁))
    (hversion : checkVersion record stored record.id = .ok ())
    (hrun : Traces (Convergence.run engine stored record
      (Convergence.forcePending engine E s.session record.id)) s₁ told r s₂)
    (hfinish : ∀ out, ∃ more r s',
      Traces (finishSave engine drain record stored out) s₂ more r s') :
    ∃ more r s', Traces (saveWith engine drain record) s
      (TraceEntry.span (.modelActivity E.name record.id .update) (told ++ more)) r s' := by
  obtain ⟨hloaded, hsession⟩ := (load_quiet E record.id).traces hload
  have hinside : ∃ more r s', Traces (do
      let session ← SessionM.read (·.session)
      let out ← Convergence.run engine stored record
        (Convergence.forcePending engine E session record.id)
      finishSave engine drain record stored out : SessionM β σ (Record E)) s₁ (told ++ more) r
        s' := by
    rw [← hsession] at hrun
    cases r with
    | error failure => exact ⟨[], _, s₂, by rw [List.append_nil]; exact hrun.bind_error⟩
    | ok out =>
      obtain ⟨more, r, s', hmore⟩ := hfinish out
      exact ⟨more, r, s', hrun.bind hmore⟩
  obtain ⟨more, r, s', hinside⟩ := hinside
  refine ⟨more, r, s', ?_⟩
  rw [saveWith_eq, hcheck, hid]
  have hversion' : Traces (SessionM.ofExcept (checkVersion record stored record.id) :
      SessionM β σ Unit) s₁ [] (.ok ()) s₁ := .silent fun _ => by rw [hversion]; rfl
  exact hloaded.bind (hversion'.bind (hinside.withSpan _))

section
variable (h : R.Runs engine registry) {drain drain' : DeferredWork σ → SessionM β σ Unit}
  (hdrain : ∀ queue, Compares R (drain queue) (drain' queue))
include hdrain

include h in
theorem createWith_compares (record : Record E) :
    Compares R (createWith engine drain record)
      (createWith (engine.withRegistry registry) drain' record) := by
  unfold createWith
  simp only [withId_withRegistry, call_withRegistry, announce_withRegistry,
    recordAudit_withRegistry, load_withRegistry]
  refine .after (withId_quiet record) fun record => .after (.ofExcept _) fun _ => ?_
  refine .after (.ofExcept _) fun _ => .activity ?_ _ _ _
  refine (h.run E _ _ _).bind fun out => .after (.ofExcept _) fun _ => ?_
  refine .after .now fun now => .after (.read fun session => session) fun session => ?_
  refine .after (.ofExcept _) fun stamped => .after (.call engine _ _) fun _ => ?_
  refine .after (.announce engine _) fun _ => .after (recordAudit_quiet _ _ _) fun _ => ?_
  exact (hdrain _).bind fun _ => .quiet (load_quiet E _)

theorem finishSave_compares (record stored : Record E) (out : Convergence.Outcome σ E) :
    Compares R (finishSave engine drain record stored out)
      (finishSave (engine.withRegistry registry) drain' record stored out) := by
  unfold finishSave
  simp only [writeChanges_withRegistry, load_withRegistry]
  refine .after (.ofExcept _) fun _ => ?_
  have hrest : Compares R (do drain out.queue; load engine E record.id)
      (do drain' out.queue; load engine E record.id) :=
    (hdrain _).bind fun _ => .quiet (load_quiet E _)
  split
  · split
    · exact .quiet (.pure _)
    · exact hrest
  · exact .after (writeChanges_quiet _ _ _) fun _ => hrest

include h in
theorem saveWith_compares (record : Record E) :
    Compares R (saveWith engine drain record)
      (saveWith (engine.withRegistry registry) drain' record) := by
  rw [saveWith_eq, saveWith_eq]
  simp only [load_withRegistry]
  refine .after (.ofExcept _) fun _ => ?_
  split
  · exact .throw_bind _ _ _
  refine .after (load_quiet E _) fun stored => .after (.ofExcept _) fun _ => .activity ?_ _ _ _
  refine .session_bind fun session hsession => ?_
  rw [h.pending E session record.id hsession]
  exact (h.run E _ _ _).bind fun out => finishSave_compares hdrain record stored out

end

/-- Create and save compare. -/
def Operations.Compare (R : Comparison) (operations operations' : Operations β σ) : Prop :=
  ∀ (E : EntityType) (record : Record E),
    Compares R (operations.create E record) (operations'.create E record) ∧
      Compares R (operations.save E record) (operations'.save E record)

theorem runWork_compares {operations operations' : Operations β σ}
    (h : Operations.Compare R operations operations') (work : SessionWork σ α) :
    Compares R (runWork engine operations work)
      (runWork (engine.withRegistry registry) operations' work) := by
  intro s hs
  change ComparesIn R s (fun s => runProgram engine operations work.run s)
    (fun s => runProgram (engine.withRegistry registry) operations' work.run s)
  induction work.run generalizing s with
  | done result =>
    have htraces (engine : Engine β σ) (operations : Operations β σ) :
        Traces (fun s => runProgram engine operations (.done result) s) s [] result s :=
      .silent fun _ => rfl
    exact ⟨[], [], result, s, htraces _ _, htraces _ _, hs, R.nil _ hs⟩
  | create F record next ih => exact ((h F record).1 s hs).answered fun r s' hs' => ih r s' hs'
  | save F record next ih => exact ((h F record).2 s hs).answered fun r s' hs' => ih r s' hs'
  | fetch F id next ih =>
    exact (Compares.quiet (fetch_quiet F id) s hs).answered fun r s' hs' => ih r s' hs'
  | inspect next ih =>
    obtain ⟨told, told', r, s', htraces, htraces', hs', htells⟩ :=
      ih ⟨s.session.tx, s.session.actor, s.session.options, s.session.history, engine.config⟩ s hs
    exact ⟨told, told', r, s', fun sink => htraces sink, fun sink => htraces' sink, hs', htells⟩
  | call c next ih =>
    obtain ⟨told, told', r, s', htraces, htraces', hs', htells⟩ :=
      ih (engine.backend.call c s.world.backend).1
        { s with world.backend := (engine.backend.call c s.world.backend).2 } hs
    exact ⟨told, told', r, s', fun sink => htraces sink, fun sink => htraces' sink, hs', htells⟩
  | host change next ih =>
    obtain ⟨told, told', r, s', htraces, htraces', hs', htells⟩ :=
      ih s.world.host { s with world.host := change s.world.host } hs
    exact ⟨told, told', r, s', fun sink => htraces sink, fun sink => htraces' sink, hs', htells⟩

theorem drainAll_compares {operations operations' : Operations β σ}
    (h : Operations.Compare R operations operations')
    (actions : List (String × SessionWork σ Unit)) :
    Compares R (drainAll engine operations actions)
      (drainAll (engine.withRegistry registry) operations' actions) := by
  induction actions with
  | nil => exact .quiet (.pure ())
  | cons action rest ih => exact (runWork_compares h action.2).bind fun _ => ih

/-- Create and save compare at every level of nesting. -/
theorem operationsAt_compare (h : R.Runs engine registry) (level : Nat) :
    Operations.Compare R (operationsAt engine level)
      (operationsAt (engine.withRegistry registry) level) := by
  induction level with
  | zero => exact fun E record => ⟨.quiet (.throw _), .quiet (.throw _)⟩
  | succ level ih =>
    exact fun E record => ⟨createWith_compares h (fun queue => drainAll_compares ih _) record,
      saveWith_compares h (fun queue => drainAll_compares ih _) record⟩

/-- Whatever is done in a session compares. -/
theorem perform_compares (h : R.Runs engine registry) (work : SessionWork σ α) :
    Compares R (perform engine work) (perform (engine.withRegistry registry) work) :=
  runWork_compares (operationsAt_compare h _) work

end Session

/-! ## Sessions from their beginning -/

/-- Work that a caller has done in a session, and the world that it finds: the one that the work
before it left, or what others have made of that since. -/
structure Errand (β σ : Type) where
  world : World β σ
  {α : Type}
  work : SessionWork σ α

/-- Where an errand is run. The trace of the session goes on. -/
def Errand.scope (errand : Errand β σ) (session : Session) (sink : TraceSink) : Scope β σ where
  world := { errand.world with trace := sink }
  session

namespace Session

open SessionM

/-- The session and its trace after errands were run one after another, whatever they came to. -/
def runErrands (engine : Engine β σ) :
    List (Errand β σ) → Session → TraceSink → Session × TraceSink
  | [], session, sink => (session, sink)
  | errand :: rest, session, sink =>
    let s := ((perform engine errand.work).run (errand.scope session sink)).2
    runErrands engine rest s.session s.world.trace

theorem runErrands_compares {R : Comparison} {engine : Engine β σ} {registry : Registry σ}
    (h : R.Runs engine registry) (errands : List (Errand β σ)) {session : Session}
    (hsession : R.holds session) {sink sink' : TraceSink} (hsink : sink.Sound)
    (hsink' : sink'.Sound) :
    ∃ told told' session',
      runErrands engine errands session sink = (session', sink.tell told) ∧
      runErrands (engine.withRegistry registry) errands session sink' =
        (session', sink'.tell told') ∧
      R.holds session' ∧ R.tells session told told' session' := by
  induction errands generalizing session sink sink' with
  | nil =>
    exact ⟨[], [], session, by rw [TraceSink.tell_nil]; rfl, by rw [TraceSink.tell_nil]; rfl,
      hsession, R.nil session hsession⟩
  | cons errand rest ih =>
    obtain ⟨told, told', r, s', hrun, hrun', hs', htells⟩ :=
      perform_compares h errand.work (errand.scope session sink) hsession
    obtain ⟨later, later', session', hlater, hlater', hsession', htells'⟩ :=
      ih hs' (hsink.tell told) (hsink'.tell told')
    rw [TraceSink.tell_append] at hlater hlater'
    refine ⟨told ++ later, told' ++ later', session', ?_, ?_, hsession', R.append htells htells'⟩
    · have hfirst := hrun sink hsink
      rw [runErrands, ← hlater]
      exact congrArg (fun out => runErrands engine rest out.2.session out.2.world.trace) hfirst
    · have hfirst := hrun' sink' hsink'
      rw [runErrands, ← hlater']
      exact congrArg (fun out => runErrands (engine.withRegistry registry) rest out.2.session
        out.2.world.trace) hfirst

end Session

end RecordEngine
