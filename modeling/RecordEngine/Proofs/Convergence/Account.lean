import RecordEngine.Proofs.Convergence.Passes
import RecordEngine.Proofs.Trace.Story
/-!
The story of a run of the handlers.

A handler is a tree of requests, and `HandlerProgram.Follows` is one way through it. From there the
story of a run is put together as the run is: a call, a dispatch, the dispatches of a pass, and the
passes. Each of these relations has one constructor for each way the thing can go, and says what
the story and the record are then; that there is such a story for every run is proved along the
text, with `Accounts`.

The queue of deferred work is not part of these relations. It can be read off the story: it is what
handlers put off in it, in order (`Queues`).
-/

set_option autoImplicit false

namespace RecordEngine

open SessionM

variable {β σ : Type} {E : EntityType}

/-! ## A handler -/

/-- A way through the program: with these answers and these states of the host it puts this work off
and ends like this. -/
inductive HandlerProgram.Follows :
    HandlerProgram σ E → Story β σ → Except Failure (Record E) → Prop where
  | done (result : Except Failure (Record E)) : Follows (.done result) .nil result
  | call (c : Call) (next : Except Failure c.Answer → HandlerProgram σ E) (before after : β)
      (answer : Except Failure c.Answer) {story : Story β σ} {r : Except Failure (Record E)}
      (h : Follows (next answer) story r) :
      Follows (.call c next) (.call .program ⟨before, c, answer, after⟩ story) r
  | defer (label : String) (action : SessionWork σ Unit) {next : HandlerProgram σ E}
      {story : Story β σ} {r : Except Failure (Record E)} (h : Follows next story r) :
      Follows (.defer label action next) (.putOff label action story) r
  | host (change : σ → σ) (next : σ → HandlerProgram σ E) (state : σ) {story : Story β σ}
      {r : Except Failure (Record E)} (h : Follows (next state) story r) :
      Follows (.host change next) (.host state change story) r

/-- The queue with more work at its end. -/
def Deferred.extend {α : Type} (queue : Deferred α) (more : List (String × α)) : Deferred α :=
  ⟨queue.actions ++ more⟩

@[simp] theorem Deferred.extend_nil {α : Type} (queue : Deferred α) : queue.extend [] = queue := by
  rw [extend, List.append_nil]

theorem Deferred.extend_extend {α : Type} (queue : Deferred α) (a b : List (String × α)) :
    (queue.extend a).extend b = queue.extend (a ++ b) := by
  rw [extend, extend, extend, List.append_assoc]

/-- What is left is a record as told, with the queue extended by what was put off. -/
def Queues (queue : DeferredWork σ) (A : Story β σ → Except Failure (Record E) → Prop)
    (story : Story β σ) (out : Except Failure (Record E × DeferredWork σ)) : Prop :=
  ∃ r, A story r ∧ out = r.map fun record => (record, queue.extend story.putOffs)

theorem Queues.error {queue : DeferredWork σ} {A : Story β σ → Except Failure (Record E) → Prop}
    {story : Story β σ} {failure : Failure} (h : Queues queue A story (.error failure)) :
    A story (.error failure) := by
  obtain ⟨r, hA, hout⟩ := h
  rw [map_eq_error.1 hout.symm] at hA
  exact hA

theorem Queues.ok {queue queue' : DeferredWork σ}
    {A : Story β σ → Except Failure (Record E) → Prop} {story : Story β σ} {after : Record E}
    (h : Queues queue A story (.ok (after, queue'))) :
    A story (.ok after) ∧ queue' = queue.extend story.putOffs := by
  obtain ⟨r, hA, hout⟩ := h
  cases r with
  | error failure => cases hout
  | ok record =>
    obtain ⟨rfl, rfl⟩ := Prod.mk.inj (Except.ok.inj hout)
    exact ⟨hA, rfl⟩

variable {engine : Engine β σ} {who : Holder}

theorem HandlerProgram.run_accounts (program : HandlerProgram σ E) (queue : DeferredWork σ) :
    Accounts engine who (program.run engine queue) (Queues queue program.Follows) := by
  induction program generalizing queue with
  | done result =>
    refine (Accounts.ofExcept _).mono fun story r hr => ?_
    obtain ⟨rfl, rfl⟩ := hr
    exact ⟨result, .done result, by rw [Story.putOffs, Deferred.extend_nil]⟩
  | call c next ih =>
    intro s hs
    obtain ⟨story, r, s', hplays, answer, hfollows, hr⟩ :=
      ih (engine.backend.call c s.world.backend).1 queue
        { s with world.backend := (engine.backend.call c s.world.backend).2 } hs
    let exchange : Exchange β :=
      ⟨s.world.backend, c, (engine.backend.call c s.world.backend).1,
        (engine.backend.call c s.world.backend).2⟩
    have hserved : (Story.call .program exchange story).Served engine.backend s.world.around
        s'.world.around := ⟨rfl, rfl, hplays.served⟩
    exact ⟨.call .program exchange story, r, s', ⟨hplays.run, hserved, hplays.holder⟩, answer,
      .call c next _ _ _ hfollows, hr⟩
  | defer label action next ih =>
    intro s hs
    obtain ⟨story, r, s', hplays, answer, hfollows, rfl⟩ := ih (queue.push label action) s hs
    refine ⟨.putOff label action story, _, s', ⟨hplays.run, hplays.served, hplays.holder⟩, answer,
      .defer label action hfollows, ?_⟩
    change _ = answer.map fun record => (record, queue.extend ([(label, action)] ++ story.putOffs))
    rw [← Deferred.extend_extend]
    rfl
  | host change next ih =>
    intro s hs
    obtain ⟨story, r, s', hplays, answer, hfollows, hr⟩ :=
      ih s.world.host queue { s with world.host := change s.world.host } hs
    have hserved : (Story.host s.world.host change story).Served engine.backend s.world.around
        s'.world.around := ⟨rfl, hplays.served⟩
    exact ⟨.host s.world.host change story, r, s', ⟨hplays.run, hserved, hplays.holder⟩, answer,
      .host change next s.world.host hfollows, hr⟩

/-- A handler runs none of the work that is put off. -/
theorem HandlerProgram.Follows.works_eq_nil {program : HandlerProgram σ E} {story : Story β σ}
    {r : Except Failure (Record E)} (h : program.Follows story r) : story.works = [] := by
  induction h with
  | done => rfl
  | call c next before after answer _ ih => exact ih
  | defer label action _ ih => exact ih
  | host change next state _ ih => exact ih

namespace Convergence

/-! ## A call and a dispatch -/

/-- What is traced when a handler is dispatched. -/
def dispatchEvent (handler : Handler σ E) (id : String) (mask : FieldMask)
    (before proposed : Record E) (skipped forced : Bool) : TraceEvent :=
  .callback E.name handler.name id skipped forced
    (ChangeSet.ofMask (handler.triggeredBy mask) (some before) proposed)

/-- What is traced when a handler has returned. -/
def returnEvent (handler : Handler σ E) (id : String) (proposed after : Record E) : TraceEvent :=
  .callbackComplete E.name handler.name id ⟨0, 0⟩ (ChangeSet.between proposed after)

/-- What is reported of a handler that changed the identifier. -/
def strayed (handler : Handler σ E) (id : String) : Failure :=
  .validation ("handler " ++ handler.qualifiedName ++ " changed the identifier of " ++ E.name ++
    " '" ++ id ++ "'")

/-- What a handler is called with in the sessions of a holder. -/
structure Context (who : Holder) (pass : Nat) (cx : HandlerContext) : Prop where
  tx : cx.tx = who.tx
  actor : cx.actor = who.actor
  pass : cx.pass = pass

/-- A call of a handler. If its function returns a record that is traced, whatever becomes of the
record. -/
inductive Called (who : Holder) (handler : Handler σ E) (id : String) (pass : Nat)
    (before proposed : Record E) : Story β σ → Except Failure (Record E) → Prop where
  | failed {cx : HandlerContext} (hcx : Context who pass cx) {told : Story β σ} {cause : Failure}
      (hfollows : (handler.function cx before proposed).Follows told (.error cause)) :
      Called who handler id pass before proposed told
        (.error (.handler handler.qualifiedName id cause))
  | returned {cx : HandlerContext} (hcx : Context who pass cx) {told : Story β σ}
      {after : Record E} (hfollows : (handler.function cx before proposed).Follows told (.ok after)) :
      Called who handler id pass before proposed
        (told ++ .note (returnEvent handler id proposed after) .nil)
        (if after.id = id then .ok after else .error (strayed handler id))

theorem invoke_accounts (handler : Handler σ E) (id : String) (pass : Nat)
    (before proposed : Record E) (queue : DeferredWork σ) :
    Accounts engine who (invoke engine handler id pass before proposed queue)
      (Queues queue (Called who handler id pass before proposed)) := by
  have hnote : Accounts engine who (noteRun E.name handler.name id) fun story r =>
      story = .nil ∧ r = .ok () :=
    .silent fun s => ⟨_, { s with session := marked handler id s.session }, fun _ => rfl, rfl, rfl,
      rfl, rfl⟩
  unfold invoke
  refine hnote.bind (fun _ _ h => by cases h.2) fun _ _ h => ?_
  obtain ⟨rfl, -⟩ := h
  refine Accounts.read_bind (g := fun session : Session =>
    (⟨session.tx, session.actor, session.options, pass⟩ : HandlerContext)) fun session hsession => ?_
  have hcx : Context who pass ⟨session.tx, session.actor, session.options, pass⟩ :=
    ⟨congrArg Holder.tx hsession, congrArg Holder.actor hsession, rfl⟩
  generalize (⟨session.tx, session.actor, session.options, pass⟩ : HandlerContext) = cx at hcx ⊢
  have hcall : Accounts engine who
      (((handler.function cx before proposed).run engine queue).adapt
        (Failure.handler handler.qualifiedName id)) fun story out => ∃ r,
          (handler.function cx before proposed).Follows story r ∧
            out = (r.mapError (Failure.handler handler.qualifiedName id)).map fun record =>
              (record, queue.extend story.putOffs) := by
    intro s hs
    have hrun : Accounts engine who ((handler.function cx before proposed).run engine queue)
        (Queues queue (handler.function cx before proposed).Follows) :=
      HandlerProgram.run_accounts _ queue
    obtain ⟨story, out, s', hplays, r, hfollows, rfl⟩ := hrun s hs
    refine ⟨story, _, s', ⟨fun sink => ?_, hplays.served, hplays.holder⟩, r, hfollows, rfl⟩
    rw [adapt_run, hplays.run]
    cases r <;> rfl
  refine hcall.bind ?_ ?_
  · rintro story failure ⟨r, hfollows, hout⟩
    cases r with
    | ok after => cases hout
    | error cause =>
      obtain rfl := Except.error.inj hout
      exact ⟨_, .failed hcx hfollows, rfl⟩
  rintro story ⟨after, queue'⟩ ⟨r, hfollows, hout⟩
  cases r with
  | error cause => cases hout
  | ok record =>
    obtain ⟨rfl, rfl⟩ := Prod.mk.inj (Except.ok.inj hout)
    have hreturned : Called who handler id pass before proposed _ _ := .returned hcx hfollows
    refine (Accounts.traceEvent (returnEvent handler id proposed after)).bind
      (fun _ _ h => by cases h.2) fun _ _ h => ?_
    obtain ⟨rfl, -⟩ := h
    by_cases hid : after.id = id
    · rw [if_neg (not_not_intro hid)]
      refine .pure ⟨_, hreturned, ?_⟩
      simp only [if_pos hid, Story.nil_append, Story.append_nil, Story.putOffs_append,
        Story.putOffs, List.append_nil]
      rfl
    · rw [if_pos hid]
      refine .throw ⟨_, hreturned, ?_⟩
      rw [if_neg hid]
      rfl

/-- A dispatch. A handler that no change calls for is passed over unless it is forced; one that is
skipped is traced but not called, unless it is forced as well. -/
inductive Dispatched (who : Holder) (handler : Handler σ E) (id : String) (pass : Nat)
    (mask : FieldMask) (before proposed : Record E) :
    Story β σ → Except Failure (Record E) → Prop where
  | passed (hquiet : (handler.triggeredBy mask).isEmpty = true) :
      Dispatched who handler id pass mask before proposed .nil (.ok proposed)
  | skipped (htriggered : (handler.triggeredBy mask).isEmpty = false) :
      Dispatched who handler id pass mask before proposed
        (.span (dispatchEvent handler id mask before proposed true false) .nil .nil) (.ok proposed)
  | called {skipped forced : Bool}
      (hcalls : forced = true ∨ (handler.triggeredBy mask).isEmpty = false ∧ skipped = false)
      {told : Story β σ} {r : Except Failure (Record E)}
      (hcalled : Called who handler id pass before proposed told r) :
      Dispatched who handler id pass mask before proposed
        (.span (dispatchEvent handler id mask before proposed skipped forced) told .nil) r

theorem dispatch_accounts (handler : Handler σ E) (id : String) (pass : Nat) (mask : FieldMask)
    (before proposed : Record E) (queue : DeferredWork σ) :
    Accounts engine who (dispatch engine handler id pass mask before proposed queue)
      (Queues queue (Dispatched who handler id pass mask before proposed)) := by
  intro s hs
  let start : Scope β σ := { s with session := consulted handler id s.session }
  cases hcalls : calls handler id mask s.session with
  | true =>
    have hinvoke : Accounts engine who (invoke engine handler id pass before proposed queue)
        (Queues queue (Called who handler id pass before proposed)) :=
      invoke_accounts _ _ _ _ _ _
    obtain ⟨told, out, s', hplays, r, hcalled, hout⟩ := hinvoke start hs
    have hspan := hplays.withSpan (dispatchEvent handler id mask before proposed
      (skips handler id s.session) (forces handler id s.session))
    have hreason : forces handler id s.session = true ∨
        (handler.triggeredBy mask).isEmpty = false ∧ skips handler id s.session = false := by
      unfold calls at hcalls
      simpa using hcalls
    refine ⟨_, out, s', ⟨fun sink => ?_, hspan.served, hspan.holder⟩, r, .called hreason hcalled, ?_⟩
    · exact (dispatch_of_calls (s := s.tracing sink) hcalls).trans (hspan.run sink)
    · rw [hout, Story.putOffs, Story.putOffs, List.append_nil]
  | false =>
    obtain ⟨hforces, hquiet | ⟨htriggered, hskips⟩⟩ := not_calls_cases hcalls
    · refine ⟨.nil, .ok (proposed, queue), start, ⟨fun sink => ?_, rfl, rfl⟩, _, .passed hquiet, ?_⟩
      · exact dispatch_of_quiet (s := s.tracing sink) hquiet hforces
      · rw [Story.putOffs, Deferred.extend_nil]
        rfl
    · let event := dispatchEvent handler id mask before proposed true false
      refine ⟨.span event .nil .nil, .ok (proposed, queue), start,
        ⟨fun sink => ?_, ⟨_, rfl, rfl⟩, rfl⟩, _, .skipped htriggered, ?_⟩
      · rw [dispatch_of_skipped (s := s.tracing sink) htriggered hskips hforces]
        rfl
      · simp only [Story.putOffs, List.append_nil, Deferred.extend_nil]
        rfl

/-! ## The dispatches of a pass -/

/-- Handlers are dispatched one after another, up to the first failure, each on the record that the
one before it left. -/
inductive DispatchedAll (who : Holder) (id : String) (pass : Nat) (mask : FieldMask)
    (before : Record E) :
    List (Handler σ E) → Record E → Story β σ → Except Failure (Record E) → Prop where
  | nil {proposed : Record E} : DispatchedAll who id pass mask before [] proposed .nil (.ok proposed)
  | stopped {handler : Handler σ E} {rest : List (Handler σ E)} {proposed : Record E}
      {told : Story β σ} {failure : Failure}
      (hfirst : Dispatched who handler id pass mask before proposed told (.error failure)) :
      DispatchedAll who id pass mask before (handler :: rest) proposed told (.error failure)
  | next {handler : Handler σ E} {rest : List (Handler σ E)} {proposed after : Record E}
      {told later : Story β σ} {r : Except Failure (Record E)}
      (hfirst : Dispatched who handler id pass mask before proposed told (.ok after))
      (hrest : DispatchedAll who id pass mask before rest after later r) :
      DispatchedAll who id pass mask before (handler :: rest) proposed (told ++ later) r

theorem dispatchAll_accounts (id : String) (pass : Nat) (mask : FieldMask) (before : Record E)
    (handlers : List (Handler σ E)) (proposed : Record E) (queue : DeferredWork σ) :
    Accounts engine who (dispatchAll engine id pass mask before handlers proposed queue)
      (Queues queue (DispatchedAll who id pass mask before handlers proposed)) := by
  induction handlers generalizing proposed queue with
  | nil => exact .pure ⟨_, .nil, by rw [Story.putOffs, Deferred.extend_nil]; rfl⟩
  | cons handler rest ih =>
    refine (dispatch_accounts handler id pass mask before proposed queue).bind
      (fun told failure h => ⟨_, .stopped h.error, rfl⟩) ?_
    rintro told ⟨after, queue'⟩ h
    obtain ⟨hfirst, rfl⟩ := h.ok
    refine (ih after _).mono fun later out hlater => ?_
    obtain ⟨r, hrest, rfl⟩ := hlater
    refine ⟨r, .next hfirst hrest, ?_⟩
    rw [Story.putOffs_append, Deferred.extend_extend]

/-! ## The passes of a run -/

/-- Passes follow one another, each with its story: none is due and the run has converged, or one is
due and none is left, or one is stopped, or it comes to its end and the run goes on. -/
inductive Converged (engine : Engine β σ) (who : Holder) (id : String) :
    Nat → Record E → Record E → Bool → Nat → List (Story β σ) → Except Failure (Record E) →
      Prop where
  | settled {pass : Nat} {baseline proposed : Record E} {forced : Bool} {left : Nat}
      (hdue : due baseline proposed forced = false) :
      Converged engine who id pass baseline proposed forced left [] (.ok proposed)
  | exhausted {pass : Nat} {baseline proposed : Record E} {forced : Bool}
      (hdue : due baseline proposed forced = true) :
      Converged engine who id pass baseline proposed forced 0 []
        (.error (.iterationLimit E.name id engine.config.maxPasses.toNat))
  | stopped {pass : Nat} {baseline proposed : Record E} {forced : Bool} {left : Nat}
      {told : Story β σ} {failure : Failure} (hdue : due baseline proposed forced = true)
      (hpass : DispatchedAll who id (pass + 1) (FieldMask.diff baseline proposed) baseline
        (engine.registry.handlers E) proposed told (.error failure)) :
      Converged engine who id pass baseline proposed forced (left + 1) [told] (.error failure)
  | passed {pass : Nat} {baseline proposed after : Record E} {forced : Bool} {left : Nat}
      {told : Story β σ} {later : List (Story β σ)} {r : Except Failure (Record E)}
      (hdue : due baseline proposed forced = true)
      (hpass : DispatchedAll who id (pass + 1) (FieldMask.diff baseline proposed) baseline
        (engine.registry.handlers E) proposed told (.ok after))
      (hrest : Converged engine who id (pass + 1) proposed after false left later r) :
      Converged engine who id pass baseline proposed forced (left + 1) (told :: later) r

/-- The passes after number `pass`, each within its span. -/
def iterations (entity id : String) : Nat → List (Story β σ) → Story β σ
  | _, [] => .nil
  | pass, told :: later =>
    .span (.iteration entity id (pass + 1)) told (iterations entity id (pass + 1) later)

theorem runFrom_accounts (id : String) (pass : Nat) (baseline proposed : Record E)
    (queue : DeferredWork σ) (forced : Bool) (left : Nat) :
    Accounts engine who (runFrom engine id pass baseline proposed queue forced left)
      fun story out => ∃ passes r, story = iterations E.name id pass passes ∧
        Converged engine who id pass baseline proposed forced left passes r ∧
          out.map (fun outcome => (outcome.record, outcome.queue)) =
            r.map fun record => (record, queue.extend story.putOffs) := by
  induction left generalizing pass baseline proposed queue forced with
  | zero =>
    cases hdue : due baseline proposed forced with
    | false =>
      rw [runFrom_of_not_due hdue]
      exact .pure ⟨[], _, rfl, .settled hdue, by rw [Story.putOffs, Deferred.extend_nil]; rfl⟩
    | true =>
      rw [runFrom_zero hdue]
      exact .throw ⟨[], _, rfl, .exhausted hdue, rfl⟩
  | succ left ih =>
    cases hdue : due baseline proposed forced with
    | false =>
      rw [runFrom_of_not_due hdue]
      exact .pure ⟨[], _, rfl, .settled hdue, by rw [Story.putOffs, Deferred.extend_nil]; rfl⟩
    | true =>
      rw [runFrom_succ hdue]
      have hpass : Accounts engine who (nextPass engine id pass baseline proposed queue)
          fun story out => ∃ told, story = iterations E.name id pass [told] ∧
            Queues queue (DispatchedAll who id (pass + 1) (FieldMask.diff baseline proposed)
              baseline (engine.registry.handlers E) proposed) told out := by
        refine .withSpan _ ?_
        exact (dispatchAll_accounts id (pass + 1) _ baseline _ proposed queue).mono
          fun told out h => ⟨told, rfl, h⟩
      refine hpass.bind ?_ ?_
      · rintro _ failure ⟨told, rfl, h⟩
        exact ⟨[told], _, rfl, .stopped hdue h.error, rfl⟩
      · rintro _ ⟨after, queue'⟩ ⟨told, rfl, h⟩
        obtain ⟨hfirst, rfl⟩ := h.ok
        refine (ih (pass + 1) proposed after _ false).mono fun later out hlater => ?_
        obtain ⟨passes, r, rfl, hrest, hout⟩ := hlater
        refine ⟨told :: passes, r, rfl, .passed hdue hfirst hrest, hout.trans ?_⟩
        simp only [iterations, Story.span_append, Story.nil_append, Story.putOffs,
          Deferred.extend_extend]

/-- A run of the handlers has passes within their spans, and leaves the queue of what was put off
in them. -/
theorem run_accounts (baseline proposed : Record E) (forceFirst : Bool) :
    Accounts engine who (run engine baseline proposed forceFirst) fun story out => ∃ passes r,
      story = iterations E.name proposed.id 0 passes ∧
        Converged engine who proposed.id 0 baseline proposed forceFirst
          engine.config.maxPasses.toNat passes r ∧
          out.map (fun outcome => (outcome.record, outcome.queue.actions)) =
            r.map fun record => (record, story.putOffs) := by
  refine (runFrom_accounts _ 0 baseline proposed .empty forceFirst _).mono fun story out h => ?_
  obtain ⟨passes, r, hstory, hconverged, hout⟩ := h
  refine ⟨passes, r, hstory, hconverged, ?_⟩
  have hactions := congrArg (Except.map fun left : Record E × DeferredWork σ =>
    (left.1, left.2.actions)) hout
  cases out <;> cases r <;> exact hactions

end Convergence

end RecordEngine
