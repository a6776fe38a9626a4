import RecordEngine.Proofs.Session.Calls
/-!
Convergence as a function of two records.

Handlers that look at nothing but the two records they are given make convergence a function: what
it answers depends neither on the store nor on the clock nor on what the session did before, as long
as the session skips and forces nothing. `Convergence.settle` is that function, written without any
state, and `run_yields` says that running the handlers of an engine computes it and leaves
everything a later operation could notice as it was.
-/

set_option autoImplicit false

namespace RecordEngine

variable {β σ α γ : Type} {E : EntityType}

/-! ## The function -/

/-- A handler that is a function of the record as the last pass began with it and the record as
proposed. -/
structure PureHandler (E : EntityType) where
  name : String
  trigger : Option FieldMask
  revise : Record E → Record E → Except Failure (Record E)

/-- The handler as an engine registers it. -/
def PureHandler.toHandler (σ : Type) (handler : PureHandler E) : Handler σ E :=
  ⟨handler.name, handler.trigger, fun _ before proposed => .done (handler.revise before proposed)⟩

namespace Convergence

/-- What one handler makes of a proposed record. -/
def settleOne (id : String) (mask : FieldMask) (before proposed : Record E)
    (handler : PureHandler E) : Except Failure (Record E) :=
  let named := handler.toHandler Unit
  if (named.triggeredBy mask).isEmpty then .ok proposed
  else do
    let after ← (handler.revise before proposed).mapError (.handler named.qualifiedName id)
    if after.id ≠ id then
      throw (.validation ("handler " ++ named.qualifiedName ++ " changed the identifier of " ++
        E.name ++ " '" ++ id ++ "'"))
    return after

/-- What a pass makes of a proposed record: one handler after another. -/
def settlePass (id : String) (mask : FieldMask) (before : Record E) :
    List (PureHandler E) → Record E → Except Failure (Record E)
  | [], proposed => .ok proposed
  | handler :: rest, proposed => do
    let proposed ← settleOne id mask before proposed handler
    settlePass id mask before rest proposed

/-- What passes make of a proposed record until one begins with nothing changed; `left` more of
`limit` are allowed. -/
def settleFrom (handlers : List (PureHandler E)) (id : String) (limit : Nat)
    (baseline proposed : Record E) (left : Nat) : Except Failure (Record E) :=
  let mask := FieldMask.diff baseline proposed
  if mask.isEmpty then .ok proposed
  else
    match left with
    | 0 => throw (.iterationLimit E.name id limit)
    | left + 1 => do
      let after ← settlePass id mask baseline handlers proposed
      settleFrom handlers id limit proposed after left

/-- What the handlers make of a proposed record, within so many passes. -/
def settle (handlers : List (PureHandler E)) (limit : Nat) (baseline proposed : Record E) :
    Except Failure (Record E) :=
  settleFrom handlers proposed.id limit baseline proposed limit

end Convergence

/-! ## Operations that nobody notices -/

/-- Two scopes in which a later operation does the same: only traces, identifiers made up, the state
of the host and the history of handlers may differ. -/
structure Scope.Alike (s s' : Scope β σ) : Prop where
  backend : s'.world.backend = s.world.backend
  clock : s'.world.clock = s.world.clock
  holder : s'.session.holder = s.session.holder
  overrides : s'.session.overrides = s.session.overrides

theorem Scope.Alike.refl (s : Scope β σ) : s.Alike s := ⟨rfl, rfl, rfl, rfl⟩

theorem Scope.Alike.trans {s s' s'' : Scope β σ} (h : s.Alike s') (h' : s'.Alike s'') :
    s.Alike s'' :=
  ⟨h'.backend.trans h.backend, h'.clock.trans h.clock, h'.holder.trans h.holder,
    h'.overrides.trans h.overrides⟩

/-- A session that skips and forces nothing. -/
def Session.Plain (session : Session) : Prop := session.overrides = .ofLists [] []

theorem Scope.Alike.plain {s s' : Scope β σ} (h : s.Alike s') (hs : s.session.Plain) :
    s'.session.Plain := h.overrides.trans hs

namespace SessionM

/-- In every plain session an operation has this result, and nobody notices it. -/
def Yields (m : SessionM β σ α) (result : Except Failure α) : Prop :=
  ∀ s : Scope β σ, s.session.Plain → (m.run s).1 = result ∧ s.Alike (m.run s).2

theorem Yields.pure (a : α) : Yields (Pure.pure a : SessionM β σ α) (.ok a) :=
  fun s _ => ⟨rfl, .refl s⟩

theorem Yields.throw (failure : Failure) :
    Yields (MonadExcept.throw failure : SessionM β σ α) (.error failure) :=
  fun s _ => ⟨rfl, .refl s⟩

theorem Yields.ofExcept (result : Except Failure α) :
    Yields (SessionM.ofExcept result : SessionM β σ α) result :=
  fun s _ => ⟨rfl, .refl s⟩

/-- A failure keeps the rest from being run. -/
theorem Yields.fail {m : SessionM β σ α} {failure : Failure} (h : Yields m (.error failure))
    (f : α → SessionM β σ γ) : Yields (m >>= f) (.error failure) := by
  intro s hs
  obtain ⟨hresult, halike⟩ := h s hs
  rw [run_bind]
  generalize m.run s = out at hresult halike
  obtain ⟨answer, s'⟩ := out
  subst hresult
  exact ⟨rfl, halike⟩

/-- An operation that goes well, before another. -/
theorem Yields.after {m : SessionM β σ α} {a : α} {f : α → SessionM β σ γ}
    {result : Except Failure γ} (h : Yields m (.ok a)) (hf : Yields (f a) result) :
    Yields (m >>= f) result := by
  intro s hs
  obtain ⟨hresult, halike⟩ := h s hs
  rw [run_bind]
  generalize m.run s = out at hresult halike
  obtain ⟨answer, s'⟩ := out
  subst hresult
  obtain ⟨hresult', halike'⟩ := hf s' (halike.plain hs)
  exact ⟨hresult', halike.trans halike'⟩

/-- Reading the scope is not noticed either; what is read may be anything. -/
theorem Yields.read_bind {f : Scope β σ → α} {g : α → SessionM β σ γ} {result : Except Failure γ}
    (h : ∀ a, Yields (g a) result) : Yields (SessionM.read f >>= g) result :=
  fun s hs => h (f s) s hs

theorem Yields.withSpan {m : SessionM β σ α} {result : Except Failure α} (h : Yields m result)
    (event : TraceEvent) : Yields (SessionM.withSpan event m) result := by
  intro s hs
  obtain ⟨hresult, hbackend, hclock, hholder, hoverrides⟩ :=
    h { s with world := { s.world with trace := (s.world.trace.enter event).2 } } hs
  exact ⟨hresult, hbackend, hclock, hholder, hoverrides⟩

theorem Yields.adapt {m : SessionM β σ α} {result : Except Failure α} (h : Yields m result)
    (f : Failure → Failure) : Yields (m.adapt f) (result.mapError f) := by
  intro s hs
  obtain ⟨hresult, halike⟩ := h s hs
  rw [adapt_run, hresult]
  exact ⟨rfl, halike⟩

theorem Yields.traceEvent (event : TraceEvent) :
    Yields (SessionM.traceEvent event : SessionM β σ Unit) (.ok ()) :=
  fun _ _ => ⟨rfl, rfl, rfl, rfl, rfl⟩

theorem Yields.noteRun (entity handler id : String) :
    Yields (SessionM.noteRun entity handler id : SessionM β σ Unit) (.ok ()) :=
  fun _ _ => ⟨rfl, rfl, rfl, rfl, rfl⟩

/-- A plain session skips no handler. -/
theorem Yields.consumeSkip (entity handler id : String) :
    Yields (SessionM.consumeSkip entity handler id : SessionM β σ Bool) (.ok false) := by
  rintro ⟨world, tx, actor, options, overrides, history⟩ hs
  obtain rfl : overrides = .ofLists [] [] := hs
  exact ⟨rfl, rfl, rfl, rfl, rfl⟩

/-- A plain session forces no handler. -/
theorem Yields.consumeForce (entity handler id : String) :
    Yields (SessionM.consumeForce entity handler id : SessionM β σ Bool) (.ok false) := by
  rintro ⟨world, tx, actor, options, overrides, history⟩ hs
  obtain rfl : overrides = .ofLists [] [] := hs
  unfold SessionM.consumeForce
  -- A handler that has run before is not asked about; otherwise the empty list of forced ones is.
  by_cases hran : history.contains entity handler id
  · simp only [ExceptT.run, hran, if_true]
    exact ⟨trivial, .refl _⟩
  · simp only [ExceptT.run, hran]
    exact ⟨rfl, rfl, rfl, rfl, rfl⟩

end SessionM

/-! ## Convergence computes the function -/

namespace Convergence

open SessionM

variable {engine : Engine β σ}

theorem forcePending_of_plain {session : Session} (h : session.Plain) (engine : Engine β σ)
    (E : EntityType) (id : String) : forcePending engine E session id = false := by
  simp [forcePending, show session.overrides = _ from h, Overrides.ofLists, SelectorList.accepts]

/-- A handler that is called because of a changed field makes of the record what it is said to. -/
theorem invoke_yields (handler : PureHandler E) (id : String) (pass : Nat) {mask : FieldMask}
    (before proposed : Record E) (queue : DeferredWork σ)
    (htriggered : ¬ ((handler.toHandler Unit).triggeredBy mask).isEmpty) :
    Yields (invoke engine (handler.toHandler σ) id pass before proposed queue)
      ((settleOne id mask before proposed handler).map (·, queue)) := by
  unfold invoke settleOne
  rw [if_neg htriggered]
  refine (Yields.noteRun _ _ _).after (Yields.read_bind fun cx => ?_)
  -- The program of a pure handler is its result: no call, no deferred work, the queue as it was.
  change Yields ((SessionM.ofExcept ((handler.revise before proposed).map (·, queue))).adapt
    (.handler (handler.toHandler σ).qualifiedName id) >>= _) _
  cases handler.revise before proposed with
  | error failure => exact (Yields.adapt (.ofExcept _) _).fail _
  | ok after =>
    refine Yields.after (Yields.adapt (.ofExcept (.ok (after, queue))) _) ?_
    refine (Yields.traceEvent _).after ?_
    change Yields _ (Except.map (·, queue) (if after.id ≠ id then _ else _))
    by_cases hid : after.id ≠ id
    · rw [if_pos hid, if_pos hid]
      exact (Yields.throw _).fail _
    · rw [if_neg hid, if_neg hid]
      exact .pure _

theorem dispatch_yields (handler : PureHandler E) (id : String) (pass : Nat) (mask : FieldMask)
    (before proposed : Record E) (queue : DeferredWork σ) :
    Yields (dispatch engine (handler.toHandler σ) id pass mask before proposed queue)
      ((settleOne id mask before proposed handler).map (·, queue)) := by
  unfold dispatch
  refine (Yields.consumeSkip _ _ _).after ((Yields.consumeForce _ _ _).after ?_)
  have htrigger : (handler.toHandler σ).triggeredBy mask =
      (handler.toHandler Unit).triggeredBy mask := rfl
  rw [htrigger]
  by_cases hquiet : ((handler.toHandler Unit).triggeredBy mask).isEmpty
  · rw [if_pos (by simpa using hquiet), settleOne, if_pos hquiet]
    exact .pure _
  · rw [if_neg (by simpa using hquiet)]
    exact (invoke_yields handler id pass before proposed queue hquiet).withSpan _

/-- A pass computes `settlePass`. -/
theorem dispatchAll_yields (handlers : List (PureHandler E)) (id : String) (pass : Nat)
    (mask : FieldMask) (before proposed : Record E) (queue : DeferredWork σ) :
    Yields (dispatchAll engine id pass mask before (handlers.map (·.toHandler σ)) proposed queue)
      ((settlePass id mask before handlers proposed).map (·, queue)) := by
  induction handlers generalizing proposed with
  | nil => exact .pure _
  | cons handler rest ih =>
    have hfirst : Yields (dispatch engine _ id pass mask before proposed queue) _ :=
      dispatch_yields handler id pass mask before proposed queue
    rw [List.map_cons, dispatchAll, settlePass]
    cases hone : settleOne id mask before proposed handler with
    | error failure =>
      rw [hone] at hfirst
      exact hfirst.fail _
    | ok after =>
      rw [hone] at hfirst
      exact hfirst.after (ih after)

/-- Passes compute `settleFrom`, however many there were before. -/
theorem runFrom_yields {handlers : List (PureHandler E)}
    (hhandlers : engine.registry.handlers E = handlers.map (·.toHandler σ)) (id : String)
    (pass : Nat) (baseline proposed : Record E) (queue : DeferredWork σ) (left : Nat) :
    ∃ passes, Yields (runFrom engine id pass baseline proposed queue false left)
      ((settleFrom handlers id engine.config.maxPasses.toNat baseline proposed left).map
        fun record => ⟨passes, record, queue⟩) := by
  induction left generalizing pass baseline proposed with
  | zero =>
    unfold runFrom settleFrom
    by_cases hmask : (FieldMask.diff baseline proposed).isEmpty
    · simp only [hmask, Bool.not_false, Bool.and_self, if_true]
      exact ⟨pass, .pure _⟩
    · simp only [hmask, Bool.false_and, Bool.false_eq_true, if_false]
      exact ⟨pass, .throw _⟩
  | succ left ih =>
    unfold runFrom settleFrom
    by_cases hmask : (FieldMask.diff baseline proposed).isEmpty
    · simp only [hmask, Bool.not_false, Bool.and_self, if_true]
      exact ⟨pass, .pure _⟩
    · simp only [hmask, Bool.false_and, Bool.false_eq_true, if_false, hhandlers]
      -- One more pass of the handlers, then the passes that are left on what it made.
      have hpass : Yields (dispatchAll engine id (pass + 1) (FieldMask.diff baseline proposed)
          baseline (handlers.map (·.toHandler σ)) proposed queue) _ :=
        dispatchAll_yields handlers id (pass + 1) _ baseline proposed queue
      cases hafter :
        settlePass id (FieldMask.diff baseline proposed) baseline handlers proposed with
      | error failure =>
        rw [hafter] at hpass
        exact ⟨pass, (hpass.withSpan _).fail _⟩
      | ok after =>
        rw [hafter] at hpass
        obtain ⟨passes, hrest⟩ := ih (pass + 1) proposed after
        exact ⟨passes, (hpass.withSpan _).after hrest⟩

/-- Running the handlers computes `settle`. -/
theorem run_yields {handlers : List (PureHandler E)}
    (hhandlers : engine.registry.handlers E = handlers.map (·.toHandler σ))
    (baseline proposed : Record E) :
    ∃ passes, Yields (run engine baseline proposed false)
      ((settle handlers engine.config.maxPasses.toNat baseline proposed).map
        fun record => ⟨passes, record, .empty⟩) :=
  runFrom_yields hhandlers proposed.id 0 baseline proposed .empty _

end Convergence

end RecordEngine
