import RecordEngine.Proofs.Session.Calls
/-!
One handler's turn in a pass.

Whether a handler is called is decided before anything of it runs, by the fields that changed, the
two lists of the session and its history: `calls` is that decision. A handler that is not called
leaves everything to the ones after it, and one that is called leaves its mark in the history, in
whatever way it ends. `dispatch_cases` says all of this at once, and what is proved of passes rests
on it and not on the text of `dispatch`.
-/

set_option autoImplicit false

namespace RecordEngine

variable {β σ α : Type} {E : EntityType} {engine : Engine β σ}

/-! ## What a handler asks for -/

namespace HandlerProgram

/-- However it is answered, the program fails or leaves a record with a property. -/
def Ends (P : Record E → Prop) : HandlerProgram σ E → Prop
  | .done (.error _) => True
  | .done (.ok record) => P record
  | .call _ next => ∀ answer, (next answer).Ends P
  | .defer _ _ next => next.Ends P
  | .host _ next => ∀ state, (next state).Ends P

theorem Ends.of_run {P : Record E → Prop} {program : HandlerProgram σ E} (h : program.Ends P)
    {queue queue' : DeferredWork σ} {s : Scope β σ} {after : Record E}
    (hrun : ((program.run engine queue).run s).1 = .ok (after, queue')) : P after := by
  induction program generalizing queue s with
  | done result =>
    cases result with
    | error failure => cases hrun
    | ok record =>
      obtain ⟨rfl, -⟩ := Prod.mk.inj (Except.ok.inj hrun)
      exact h
  | call c next ih => exact ih _ (h _) hrun
  | defer label action next ih => exact ih h hrun
  | host change next ih => exact ih _ (h _) hrun

/-- A handler sees its session but does not change it. -/
theorem run_session (program : HandlerProgram σ E) (queue : DeferredWork σ) (s : Scope β σ) :
    ((program.run engine queue).run s).2.session = s.session := by
  induction program generalizing queue s with
  | done result => rfl
  | call c next ih => exact ih _ _ _
  | defer label action next ih => exact ih _ _
  | host change next ih => exact ih _ _ _

/-- Of the engine only the backend counts. -/
theorem run_congr {engine' : Engine β σ} (h : engine'.backend = engine.backend)
    (program : HandlerProgram σ E) (queue : DeferredWork σ) :
    program.run engine' queue = program.run engine queue := by
  induction program generalizing queue with
  | done result => rfl
  | call c next ih =>
    funext s
    simp only [run, h, ih]
  | defer label action next ih => exact ih _
  | host change next ih =>
    funext s
    simp only [run, ih]

end HandlerProgram

/-! ## Lists that are used up, and the history -/

namespace Selector

variable {selector : Selector} {entity handler id spent : String}

@[simp] theorem spend_once (selector : Selector) (id : String) :
    (selector.spend id).once = selector.once := by
  unfold spend
  split <;> rfl

@[simp] theorem spend_selects (selector : Selector) (spent entity handler id : String) :
    (selector.spend spent).selects entity handler id = selector.selects entity handler id := by
  unfold spend
  split <;> rfl

theorem spend_of_lasts (h : selector.once = false) (id : String) : selector.spend id = selector :=
  if_neg (by rw [h]; decide)

theorem consumed_spend (selector : Selector) (id other : String) :
    (selector.spend id).consumed.contains other =
      (selector.consumed.contains other || selector.once && other == id) := by
  unfold spend
  split
  · next honce => rw [TextSet.contains_insert, honce, Bool.true_and, Bool.or_comm]
  · next honce => rw [Bool.eq_false_iff.2 honce, Bool.false_and, Bool.or_false]

/-- A selector that has worked for a record and works only once has been used up for it. -/
theorem isConsumed_spend (selector : Selector) (id other : String) :
    (selector.spend id).isConsumed other =
      (selector.isConsumed other || selector.once && other == id) := by
  rw [isConsumed, isConsumed, spend_once, consumed_spend]
  cases selector.once <;> rfl

theorem accepts_of_spend (h : (selector.spend spent).accepts entity handler id = true) :
    selector.accepts entity handler id = true := by
  rw [accepts, spend_selects, isConsumed_spend, Bool.not_or, ← Bool.and_assoc,
    Bool.and_eq_true] at h
  exact h.1

end Selector

namespace SelectorList

theorem consume_fst (list : SelectorList) (entity handler id : String) :
    (list.consume entity handler id).1 = list.accepts entity handler id := by
  obtain ⟨selectors⟩ := list
  change (consumeFirst entity handler id selectors).1 = selectors.any (·.accepts entity handler id)
  induction selectors with
  | nil => rfl
  | cons selector rest ih =>
    rw [consumeFirst, List.any_cons, ← ih]
    cases selector.accepts entity handler id <;> rfl

/-- A list that does not accept stays as it is. -/
theorem consume_of_not_accepts {list : SelectorList} {entity handler id : String}
    (h : list.accepts entity handler id = false) : (list.consume entity handler id).2 = list := by
  obtain ⟨selectors⟩ := list
  refine congrArg SelectorList.mk ?_
  change (consumeFirst entity handler id selectors).2 = selectors
  change selectors.any (·.accepts entity handler id) = false at h
  induction selectors with
  | nil => rfl
  | cons selector rest ih =>
    rw [List.any_cons, Bool.or_eq_false_iff] at h
    rw [consumeFirst, if_neg (by rw [h.1]; decide)]
    exact congrArg (selector :: ·) (ih h.2)

/-- A list accepts no more after it was used than before. -/
theorem accepts_of_consume {list : SelectorList} {entity handler id entity' handler' id' : String}
    (h : (list.consume entity' handler' id').2.accepts entity handler id = true) :
    list.accepts entity handler id = true := by
  obtain ⟨selectors⟩ := list
  change (consumeFirst entity' handler' id' selectors).2.any (·.accepts entity handler id) = true
    at h
  change selectors.any (·.accepts entity handler id) = true
  induction selectors with
  | nil => exact h
  | cons selector rest ih =>
    rw [consumeFirst] at h
    rw [List.any_cons, Bool.or_eq_true]
    split at h
    · rw [List.any_cons, Bool.or_eq_true] at h
      exact h.imp_left Selector.accepts_of_spend
    · rw [List.any_cons, Bool.or_eq_true] at h
      exact h.imp_right ih

end SelectorList

theorem History.contains_record (history : History) (entity handler id : String)
    (entity' handler' id' : String) :
    (history.record entity handler id).contains entity' handler' id' =
      (history.contains entity' handler' id' ||
        (⟨entity', handler', id'⟩ : HistoryEntry) == ⟨entity, handler, id⟩) := by
  unfold record
  split
  · next hran =>
    cases hsame : (⟨entity', handler', id'⟩ : HistoryEntry) == ⟨entity, handler, id⟩ with
    | false => rw [Bool.or_false]
    | true =>
      rw [contains, eq_of_beq hsame, Bool.or_true]
      exact hran
  · rw [contains, contains, Bool.eq_iff_iff]
    simp

/-! ## The decision -/

namespace Convergence

/-- Whether the skip list selects a handler. -/
def skips (handler : Handler σ E) (id : String) (session : Session) : Bool :=
  (session.overrides.skip.consume E.name handler.name id).1

/-- Whether a handler is forced: it has not run on the record yet and the force list selects it. -/
def forces (handler : Handler σ E) (id : String) (session : Session) : Bool :=
  !session.history.contains E.name handler.name id &&
    (session.overrides.force.consume E.name handler.name id).1

/-- Whether a handler is called when these fields have changed. -/
def calls (handler : Handler σ E) (id : String) (mask : FieldMask) (session : Session) : Bool :=
  forces handler id session ||
    !(handler.triggeredBy mask).isEmpty && !skips handler id session

/-- The session after both lists were asked about a handler. -/
def consulted (handler : Handler σ E) (id : String) (session : Session) : Session :=
  { session with overrides :=
    { skip := (session.overrides.skip.consume E.name handler.name id).2
      force :=
        if session.history.contains E.name handler.name id then session.overrides.force
        else (session.overrides.force.consume E.name handler.name id).2 } }

/-- The session after a handler was called. -/
def marked (handler : Handler σ E) (id : String) (session : Session) : Session :=
  { session with history := session.history.record E.name handler.name id }

variable {handler : Handler σ E} {id : String} {pass : Nat} {mask : FieldMask}
  {before proposed : Record E} {queue : DeferredWork σ} {s : Scope β σ}

/-- Both lists are asked, one after the other, before anything is decided. -/
theorem consult_run {f : Bool → Bool → SessionM β σ α} :
    (do
      let skipped ← SessionM.consumeSkip E.name handler.name id
      let forced ← SessionM.consumeForce E.name handler.name id
      f skipped forced : SessionM β σ α).run s =
      (f (skips handler id s.session) (forces handler id s.session)).run
        { s with session := consulted handler id s.session } := by
  obtain ⟨world, session⟩ := s
  have hforce (s' : Scope β σ) :
      (SessionM.consumeForce E.name handler.name id).run s' =
        (if s'.session.history.contains E.name handler.name id then (.ok false, s')
        else (.ok (s'.session.overrides.force.consume E.name handler.name id).1,
          { s' with session.overrides.force :=
            (s'.session.overrides.force.consume E.name handler.name id).2 })) := rfl
  rw [SessionM.run_bind]
  change ((SessionM.consumeForce E.name handler.name id >>= f (skips handler id session)).run _) = _
  rw [SessionM.run_bind, hforce]
  by_cases hran : session.history.contains E.name handler.name id = true
  · simp only [forces, consulted, hran, if_true, Bool.not_true, Bool.false_and]
    rfl
  · rw [Bool.not_eq_true] at hran
    simp only [forces, consulted, hran, Bool.not_false, Bool.true_and]
    rfl

/-- A handler that is called is called within a span, in the session as the lists left it. -/
theorem dispatch_of_calls (h : calls handler id mask s.session = true) :
    (dispatch engine handler id pass mask before proposed queue).run s =
      (SessionM.withSpan
        (.callback E.name handler.name id (skips handler id s.session)
          (forces handler id s.session)
          (ChangeSet.ofMask (handler.triggeredBy mask) (some before) proposed))
        (invoke engine handler id pass before proposed queue)).run
          { s with session := consulted handler id s.session } := by
  rw [dispatch, consult_run]
  unfold calls at h
  generalize forces handler id s.session = forced at h ⊢
  generalize skips handler id s.session = skipped at h ⊢
  generalize (handler.triggeredBy mask).isEmpty = quiet at h ⊢
  cases forced <;> cases skipped <;> cases quiet <;> first
    | rfl
    | cases h

/-- A handler that no change calls for and that is not forced is passed over. -/
theorem dispatch_of_quiet (hquiet : (handler.triggeredBy mask).isEmpty = true)
    (hforces : forces handler id s.session = false) :
    (dispatch engine handler id pass mask before proposed queue).run s =
      (.ok (proposed, queue), { s with session := consulted handler id s.session }) := by
  rw [dispatch, consult_run, hquiet, hforces]
  rfl

/-- A handler that a change calls for but that is skipped, and not forced, leaves an empty span. -/
theorem dispatch_of_skipped (htriggered : (handler.triggeredBy mask).isEmpty = false)
    (hskips : skips handler id s.session = true) (hforces : forces handler id s.session = false) :
    (dispatch engine handler id pass mask before proposed queue).run s =
      (SessionM.withSpan
        (.callback E.name handler.name id true false
          (ChangeSet.ofMask (handler.triggeredBy mask) (some before) proposed))
        (pure (proposed, queue))).run
          { s with session := consulted handler id s.session } := by
  rw [dispatch, consult_run, htriggered, hskips, hforces]
  rfl

/-- A handler is not called either because no change calls for it or because it is skipped. -/
theorem not_calls_cases (h : calls handler id mask s.session = false) :
    forces handler id s.session = false ∧
      ((handler.triggeredBy mask).isEmpty = true ∨
        (handler.triggeredBy mask).isEmpty = false ∧ skips handler id s.session = true) := by
  unfold calls at h
  generalize (handler.triggeredBy mask).isEmpty = quiet at h ⊢
  rw [Bool.or_eq_false_iff] at h
  refine ⟨h.1, ?_⟩
  cases quiet with
  | true => exact .inl rfl
  | false => exact .inr ⟨rfl, by simpa using h.2⟩

/-- A handler that is not called leaves the proposed record and the queue to those after it; at
most it is traced. -/
theorem dispatch_of_not_calls (h : calls handler id mask s.session = false) :
    ∃ trace, (dispatch engine handler id pass mask before proposed queue).run s =
      (.ok (proposed, queue),
        { world := { s.world with trace }, session := consulted handler id s.session }) := by
  obtain ⟨hforces, hquiet | ⟨htriggered, hskips⟩⟩ := not_calls_cases h
  · exact ⟨_, dispatch_of_quiet hquiet hforces⟩
  · exact ⟨_, dispatch_of_skipped htriggered hskips hforces⟩

/-! ## The call -/

/-- The ways a call ends. Its own failure is wrapped; a record it leaves is passed on if it still
has the identifier, and refused if not. -/
inductive Returned (handler : Handler σ E) (id : String) (before proposed : Record E) :
    Except Failure (Record E × DeferredWork σ) → Prop where
  | failed (cause : Failure) :
    Returned handler id before proposed (.error (.handler handler.qualifiedName id cause))
  | left (after : Record E) (queue : DeferredWork σ)
    (hends : ∀ P, (∀ cx, (handler.function cx before proposed).Ends P) → P after)
    (hid : after.id = id) : Returned handler id before proposed (.ok (after, queue))
  | strayed (after : Record E) (detail : String)
    (hends : ∀ P, (∀ cx, (handler.function cx before proposed).Ends P) → P after)
    (hid : after.id ≠ id) : Returned handler id before proposed (.error (.validation detail))

theorem invoke_returned {result : Except Failure (Record E × DeferredWork σ)} {s' : Scope β σ}
    (hrun : (invoke engine handler id pass before proposed queue).run s = (result, s')) :
    s'.session = marked handler id s.session ∧ Returned handler id before proposed result := by
  let cx : HandlerContext :=
    { tx := s.session.tx, actor := s.session.actor, options := s.session.options, pass }
  let program := handler.function cx before proposed
  let start : Scope β σ := { s with session := marked handler id s.session }
  have hsession : ((program.run engine queue).run start).2.session = start.session :=
    program.run_session queue start
  have hends {after : Record E} {queue' : DeferredWork σ}
      (hafter : ((program.run engine queue).run start).1 = .ok (after, queue'))
      (P : Record E → Prop) (h : ∀ cx, (handler.function cx before proposed).Ends P) : P after :=
    (h cx).of_run hafter
  unfold invoke at hrun
  rw [SessionM.run_bind] at hrun
  change ((program.run engine queue).adapt (Failure.handler handler.qualifiedName id) >>= _).run
    start = _ at hrun
  rw [SessionM.run_bind, SessionM.adapt_run] at hrun
  generalize (program.run engine queue).run start = out at hrun hsession hends
  obtain ⟨answer, s₁⟩ := out
  cases answer with
  | error cause =>
    obtain ⟨rfl, rfl⟩ := Prod.mk.inj hrun
    exact ⟨hsession, .failed cause⟩
  | ok pair =>
    obtain ⟨after, queue'⟩ := pair
    -- The trace of what the call changed comes before the look at the identifier.
    change (ite (after.id ≠ id) _ _ : SessionM β σ (Record E × DeferredWork σ)).run
      { s₁ with world := { s₁.world with trace := s₁.world.trace.add _ } } = _ at hrun
    by_cases hid : after.id = id
    · rw [if_neg (not_not_intro hid)] at hrun
      obtain ⟨rfl, rfl⟩ := Prod.mk.inj hrun
      exact ⟨hsession, .left after queue' (hends rfl) hid⟩
    · rw [if_pos hid] at hrun
      obtain ⟨rfl, rfl⟩ := Prod.mk.inj hrun
      exact ⟨hsession, .strayed after _ (hends rfl) hid⟩

/-- All that a turn can do: nothing but use up what the lists hold, or a call. -/
theorem dispatch_cases {result : Except Failure (Record E × DeferredWork σ)} {s' : Scope β σ}
    (hrun : (dispatch engine handler id pass mask before proposed queue).run s = (result, s')) :
    (calls handler id mask s.session = false ∧ result = .ok (proposed, queue) ∧
        s'.session = consulted handler id s.session) ∨
      (calls handler id mask s.session = true ∧ Returned handler id before proposed result ∧
        s'.session = marked handler id (consulted handler id s.session)) := by
  cases hcalls : calls handler id mask s.session with
  | false =>
    obtain ⟨trace, hquiet⟩ : ∃ trace,
        (dispatch engine handler id pass mask before proposed queue).run s =
          (.ok (proposed, queue),
            { world := { s.world with trace }, session := consulted handler id s.session }) :=
      dispatch_of_not_calls hcalls
    obtain ⟨rfl, rfl⟩ := Prod.mk.inj (hquiet.symm.trans hrun)
    exact .inl ⟨rfl, rfl, rfl⟩
  | true =>
    rw [dispatch_of_calls hcalls] at hrun
    obtain ⟨rfl, rfl⟩ := Prod.mk.inj hrun
    -- The span around the call touches the trace only.
    obtain ⟨hsession, hreturned⟩ := invoke_returned (Prod.eta _).symm
    exact .inr ⟨rfl, hreturned, hsession⟩

/-! ## What is used up stays used up -/

section Spent

variable {other : Handler σ E} {session : Session}

theorem forces_eq : forces handler id session =
    (!session.history.contains E.name handler.name id &&
      session.overrides.force.accepts E.name handler.name id) := by
  rw [forces, SelectorList.consume_fst]

theorem forces_consulted (h : forces handler id session = false) :
    forces handler id (consulted other id session) = false := by
  by_contra hforces
  rw [Bool.not_eq_false, forces_eq, Bool.and_eq_true] at hforces
  obtain ⟨hfresh, haccepts⟩ := hforces
  have hbefore : session.overrides.force.accepts E.name handler.name id = true := by
    unfold consulted at haccepts
    dsimp only at haccepts
    split at haccepts
    · exact haccepts
    · exact SelectorList.accepts_of_consume haccepts
  rw [forces_eq, hbefore, Bool.and_true] at h
  exact Bool.false_ne_true (h.symm.trans hfresh)

theorem forces_marked (h : forces handler id session = false) :
    forces handler id (marked other id session) = false := by
  rw [forces_eq] at h ⊢
  rw [marked, History.contains_record, Bool.not_or, Bool.and_right_comm, h, Bool.false_and]

theorem forces_marked_self : forces handler id (marked handler id session) = false := by
  rw [forces_eq, marked, History.contains_record, beq_self_eq_true, Bool.or_true]
  rfl

/-- A handler that is not forced now will not be later. -/
theorem forces_of_dispatch {result : Except Failure (Record E × DeferredWork σ)} {s' : Scope β σ}
    (hrun : (dispatch engine handler id pass mask before proposed queue).run s = (result, s'))
    (h : forces other id s.session = false) : forces other id s'.session = false := by
  rcases dispatch_cases hrun with ⟨-, -, hsession⟩ | ⟨-, -, hsession⟩
  · rw [hsession]
    exact forces_consulted h
  · rw [hsession]
    exact forces_marked (forces_consulted h)

/-- After its turn a handler is not forced: either it has run, or the force list did not select
it. -/
theorem forces_of_own_dispatch {result : Except Failure (Record E × DeferredWork σ)}
    {s' : Scope β σ}
    (hrun : (dispatch engine handler id pass mask before proposed queue).run s = (result, s')) :
    forces handler id s'.session = false := by
  rcases dispatch_cases hrun with ⟨hcalls, -, hsession⟩ | ⟨-, -, hsession⟩
  · rw [hsession]
    rw [calls, Bool.or_eq_false_iff] at hcalls
    exact forces_consulted hcalls.1
  · rw [hsession]
    exact forces_marked_self

end Spent

/-! ## Of the engine only handlers and backend count -/

variable {engine' : Engine β σ}

theorem dispatch_congr (h : engine'.backend = engine.backend) :
    dispatch engine' handler id pass mask before proposed queue =
      dispatch engine handler id pass mask before proposed queue := by
  simp only [dispatch, invoke, HandlerProgram.run_congr h]

theorem dispatchAll_congr (h : engine'.backend = engine.backend) (handlers : List (Handler σ E)) :
    dispatchAll engine' id pass mask before handlers proposed queue =
      dispatchAll engine id pass mask before handlers proposed queue := by
  induction handlers generalizing proposed queue with
  | nil => rfl
  | cons handler rest ih => simp only [dispatchAll, dispatch_congr h, ih]

end Convergence

end RecordEngine
