import Mathlib.Data.List.Forall2
import RecordEngine.Proofs.Convergence.Dispatch
import RecordEngine.Proofs.Session.Invariant
/-!
Handlers at work on one record.

All operations of a session share its lists of selectors and its history, and a selector without
identifiers is meant for every record. What keeps the records apart is that both are asked about one
record at a time. `Session.AgreesOn` says that two sessions have the same answers about a record,
and an operation is `Inward` if it cannot tell such sessions apart and leaves the answers about all
other records as they are. Convergence is, when its handlers are functions of what they are given.
-/

set_option autoImplicit false

namespace RecordEngine

variable {β σ α γ : Type} {E : EntityType} {id other : String}

/-! ## Selectors -/

namespace Selector

/-- Two selectors that differ at most in what other records they have worked for. -/
structure AgreesOn (id : String) (a b : Selector) : Prop where
  entity : b.entity = a.entity
  handler : b.handler = a.handler
  ids : b.ids = a.ids
  once : b.once = a.once
  consumed : b.isConsumed id = a.isConsumed id

variable {a b c : Selector}

theorem AgreesOn.refl (id : String) (a : Selector) : a.AgreesOn id a := ⟨rfl, rfl, rfl, rfl, rfl⟩

theorem AgreesOn.trans (h : a.AgreesOn id b) (h' : b.AgreesOn id c) : a.AgreesOn id c where
  entity := h'.entity.trans h.entity
  handler := h'.handler.trans h.handler
  ids := h'.ids.trans h.ids
  once := h'.once.trans h.once
  consumed := h'.consumed.trans h.consumed

theorem AgreesOn.accepts (h : a.AgreesOn id b) (entity handler : String) :
    b.accepts entity handler id = a.accepts entity handler id := by
  simp only [Selector.accepts, selects, h.entity, h.handler, h.ids, h.consumed]

/-- A selector that has worked selects what it did. -/
theorem static_spend (a : Selector) (id : String) :
    (a.spend id).entity = a.entity ∧ (a.spend id).handler = a.handler ∧
      (a.spend id).ids = a.ids ∧ (a.spend id).once = a.once := by
  unfold spend
  split <;> exact ⟨rfl, rfl, rfl, rfl⟩

theorem agreesOn_spend_of_ne (a : Selector) (hne : other ≠ id) : a.AgreesOn other (a.spend id) := by
  obtain ⟨hentity, hhandler, hids, honce⟩ := a.static_spend id
  refine ⟨hentity, hhandler, hids, honce, ?_⟩
  rw [isConsumed_spend, beq_false_of_ne hne, Bool.and_false, Bool.or_false]

theorem AgreesOn.spend (h : a.AgreesOn id b) : (a.spend id).AgreesOn id (b.spend id) := by
  obtain ⟨hentity, hhandler, hids, honce⟩ := a.static_spend id
  obtain ⟨hentity', hhandler', hids', honce'⟩ := b.static_spend id
  refine ⟨?_, ?_, ?_, ?_, ?_⟩
  · rw [hentity, hentity', h.entity]
  · rw [hhandler, hhandler', h.handler]
  · rw [hids, hids', h.ids]
  · rw [honce, honce', h.once]
  · rw [isConsumed_spend, isConsumed_spend, h.consumed, h.once]

end Selector

namespace SelectorList

/-- Two lists of selectors that differ at most in what other records they have worked for. -/
def AgreesOn (id : String) (a b : SelectorList) : Prop :=
  List.Forall₂ (Selector.AgreesOn id) a.selectors b.selectors

variable {a b c : SelectorList}

theorem AgreesOn.refl (id : String) (a : SelectorList) : a.AgreesOn id a :=
  List.forall₂_same.2 fun selector _ => .refl id selector

theorem AgreesOn.trans (h : a.AgreesOn id b) (h' : b.AgreesOn id c) : a.AgreesOn id c := by
  obtain ⟨as⟩ := a
  obtain ⟨bs⟩ := b
  obtain ⟨cs⟩ := c
  replace h : List.Forall₂ (Selector.AgreesOn id) as bs := h
  replace h' : List.Forall₂ (Selector.AgreesOn id) bs cs := h'
  change List.Forall₂ (Selector.AgreesOn id) as cs
  induction h generalizing cs with
  | nil => exact h'
  | cons hfirst hrest ih =>
    cases h' with
    | cons hfirst' hrest' => exact .cons (hfirst.trans hfirst') (ih _ hrest')

/-- Two lists that agree on a record give the same answer about it, and agree on it still after the
question. -/
theorem AgreesOn.consume (h : a.AgreesOn id b) (entity handler : String) :
    (b.consume entity handler id).1 = (a.consume entity handler id).1 ∧
      (a.consume entity handler id).2.AgreesOn id (b.consume entity handler id).2 := by
  obtain ⟨as⟩ := a
  obtain ⟨bs⟩ := b
  replace h : List.Forall₂ (Selector.AgreesOn id) as bs := h
  change (consumeFirst entity handler id bs).1 = (consumeFirst entity handler id as).1 ∧
    List.Forall₂ (Selector.AgreesOn id) (consumeFirst entity handler id as).2
      (consumeFirst entity handler id bs).2
  induction h with
  | nil => exact ⟨rfl, .nil⟩
  | @cons a b as bs hfirst hrest ih =>
    rw [consumeFirst, consumeFirst, hfirst.accepts]
    by_cases haccepts : a.accepts entity handler id = true
    · rw [if_pos haccepts, if_pos haccepts]
      exact ⟨rfl, .cons hfirst.spend hrest⟩
    · rw [if_neg haccepts, if_neg haccepts]
      exact ⟨ih.1, .cons hfirst ih.2⟩

/-- Nothing is used up but for the record asked about. -/
theorem agreesOn_consume_of_ne (list : SelectorList) (entity handler : String) (hne : other ≠ id) :
    list.AgreesOn other (list.consume entity handler id).2 := by
  obtain ⟨selectors⟩ := list
  change List.Forall₂ (Selector.AgreesOn other) selectors
    (consumeFirst entity handler id selectors).2
  induction selectors with
  | nil => exact .nil
  | cons selector rest ih =>
    rw [consumeFirst]
    by_cases haccepts : selector.accepts entity handler id = true
    · rw [if_pos haccepts]
      exact .cons (selector.agreesOn_spend_of_ne hne)
        (List.forall₂_same.2 fun selector _ => .refl other selector)
    · rw [if_neg haccepts]
      exact .cons (.refl other selector) ih

end SelectorList

/-! ## Sessions -/

/-- Two sessions of the same actor with the same options, in which the same handlers have run on a
record and the same selectors have been used up for it. -/
structure Session.AgreesOn (id : String) (a b : Session) : Prop where
  actor : b.actor = a.actor
  options : b.options = a.options
  history : ∀ entity handler,
    b.history.contains entity handler id = a.history.contains entity handler id
  skip : a.overrides.skip.AgreesOn id b.overrides.skip
  force : a.overrides.force.AgreesOn id b.overrides.force

namespace Session.AgreesOn

variable {a b c : Session}

theorem refl (id : String) (a : Session) : a.AgreesOn id a :=
  ⟨rfl, rfl, fun _ _ => rfl, .refl id _, .refl id _⟩

theorem trans (h : a.AgreesOn id b) (h' : b.AgreesOn id c) : a.AgreesOn id c where
  actor := h'.actor.trans h.actor
  options := h'.options.trans h.options
  history entity handler := (h'.history entity handler).trans (h.history entity handler)
  skip := h.skip.trans h'.skip
  force := h.force.trans h'.force

end Session.AgreesOn

/-- From one scope to another the backend, the clock, the holder of the session and all that is
known of other records have stayed the same. -/
structure Scope.Spares (id : String) (s s' : Scope β σ) : Prop where
  backend : s'.world.backend = s.world.backend
  clock : s'.world.clock = s.world.clock
  holder : s'.session.holder = s.session.holder
  others : ∀ other, other ≠ id → s.session.AgreesOn other s'.session

namespace Scope.Spares

variable {s s' s'' : Scope β σ}

/-- Where session, backend and clock are the same. -/
theorem of_eq (hbackend : s'.world.backend = s.world.backend)
    (hclock : s'.world.clock = s.world.clock) (hsession : s'.session = s.session) :
    s.Spares id s' where
  backend := hbackend
  clock := hclock
  holder := congrArg Session.holder hsession
  others other _ := hsession ▸ .refl other _

theorem trans (h : s.Spares id s') (h' : s'.Spares id s'') : s.Spares id s'' where
  backend := h'.backend.trans h.backend
  clock := h'.clock.trans h.clock
  holder := h'.holder.trans h.holder
  others other hother := (h.others other hother).trans (h'.others other hother)

end Scope.Spares

/-! ## Inward operations -/

namespace SessionM

/-- The operation does the same in sessions that agree on a record, as far as the record goes, and
spares all others. -/
structure Inward (id : String) (m : SessionM β σ α) : Prop where
  alike : ∀ s s' : Scope β σ, s.session.AgreesOn id s'.session →
    (m.run s').1 = (m.run s).1 ∧ (m.run s).2.session.AgreesOn id (m.run s').2.session
  spares : ∀ s : Scope β σ, s.Spares id (m.run s).2

/-- An operation that leaves the session alone and gives the same in all. -/
theorem Inward.of_constant {m : SessionM β σ α} (result : Except Failure α)
    (h : ∀ s : Scope β σ, ∃ trace, m.run s = (result, { s with world.trace := trace })) :
    Inward id m where
  alike s s' hagrees := by
    obtain ⟨trace, hrun⟩ := h s
    obtain ⟨trace', hrun'⟩ := h s'
    rw [hrun, hrun']
    exact ⟨rfl, hagrees⟩
  spares s := by
    obtain ⟨trace, hrun⟩ := h s
    rw [hrun]
    exact .of_eq rfl rfl rfl

theorem Inward.ofExcept (result : Except Failure α) :
    Inward id (SessionM.ofExcept result : SessionM β σ α) :=
  .of_constant result fun s => ⟨s.world.trace, rfl⟩

theorem Inward.pure (a : α) : Inward id (Pure.pure a : SessionM β σ α) :=
  .of_constant (.ok a) fun s => ⟨s.world.trace, rfl⟩

theorem Inward.throw (failure : Failure) :
    Inward id (MonadExcept.throw failure : SessionM β σ α) :=
  .of_constant (.error failure) fun s => ⟨s.world.trace, rfl⟩

theorem Inward.traceEvent (event : TraceEvent) :
    Inward id (SessionM.traceEvent event : SessionM β σ Unit) :=
  .of_constant (.ok ()) fun s => ⟨s.world.trace.add event, rfl⟩

theorem Inward.bind {m : SessionM β σ α} {f : α → SessionM β σ γ} (h : Inward id m)
    (hf : ∀ a, Inward id (f a)) : Inward id (m >>= f) where
  alike s s' hagrees := by
    obtain ⟨hresult, hsession⟩ := h.alike s s' hagrees
    rw [run_bind, run_bind]
    generalize m.run s = out at hresult hsession
    generalize m.run s' = out' at hresult hsession
    obtain ⟨result, s₁⟩ := out
    obtain ⟨result', s₁'⟩ := out'
    obtain rfl : result' = result := hresult
    cases result' with
    | error failure => exact ⟨rfl, hsession⟩
    | ok a => exact (hf a).alike s₁ s₁' hsession
  spares s := by
    have hfirst := h.spares s
    rw [run_bind]
    generalize m.run s = out at hfirst
    obtain ⟨result, s₁⟩ := out
    cases result with
    | error failure => exact hfirst
    | ok a => exact hfirst.trans ((hf a).spares s₁)

/-- Reading something of the session that makes no difference to the rest, or the same one. -/
theorem Inward.read_bind {f : Scope β σ → γ} {g : γ → SessionM β σ α}
    (hf : ∀ s s' : Scope β σ, s.session.AgreesOn id s'.session → g (f s') = g (f s))
    (hg : ∀ c, Inward id (g c)) : Inward id (SessionM.read f >>= g) where
  alike s s' hagrees := by
    change ((g (f s')).run s').1 = ((g (f s)).run s).1 ∧
      ((g (f s)).run s).2.session.AgreesOn id ((g (f s')).run s').2.session
    rw [hf s s' hagrees]
    exact (hg (f s)).alike s s' hagrees
  spares s := (hg (f s)).spares s

theorem Inward.withSpan {m : SessionM β σ α} (h : Inward id m) (event : TraceEvent) :
    Inward id (SessionM.withSpan event m) where
  alike s s' hagrees := h.alike { s with world.trace := (s.world.trace.enter event).2 }
    { s' with world.trace := (s'.world.trace.enter event).2 } hagrees
  spares s := by
    have hinside := h.spares { s with world.trace := (s.world.trace.enter event).2 }
    exact ⟨hinside.backend, hinside.clock, hinside.holder, hinside.others⟩

theorem Inward.adapt {m : SessionM β σ α} (h : Inward id m) (f : Failure → Failure) :
    Inward id (m.adapt f) where
  alike s s' hagrees := by
    obtain ⟨hresult, hsession⟩ := h.alike s s' hagrees
    rw [adapt_run, adapt_run, hresult]
    exact ⟨rfl, hsession⟩
  spares s := by
    rw [adapt_run]
    exact h.spares s

/-- That a handler runs on a record is noted for that record. -/
theorem Inward.noteRun (entity handler : String) :
    Inward id (SessionM.noteRun entity handler id : SessionM β σ Unit) where
  alike s s' hagrees := by
    refine ⟨rfl, hagrees.actor, hagrees.options, fun entity' handler' => ?_, hagrees.skip,
      hagrees.force⟩
    change (s'.session.history.record entity handler id).contains entity' handler' id =
      (s.session.history.record entity handler id).contains entity' handler' id
    rw [History.contains_record, History.contains_record, hagrees.history]
  spares s := by
    refine ⟨rfl, rfl, rfl, fun other hother => ⟨rfl, rfl, fun entity' handler' => ?_, .refl _ _,
      .refl _ _⟩⟩
    change (s.session.history.record entity handler id).contains entity' handler' other =
      s.session.history.contains entity' handler' other
    have hentry : ((⟨entity', handler', other⟩ : HistoryEntry) == ⟨entity, handler, id⟩) = false :=
      beq_false_of_ne fun hentry => hother (HistoryEntry.mk.inj hentry).2.2
    rw [History.contains_record, hentry, Bool.or_false]

theorem Inward.consumeSkip (entity handler : String) :
    Inward id (SessionM.consumeSkip entity handler id : SessionM β σ Bool) where
  alike s s' hagrees := by
    obtain ⟨hfound, hskip⟩ := hagrees.skip.consume entity handler
    exact ⟨congrArg Except.ok hfound, hagrees.actor, hagrees.options, hagrees.history, hskip,
      hagrees.force⟩
  spares s := by
    refine ⟨rfl, rfl, rfl, fun other hother => ⟨rfl, rfl, fun _ _ => rfl, ?_, .refl _ _⟩⟩
    exact s.session.overrides.skip.agreesOn_consume_of_ne entity handler hother

/-- The force list is asked about a handler that has not run on the record yet. -/
theorem Inward.consumeForce (entity handler : String) :
    Inward id (SessionM.consumeForce entity handler id : SessionM β σ Bool) := by
  have hrun (s : Scope β σ) : (SessionM.consumeForce entity handler id).run s =
      if s.session.history.contains entity handler id then (.ok false, s)
      else (.ok (s.session.overrides.force.consume entity handler id).1,
        { s with session.overrides.force :=
          (s.session.overrides.force.consume entity handler id).2 }) := rfl
  constructor
  · intro s s' hagrees
    rw [hrun, hrun, hagrees.history]
    by_cases hran : s.session.history.contains entity handler id = true
    · rw [if_pos hran, if_pos hran]
      exact ⟨rfl, hagrees⟩
    · rw [if_neg hran, if_neg hran]
      obtain ⟨hfound, hforce⟩ := hagrees.force.consume entity handler
      exact ⟨congrArg Except.ok hfound, hagrees.actor, hagrees.options, hagrees.history,
        hagrees.skip, hforce⟩
  · intro s
    rw [hrun]
    by_cases hran : s.session.history.contains entity handler id = true
    · rw [if_pos hran]
      exact .of_eq rfl rfl rfl
    · rw [if_neg hran]
      refine ⟨rfl, rfl, rfl, fun other hother => ⟨rfl, rfl, fun _ _ => rfl, .refl _ _, ?_⟩⟩
      exact s.session.overrides.force.agreesOn_consume_of_ne entity handler hother

end SessionM

/-! ## Convergence -/

/-- The handler is a function of the two records, the actor, the flags and the pass. -/
def Handler.IsPure (handler : Handler σ E) : Prop :=
  ∃ revise : Actor → List (String × Document) → Nat → Record E → Record E →
    Except Failure (Record E), ∀ cx before proposed,
      handler.function cx before proposed =
        .done (revise cx.actor cx.options.flags cx.pass before proposed)

namespace Convergence

open SessionM

variable {engine : Engine β σ}

theorem invoke_inward {handler : Handler σ E} (h : handler.IsPure) (pass : Nat)
    (before proposed : Record E) (queue : DeferredWork σ) :
    Inward id (invoke engine handler id pass before proposed queue) := by
  obtain ⟨revise, hrevise⟩ := h
  unfold invoke
  refine (Inward.noteRun _ _).bind fun _ => Inward.read_bind (fun s s' hagrees => ?_) fun cx => ?_
  · -- Of what a handler is told of the session, the transaction alone is not the same.
    simp only [hrevise, hagrees.actor, hagrees.options]
  · rw [hrevise]
    refine ((Inward.ofExcept _).adapt _).bind fun out => (Inward.traceEvent _).bind fun _ => ?_
    by_cases hid : out.1.id ≠ id
    · rw [if_pos hid]
      exact (Inward.throw _).bind fun _ => .pure _
    · rw [if_neg hid]
      exact .pure _

theorem dispatch_inward {handler : Handler σ E} (h : handler.IsPure) (pass : Nat)
    (mask : FieldMask) (before proposed : Record E) (queue : DeferredWork σ) :
    Inward id (dispatch engine handler id pass mask before proposed queue) := by
  unfold dispatch
  refine (Inward.consumeSkip _ _).bind fun skipped => ?_
  refine (Inward.consumeForce _ _).bind fun forced => ?_
  by_cases hquiet : ((handler.triggeredBy mask).isEmpty && !forced) = true
  · rw [if_pos hquiet]
    exact .pure _
  · rw [if_neg hquiet]
    refine Inward.withSpan ?_ _
    by_cases hskip : (skipped && !forced) = true
    · rw [if_pos hskip]
      exact .pure _
    · rw [if_neg hskip]
      exact invoke_inward h pass before proposed queue

theorem dispatchAll_inward {handlers : List (Handler σ E)}
    (h : ∀ handler ∈ handlers, handler.IsPure) (pass : Nat) (mask : FieldMask)
    (before proposed : Record E) (queue : DeferredWork σ) :
    Inward id (dispatchAll engine id pass mask before handlers proposed queue) := by
  induction handlers generalizing proposed queue with
  | nil => exact .pure _
  | cons handler rest ih =>
    obtain ⟨hfirst, hrest⟩ := List.forall_mem_cons.1 h
    exact (dispatch_inward hfirst pass mask before proposed queue).bind fun out => ih hrest _ _

section
variable (hhandlers : ∀ handler ∈ engine.registry.handlers E, handler.IsPure)
include hhandlers

theorem runFrom_inward (pass : Nat) (baseline proposed : Record E) (queue : DeferredWork σ)
    (forced : Bool) (left : Nat) :
    Inward id (runFrom engine id pass baseline proposed queue forced left) := by
  induction left generalizing pass baseline proposed queue forced with
  | zero =>
    rw [runFrom]
    by_cases hsettled : ((FieldMask.diff baseline proposed).isEmpty && !forced) = true
    · rw [if_pos hsettled]
      exact .pure _
    · rw [if_neg hsettled]
      exact .throw _
  | succ left ih =>
    rw [runFrom]
    by_cases hsettled : ((FieldMask.diff baseline proposed).isEmpty && !forced) = true
    · rw [if_pos hsettled]
      exact .pure _
    · rw [if_neg hsettled]
      refine ((dispatchAll_inward hhandlers _ _ _ _ _).withSpan _).bind fun out => ?_
      exact ih _ _ _ _ _

/-- Pure handlers look at nothing but what the session knows of their record. -/
theorem run_inward (baseline proposed : Record E) (forceFirst : Bool) :
    Inward proposed.id (run engine baseline proposed forceFirst) :=
  runFrom_inward hhandlers 0 baseline proposed .empty forceFirst _

/-- Pure handlers put off nothing. -/
theorem queue_of_run {baseline proposed : Record E} {forceFirst : Bool} {s : Scope β σ}
    {out : Outcome σ E} (h : ((run engine baseline proposed forceFirst).run s).1 = .ok out) :
    out.queue = .empty := by
  have hheeds : ∀ handler ∈ engine.registry.handlers E,
      handler.Heeds s.session.holder.tx (fun _ => False) fun _ => False := by
    intro handler hhandler cx before proposed _
    obtain ⟨revise, hrevise⟩ := hhandlers handler hhandler
    rw [hrevise]
    trivial
  have hguards : engine.backend.Guards s.session.holder.tx (fun _ => False) fun _ => True :=
    fun _ _ hfalse => hfalse.elim
  obtain ⟨-, -, hkeeps⟩ := run_maintains hguards hheeds baseline proposed forceFirst s rfl trivial
  obtain ⟨-, hqueue⟩ := hkeeps out h
  have hnone : out.queue.actions = [] := List.eq_nil_iff_forall_not_mem.2 hqueue
  exact congrArg Deferred.mk hnone

end

/-- Whether handlers are waiting to be forced depends on what the session knows of the record. -/
theorem forcePending_of_agrees {session session' : Session} (h : session.AgreesOn id session') :
    forcePending engine E session' id = forcePending engine E session id := by
  unfold forcePending
  congr 1
  funext handler
  rw [h.history, ← SelectorList.consume_fst, ← SelectorList.consume_fst,
    (h.force.consume E.name handler.name).1]

end Convergence

end RecordEngine
