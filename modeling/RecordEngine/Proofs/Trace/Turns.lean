import RecordEngine.Proofs.Convergence.Passes
import RecordEngine.Proofs.Trace.Comparison
/-!
What a pass tells.

A handler that is passed over tells nothing, one that is skipped tells of a span with nothing in it,
and one that is called tells of a span with at most the record of what it changed. `Turn` says so,
and in the same breath what becomes of the session, so that a proof about the turns of a pass has
the trace and the session side by side; `Turns` puts the turns of a pass one after another.

Handlers cannot read the trace, and what they ask of the store they ask whatever is traced. So an
engine takes the same turns whichever sink listens, and this is the only place where the text of
`invoke` is opened for what it tells.
-/

set_option autoImplicit false

namespace RecordEngine

open SessionM

variable {β σ : Type} {E : EntityType} {engine : Engine β σ}

/-- A handler neither traces anything nor changes its session. -/
theorem HandlerProgram.run_quiet (program : HandlerProgram σ E) (queue : DeferredWork σ) :
    Quiet (program.run engine queue) := by
  intro s
  induction program generalizing queue s with
  | done result => exact ⟨_, s, rfl, fun _ => rfl⟩
  | call c next ih =>
    exact ih (engine.backend.call c s.world.backend).1 queue
      { s with world.backend := (engine.backend.call c s.world.backend).2 }
  | defer label action next ih => exact ih _ s
  | host change next ih =>
    exact ih s.world.host queue { s with world.host := change s.world.host }

namespace Convergence

/-! ## One turn -/

section Turn

variable {handler : Handler σ E} {id : String} {pass : Nat} {mask : FieldMask}
  {before proposed : Record E} {queue : DeferredWork σ}

/-- A call tells of what the handler changed, unless the handler failed. -/
theorem invoke_traces (s : Scope β σ) : ∃ told r s',
    Traces (invoke engine handler id pass before proposed queue) s told r s' ∧
      (told = [] ∨
        ∃ changes, told = [⟨.callbackComplete E.name handler.name id ⟨0, 0⟩ changes, 0, false,
          false⟩]) := by
  let cx : HandlerContext :=
    { tx := s.session.tx, actor := s.session.actor, options := s.session.options, pass }
  let start : Scope β σ := { s with session := marked handler id s.session }
  have hnote : Traces (noteRun E.name handler.name id) s [] (.ok ()) start := .silent fun _ => rfl
  have hread : Traces (SessionM.read fun s : Scope β σ =>
      ({ tx := s.session.tx, actor := s.session.actor, options := s.session.options, pass } :
        HandlerContext)) start [] (.ok cx) start := .silent fun _ => rfl
  have hquiet : Quiet ((handler.function cx before proposed).run engine queue) :=
    HandlerProgram.run_quiet _ queue
  obtain ⟨answer, s₁, -, hprogram⟩ := hquiet start
  have hcall : Traces (((handler.function cx before proposed).run engine queue).adapt
      (Failure.handler handler.qualifiedName id)) start []
        (answer.mapError (Failure.handler handler.qualifiedName id)) s₁ :=
    (Traces.silent hprogram).adapt _
  cases answer with
  | error cause => exact ⟨_, _, s₁, hnote.bind (hread.bind hcall.bind_error), .inl rfl⟩
  | ok pair =>
    obtain ⟨after, queue'⟩ := pair
    have hcheck : ∃ r, Traces (do
        if after.id ≠ id then
          throw (.validation ("handler " ++ handler.qualifiedName ++
            " changed the identifier of " ++ E.name ++ " '" ++ id ++ "'"))
        return (after, queue') : SessionM β σ (Record E × DeferredWork σ)) s₁ [] r s₁ := by
      by_cases hid : after.id ≠ id
      · rw [if_pos hid]
        exact ⟨_, .silent fun _ => rfl⟩
      · rw [if_neg hid]
        exact ⟨_, .silent fun _ => rfl⟩
    obtain ⟨r, hcheck⟩ := hcheck
    exact ⟨_, r, s₁, hnote.bind (hread.bind (hcall.bind ((Traces.traceEvent _).bind hcheck))),
      .inr ⟨_, rfl⟩⟩

/-- What a turn tells, what it comes to and where it ends. -/
inductive Turn (handler : Handler σ E) (id : String) (mask : FieldMask) (proposed : Record E)
    (queue : DeferredWork σ) (s : Scope β σ) :
    List TraceEntry → Except Failure (Record E × DeferredWork σ) → Scope β σ → Prop where
  | passed (hquiet : (handler.triggeredBy mask).isEmpty = true)
    (hforces : forces handler id s.session = false) :
    Turn handler id mask proposed queue s [] (.ok (proposed, queue))
      { s with session := consulted handler id s.session }
  | skipped (triggered : ChangeSet) (htriggered : (handler.triggeredBy mask).isEmpty = false)
    (hskips : skips handler id s.session = true) (hforces : forces handler id s.session = false) :
    Turn handler id mask proposed queue s
      (TraceEntry.span (.callback E.name handler.name id true false triggered) [])
      (.ok (proposed, queue)) { s with session := consulted handler id s.session }
  | called (triggered : ChangeSet) {inner : List TraceEntry}
    {result : Except Failure (Record E × DeferredWork σ)} {s' : Scope β σ}
    (hcalls : calls handler id mask s.session = true)
    (hinner : inner = [] ∨ ∃ changes,
      inner = [⟨.callbackComplete E.name handler.name id ⟨0, 0⟩ changes, 0, false, false⟩])
    (hsession : s'.session = marked handler id (consulted handler id s.session)) :
    Turn handler id mask proposed queue s
      (TraceEntry.span (.callback E.name handler.name id (skips handler id s.session)
        (forces handler id s.session) triggered) inner) result s'

theorem dispatch_traces (s : Scope β σ) : ∃ told r s',
    Traces (dispatch engine handler id pass mask before proposed queue) s told r s' ∧
      Turn handler id mask proposed queue s told r s' := by
  let start : Scope β σ := { s with session := consulted handler id s.session }
  let triggered : ChangeSet := ChangeSet.ofMask (handler.triggeredBy mask) (some before) proposed
  let turn : SessionM β σ (Record E × DeferredWork σ) :=
    dispatch engine handler id pass mask before proposed queue
  cases hcalls : calls handler id mask s.session with
  | true =>
    obtain ⟨inner, r, s', hinvoke, hinner⟩ : ∃ inner r s',
        Traces (invoke engine handler id pass before proposed queue) start inner r s' ∧ _ :=
      invoke_traces start
    let event : TraceEvent := .callback E.name handler.name id (skips handler id s.session)
      (forces handler id s.session) triggered
    have hturn : Traces turn s (TraceEntry.span event inner) r s' := fun sink hsink =>
      (dispatch_of_calls (s := s.tracing sink) hcalls).trans (hinvoke.withSpan event sink hsink)
    -- What became of the session is read off any run.
    have hsession : s'.session = marked handler id (consulted handler id s.session) := by
      rcases dispatch_cases (hturn _ TraceSink.sound_empty) with ⟨hnot, -⟩ | ⟨-, -, hmarked⟩
      · cases hnot.symm.trans hcalls
      · exact hmarked
    exact ⟨_, r, s', hturn, .called triggered hcalls hinner hsession⟩
  | false =>
    obtain ⟨hforces, hquiet | ⟨htriggered, hskips⟩⟩ := not_calls_cases hcalls
    · have hturn : Traces turn s [] (.ok (proposed, queue)) start :=
        .silent fun sink => dispatch_of_quiet (s := s.tracing sink) hquiet hforces
      exact ⟨_, _, _, hturn, .passed hquiet hforces⟩
    · let event : TraceEvent := .callback E.name handler.name id true false triggered
      have hnothing : Traces (pure (proposed, queue) : SessionM β σ _) start []
          (.ok (proposed, queue)) start := .silent fun _ => rfl
      have hturn : Traces turn s (TraceEntry.span event []) (.ok (proposed, queue)) start :=
        fun sink hsink => (dispatch_of_skipped (s := s.tracing sink) htriggered hskips
          hforces).trans (hnothing.withSpan event sink hsink)
      exact ⟨_, _, _, hturn, .skipped triggered htriggered hskips hforces⟩

end Turn

/-! ## The turns of a pass -/

/-- Handlers take their turns, up to the first failure. -/
inductive Turns (engine : Engine β σ) (id : String) (pass : Nat) (mask : FieldMask)
    (before : Record E) :
    List (Handler σ E) → Record E → DeferredWork σ → Scope β σ → List TraceEntry →
      Except Failure (Record E × DeferredWork σ) → Scope β σ → Prop where
  | nil {proposed : Record E} {queue : DeferredWork σ} {s : Scope β σ} :
    Turns engine id pass mask before [] proposed queue s [] (.ok (proposed, queue)) s
  | stopped {handler : Handler σ E} {rest : List (Handler σ E)} {proposed : Record E}
      {queue : DeferredWork σ} {s s' : Scope β σ} {told : List TraceEntry} {failure : Failure}
      (hrun : Traces (dispatch engine handler id pass mask before proposed queue) s told
        (.error failure) s')
      (hturn : Turn handler id mask proposed queue s told (.error failure) s') :
      Turns engine id pass mask before (handler :: rest) proposed queue s told (.error failure) s'
  | passed {handler : Handler σ E} {rest : List (Handler σ E)} {proposed after : Record E}
      {queue queue' : DeferredWork σ} {s s₁ s' : Scope β σ} {told later : List TraceEntry}
      {result : Except Failure (Record E × DeferredWork σ)}
      (hrun : Traces (dispatch engine handler id pass mask before proposed queue) s told
        (.ok (after, queue')) s₁)
      (hturn : Turn handler id mask proposed queue s told (.ok (after, queue')) s₁)
      (hrest : Turns engine id pass mask before rest after queue' s₁ later result s') :
      Turns engine id pass mask before (handler :: rest) proposed queue s (told ++ later) result s'

section Turns

variable {id : String} {pass : Nat} {mask : FieldMask} {before : Record E}

theorem exists_turns (handlers : List (Handler σ E)) (proposed : Record E)
    (queue : DeferredWork σ) (s : Scope β σ) :
    ∃ told r s', Turns engine id pass mask before handlers proposed queue s told r s' := by
  induction handlers generalizing proposed queue s with
  | nil => exact ⟨_, _, _, .nil⟩
  | cons handler rest ih =>
    obtain ⟨told, r, s₁, hrun, hturn⟩ : ∃ told r s₁,
        Traces (dispatch engine handler id pass mask before proposed queue) s told r s₁ ∧ _ :=
      dispatch_traces s
    cases r with
    | error failure => exact ⟨_, _, _, .stopped hrun hturn⟩
    | ok pair =>
      obtain ⟨after, queue'⟩ := pair
      obtain ⟨later, r, s', hrest⟩ := ih after queue' s₁
      exact ⟨_, _, _, .passed hrun hturn hrest⟩

theorem Turns.traces {handlers : List (Handler σ E)} {proposed : Record E}
    {queue : DeferredWork σ} {s s' : Scope β σ} {told : List TraceEntry}
    {result : Except Failure (Record E × DeferredWork σ)}
    (h : Turns engine id pass mask before handlers proposed queue s told result s') :
    Traces (dispatchAll engine id pass mask before handlers proposed queue) s told result s' := by
  induction h with
  | nil => exact .silent fun _ => rfl
  | stopped hrun hturn => exact hrun.bind_error
  | passed hrun hturn hrest ih => exact hrun.bind ih

end Turns

/-! ## The passes of a run -/

/-- Passes follow one another, each told of within its span. Where there are the turns of the
handlers, this is the `Course` of a run. -/
inductive Rounds (engine : Engine β σ) (id : String) :
    Nat → Record E → Record E → DeferredWork σ → Bool → Nat → Scope β σ → List TraceEntry →
      Except Failure (Outcome σ E) → Scope β σ → Prop where
  | settled {pass : Nat} {baseline proposed : Record E} {queue : DeferredWork σ} {forced : Bool}
      {left : Nat} {s : Scope β σ} (hdue : due baseline proposed forced = false) :
      Rounds engine id pass baseline proposed queue forced left s []
        (.ok ⟨pass, proposed, queue⟩) s
  | exhausted {pass : Nat} {baseline proposed : Record E} {queue : DeferredWork σ} {forced : Bool}
      {s : Scope β σ} (hdue : due baseline proposed forced = true) :
      Rounds engine id pass baseline proposed queue forced 0 s []
        (.error (.iterationLimit E.name id engine.config.maxPasses.toNat)) s
  | stopped {pass : Nat} {baseline proposed : Record E} {queue : DeferredWork σ} {forced : Bool}
      {left : Nat} {s s' : Scope β σ} {told : List TraceEntry} {failure : Failure}
      (hdue : due baseline proposed forced = true)
      (hturns : Turns engine id (pass + 1) (FieldMask.diff baseline proposed) baseline
        (engine.registry.handlers E) proposed queue s told (.error failure) s') :
      Rounds engine id pass baseline proposed queue forced (left + 1) s
        (TraceEntry.span (.iteration E.name id (pass + 1)) told) (.error failure) s'
  | passed {pass : Nat} {baseline proposed after : Record E} {queue queue' : DeferredWork σ}
      {forced : Bool} {left : Nat} {s s₁ s' : Scope β σ} {told later : List TraceEntry}
      {result : Except Failure (Outcome σ E)} (hdue : due baseline proposed forced = true)
      (hturns : Turns engine id (pass + 1) (FieldMask.diff baseline proposed) baseline
        (engine.registry.handlers E) proposed queue s told (.ok (after, queue')) s₁)
      (hrest : Rounds engine id (pass + 1) proposed after queue' false left s₁ later result s') :
      Rounds engine id pass baseline proposed queue forced (left + 1) s
        (TraceEntry.span (.iteration E.name id (pass + 1)) told ++ later) result s'

section Rounds

variable {id : String}

theorem exists_rounds (pass : Nat) (baseline proposed : Record E) (queue : DeferredWork σ)
    (forced : Bool) (left : Nat) (s : Scope β σ) :
    ∃ told r s', Rounds engine id pass baseline proposed queue forced left s told r s' := by
  induction left generalizing pass baseline proposed queue forced s with
  | zero =>
    cases hdue : due baseline proposed forced with
    | false => exact ⟨_, _, _, .settled hdue⟩
    | true => exact ⟨_, _, _, .exhausted hdue⟩
  | succ left ih =>
    cases hdue : due baseline proposed forced with
    | false => exact ⟨_, _, _, .settled hdue⟩
    | true =>
      obtain ⟨told, r, s₁, hturns⟩ : ∃ told r s₁, Turns engine id (pass + 1)
          (FieldMask.diff baseline proposed) baseline (engine.registry.handlers E) proposed queue s
          told r s₁ := exists_turns _ _ _ _
      cases r with
      | error failure => exact ⟨_, _, _, .stopped hdue hturns⟩
      | ok pair =>
        obtain ⟨after, queue'⟩ := pair
        obtain ⟨later, r, s', hrest⟩ := ih (pass + 1) proposed after queue' false s₁
        exact ⟨_, _, _, .passed hdue hturns hrest⟩

theorem Rounds.traces {pass : Nat} {baseline proposed : Record E} {queue : DeferredWork σ}
    {forced : Bool} {left : Nat} {s s' : Scope β σ} {told : List TraceEntry}
    {result : Except Failure (Outcome σ E)}
    (h : Rounds engine id pass baseline proposed queue forced left s told result s') :
    Traces (runFrom engine id pass baseline proposed queue forced left) s told result s' := by
  induction h with
  | settled hdue =>
    rw [runFrom_of_not_due hdue]
    exact .silent fun _ => rfl
  | exhausted hdue =>
    rw [runFrom_zero hdue]
    exact .silent fun _ => rfl
  | stopped hdue hturns =>
    rw [runFrom_succ hdue]
    exact (hturns.traces.withSpan _).bind_error
  | passed hdue hturns hrest ih =>
    rw [runFrom_succ hdue]
    exact (hturns.traces.withSpan _).bind ih

/-- What a run of the handlers tells, round by round. -/
theorem run_traces (engine : Engine β σ) (baseline proposed : Record E) (forceFirst : Bool)
    (s : Scope β σ) : ∃ told r s',
    Traces (run engine baseline proposed forceFirst) s told r s' ∧
      Rounds engine proposed.id 0 baseline proposed .empty forceFirst
        engine.config.maxPasses.toNat s told r s' := by
  obtain ⟨told, r, s', h⟩ := exists_rounds 0 baseline proposed .empty forceFirst _ s
  exact ⟨told, r, s', h.traces, h⟩

end Rounds

end Convergence

end RecordEngine
