import RecordEngine.Proofs.Trace.Turns
/-!
Forced handlers.

A handler is forced if the force list selects it and it has not run on the record yet in the
session. That it is forced once follows from the history: the dispatches of a session, read off its
trace, account for every entry of the history, and a forced one is not in it before and is after.
`Accounted` says so of a list of dispatches, and it is shown turn by turn, pass by pass and, through
`accounting`, for everything that is done in a session.

That a handler is forced in a first pass only, and that one is forced in the first pass of a save
just if one was pending before it, rests on the force list. A handler that is not forced uses up
nothing of it, so up to the first that is forced the list stays what it was; and what a list does
not select at its turn it does not select later.
-/

set_option autoImplicit false

namespace RecordEngine

open SessionM

variable {β σ : Type} {E : EntityType} {engine : Engine β σ}

/-! ## Dispatches -/

/-- The dispatch of a handler, as a trace tells of it. -/
structure Dispatch where
  entity : String
  handler : String
  id : String
  /-- The pass of its operation, counted from 1. -/
  pass : Nat
  skipped : Bool
  forced : Bool
  deriving DecidableEq

namespace Dispatch

/-- The handler and the record, as the history has them. -/
def subject (d : Dispatch) : HistoryEntry := ⟨d.entity, d.handler, d.id⟩

/-- Whether the handler was called. -/
def invoked (d : Dispatch) : Bool := d.forced || !d.skipped

/-- The history after the dispatch. -/
def note (d : Dispatch) (history : History) : History :=
  if d.invoked then history.record d.entity d.handler d.id else history

end Dispatch

/-- The dispatches that events tell of. Each belongs to the pass that was begun last: an operation
begins no pass before the one before it is over, and deferred work is done after the last one. -/
def dispatchesIn (pass : Nat) : List TraceEvent → List Dispatch
  | [] => []
  | .iteration _ _ begun :: rest => dispatchesIn begun rest
  | .callback entity handler id skipped forced _ :: rest =>
    ⟨entity, handler, id, pass, skipped, forced⟩ :: dispatchesIn pass rest
  | .modelActivity .. :: rest => dispatchesIn pass rest
  | .callbackComplete .. :: rest => dispatchesIn pass rest

/-- The pass that was begun last. -/
def passAfter (pass : Nat) : List TraceEvent → Nat
  | [] => pass
  | .iteration _ _ begun :: rest => passAfter begun rest
  | .callback .. :: rest => passAfter pass rest
  | .modelActivity .. :: rest => passAfter pass rest
  | .callbackComplete .. :: rest => passAfter pass rest

theorem dispatchesIn_append (pass : Nat) (events events' : List TraceEvent) :
    dispatchesIn pass (events ++ events') =
      dispatchesIn pass events ++ dispatchesIn (passAfter pass events) events' := by
  induction events generalizing pass with
  | nil => rfl
  | cons event rest ih =>
    cases event with
    | iteration _ _ begun => exact ih begun
    | callback entity handler id skipped forced _ => exact congrArg (_ :: ·) (ih pass)
    | modelActivity => exact ih pass
    | callbackComplete => exact ih pass

/-! ## Dispatches and the history -/

/-- The dispatches lead from one history to another, and a forced one is dispatched in a first pass
and finds that its handler has not run. -/
inductive Accounted : History → List Dispatch → History → Prop where
  | nil {history : History} : Accounted history [] history
  | cons {history history' : History} {d : Dispatch} {rest : List Dispatch}
      (hforced : d.forced = true → d.pass = 1 ∧ history.contains d.entity d.handler d.id = false)
      (hrest : Accounted (d.note history) rest history') : Accounted history (d :: rest) history'

namespace Accounted

variable {history history' history'' : History} {ds ds' : List Dispatch} {d d' : Dispatch}

theorem append (h : Accounted history ds history') (h' : Accounted history' ds' history'') :
    Accounted history (ds ++ ds') history'' := by
  induction h with
  | nil => exact h'
  | cons hforced hrest ih => exact .cons hforced (ih h')

theorem split (h : Accounted history (ds ++ d :: ds') history'') :
    ∃ between, Accounted history ds between ∧
      (d.forced = true → d.pass = 1 ∧ between.contains d.entity d.handler d.id = false) ∧
      Accounted (d.note between) ds' history'' := by
  induction ds generalizing history with
  | nil =>
    cases h with
    | cons hforced hrest => exact ⟨history, .nil, hforced, hrest⟩
  | cons first rest ih =>
    cases h with
    | cons hforced hrest =>
      obtain ⟨between, hbefore, hd, hafter⟩ := ih hrest
      exact ⟨between, .cons hforced hbefore, hd, hafter⟩

theorem contains_note {entity handler id : String}
    (h : history.contains entity handler id = true) :
    (d.note history).contains entity handler id = true := by
  unfold Dispatch.note
  split
  · rw [History.contains_record, h, Bool.true_or]
  · exact h

theorem contains_note_self (hinvoked : d.invoked = true) :
    (d.note history).contains d.entity d.handler d.id = true := by
  rw [Dispatch.note, if_pos hinvoked, History.contains_record, beq_self_eq_true, Bool.or_true]

theorem contains_of_contains (h : Accounted history ds history') {entity handler id : String}
    (hcontains : history.contains entity handler id = true) :
    history'.contains entity handler id = true := by
  induction h with
  | nil => exact hcontains
  | cons hforced hrest ih => exact ih (contains_note hcontains)

/-- A handler that was called is in the history afterwards. -/
theorem contains_of_invoked (h : Accounted history ds history') (hd : d ∈ ds)
    (hinvoked : d.invoked = true) : history'.contains d.entity d.handler d.id = true := by
  obtain ⟨before, after, rfl⟩ := List.append_of_mem hd
  obtain ⟨between, -, -, hafter⟩ := h.split
  exact hafter.contains_of_contains (contains_note_self hinvoked)

/-- A handler that is in the history is not forced. -/
theorem unforced_of_contains (h : Accounted history ds history') (hd : d ∈ ds)
    (hcontains : history.contains d.entity d.handler d.id = true) : d.forced = false := by
  obtain ⟨before, after, rfl⟩ := List.append_of_mem hd
  obtain ⟨between, hbefore, hforced, -⟩ := h.split
  by_contra hd'
  rw [Bool.not_eq_false] at hd'
  have hhere := hbefore.contains_of_contains hcontains
  rw [(hforced hd').2] at hhere
  cases hhere

/-- A forced dispatch is in a first pass, comes before the handler was called, and is the only one
of the handler on the record. -/
theorem forced_once (h : Accounted history (ds ++ d :: ds') history') (hforced : d.forced = true) :
    d.pass = 1 ∧ (∀ d' ∈ ds, d'.subject = d.subject → d'.invoked = false) ∧
      ∀ d' ∈ ds', d'.subject = d.subject → d'.forced = false := by
  obtain ⟨between, hbefore, hd, hafter⟩ := h.split
  obtain ⟨hpass, hfresh⟩ := hd hforced
  refine ⟨hpass, fun d' hd' hsame => ?_, fun d' hd' hsame => ?_⟩
  · by_contra hinvoked
    rw [Bool.not_eq_false] at hinvoked
    have hran := hbefore.contains_of_invoked hd' hinvoked
    rw [History.contains, show (⟨d'.entity, d'.handler, d'.id⟩ : HistoryEntry) = d.subject from
      hsame] at hran
    cases hran.symm.trans hfresh
  · refine hafter.unforced_of_contains hd' ?_
    rw [History.contains, show (⟨d'.entity, d'.handler, d'.id⟩ : HistoryEntry) = d.subject from
      hsame]
    exact contains_note_self (by rw [Dispatch.invoked, hforced, Bool.true_or])

end Accounted

namespace Convergence

/-! ## Turn by turn -/

section Turns

variable {id : String} {pass : Nat} {mask : FieldMask} {before proposed : Record E}
  {queue : DeferredWork σ} {s s' : Scope β σ} {told : List TraceEntry}
  {result : Except Failure (Record E × DeferredWork σ)} {handler other : Handler σ E}
  {handlers earlier later : List (Handler σ E)}

/-- A handler that is not forced before a turn is not forced after it. -/
theorem unforced_of_turn
    (hrun : Traces (dispatch engine handler id pass mask before proposed queue) s told result s')
    (h : forces other id s.session = false) : forces other id s'.session = false := by
  have hlater := forces_of_dispatch (s := s.tracing (.recorder .empty))
    (hrun _ TraceSink.sound_empty) h
  exact hlater

/-- When all have had their turns none of them is forced. -/
theorem Turns.spent {pair : Record E × DeferredWork σ}
    (h : Turns engine id pass mask before handlers proposed queue s told (.ok pair) s')
    (hhandler : handler ∈ handlers) : forces handler id s'.session = false := by
  have hspent := spent_of_dispatchAll (h.traces _ TraceSink.sound_empty) hhandler
  exact hspent

/-- A handler that is called is forced or not skipped. -/
theorem invoked_of_calls (h : calls handler id mask s.session = true) :
    (forces handler id s.session || !skips handler id s.session) = true := by
  rw [calls, Bool.or_eq_true, Bool.and_eq_true] at h
  rw [Bool.or_eq_true]
  exact h.imp_right And.right

/-- A turn in which the handler is dispatched, and one in which it is not. -/
theorem Turn.dispatches (h : Turn handler id mask proposed queue s told result s') (pass : Nat) :
    (dispatchesIn pass (told.map (·.event)) = [] ∧ forces handler id s.session = false ∧
        s'.session.history = s.session.history) ∨
      ∃ d : Dispatch, dispatchesIn pass (told.map (·.event)) = [d] ∧
        d.subject = ⟨E.name, handler.name, id⟩ ∧ d.pass = pass ∧
        d.forced = forces handler id s.session ∧
        s'.session.history = d.note s.session.history := by
  cases h with
  | passed hquiet hforces => exact .inl ⟨rfl, hforces, rfl⟩
  | skipped triggered _ hskips hforces => exact .inr ⟨_, rfl, rfl, rfl, hforces.symm, rfl⟩
  | called triggered hcalls hinner hsession =>
    refine .inr ⟨⟨E.name, handler.name, id, pass, skips handler id s.session,
      forces handler id s.session⟩, ?_, rfl, rfl, rfl, ?_⟩
    · rcases hinner with rfl | ⟨changes, rfl⟩ <;> rfl
    · rw [hsession, Dispatch.note, Dispatch.invoked, if_pos (invoked_of_calls hcalls)]
      rfl

/-- A turn begins no pass. -/
theorem Turn.passAfter_eq (h : Turn handler id mask proposed queue s told result s') :
    passAfter pass (told.map (·.event)) = pass := by
  cases h with
  | passed => rfl
  | skipped => rfl
  | called triggered hcalls hinner => rcases hinner with rfl | ⟨changes, rfl⟩ <;> rfl

theorem Turn.accounted (h : Turn handler id mask proposed queue s told result s')
    (hpass : pass = 1 ∨ forces handler id s.session = false) :
    Accounted s.session.history (dispatchesIn pass (told.map (·.event))) s'.session.history := by
  rcases h.dispatches pass with ⟨hnone, -, hhistory⟩ | ⟨d, hone, hsubject, hd, hforced, hhistory⟩
  · rw [hnone, hhistory]
    exact .nil
  · rw [hone, hhistory]
    refine .cons (fun hforces => ?_) .nil
    rw [hforced] at hforces
    refine ⟨hd.trans (hpass.resolve_right (by rw [hforces]; decide)), ?_⟩
    rw [forces_eq, Bool.and_eq_true, Bool.not_eq_true'] at hforces
    have hfresh := hforces.1
    rw [History.contains, ← hsubject] at hfresh
    exact hfresh

/-- The turns of a first pass, and those of handlers that are not forced, are accounted for. -/
theorem Turns.accounted
    (h : Turns engine id pass mask before handlers proposed queue s told result s')
    (hpass : pass = 1 ∨ ∀ handler ∈ handlers, forces handler id s.session = false) :
    Accounted s.session.history (dispatchesIn pass (told.map (·.event))) s'.session.history := by
  induction h with
  | nil => exact .nil
  | stopped hrun hturn =>
    exact hturn.accounted (hpass.imp_right fun hspent => hspent _ List.mem_cons_self)
  | passed hrun hturn hrest ih =>
    rw [List.map_append, dispatchesIn_append, hturn.passAfter_eq]
    refine (hturn.accounted (hpass.imp_right fun hspent => hspent _ List.mem_cons_self)).append
      (ih (hpass.imp_right fun hspent other hother => ?_))
    exact unforced_of_turn hrun (hspent other (List.mem_cons_of_mem _ hother))

theorem Turn.forced_before (h : Turn handler id mask proposed queue s told result s')
    {d : Dispatch} (hd : d ∈ dispatchesIn pass (told.map (·.event))) (hforced : d.forced = true) :
    forces handler id s.session = true := by
  rcases h.dispatches pass with ⟨hnone, -⟩ | ⟨d', hone, -, -, hforces, -⟩
  · rw [hnone] at hd
    cases hd
  · rw [hone, List.mem_singleton] at hd
    rw [← hforces, ← hd, hforced]

/-- A handler that is dispatched as forced was forced before the pass. -/
theorem Turns.forced_before
    (h : Turns engine id pass mask before handlers proposed queue s told result s') {d : Dispatch}
    (hd : d ∈ dispatchesIn pass (told.map (·.event))) (hforced : d.forced = true) :
    ∃ handler ∈ handlers, forces handler id s.session = true := by
  induction h with
  | nil => cases hd
  | stopped hrun hturn => exact ⟨_, List.mem_cons_self, hturn.forced_before hd hforced⟩
  | passed hrun hturn hrest ih =>
    rw [List.map_append, dispatchesIn_append, hturn.passAfter_eq] at hd
    rcases List.mem_append.1 hd with hd | hd
    · exact ⟨_, List.mem_cons_self, hturn.forced_before hd hforced⟩
    · obtain ⟨handler, hmem, hforces⟩ := ih hd
      refine ⟨handler, List.mem_cons_of_mem _ hmem, ?_⟩
      -- What is not forced before the first turn is not forced after it.
      by_contra hnot
      rw [Bool.not_eq_true] at hnot
      cases hforces.symm.trans (unforced_of_turn hrun hnot)

/-- A handler that is not forced leaves the force list as it is. -/
theorem consulted_force_of_unforced {session : Session}
    (h : forces other id session = false) :
    (consulted other id session).overrides.force = session.overrides.force := by
  unfold consulted
  dsimp only
  split
  · rfl
  · next hfresh =>
    rw [Bool.not_eq_true] at hfresh
    rw [forces_eq, hfresh, Bool.not_false, Bool.true_and] at h
    exact SelectorList.consume_of_not_accepts h

/-- The turn of a handler that is not forced does not keep another one from being forced. -/
theorem forces_of_unforced (hother : forces other id s.session = false)
    (hrun : Traces (dispatch engine other id pass mask before proposed queue) s told result s')
    (h : forces handler id s.session = true) : forces handler id s'.session = true := by
  have hname : handler.name ≠ other.name := by
    intro hname
    rw [forces_eq, hname, ← forces_eq] at h
    cases hother.symm.trans h
  have hconsulted : forces handler id (consulted other id s.session) = true := by
    rw [forces_eq, consulted_force_of_unforced hother]
    rw [forces_eq] at h
    exact h
  rcases dispatch_cases (hrun _ TraceSink.sound_empty) with ⟨-, -, hsession⟩ | ⟨-, -, hsession⟩
  · rw [Scope.tracing_session] at hsession
    rw [hsession]
    exact hconsulted
  · rw [Scope.tracing_session] at hsession
    rw [hsession, forces_eq, marked, History.contains_record]
    rw [forces_eq] at hconsulted
    have hsubject : ((⟨E.name, handler.name, id⟩ : HistoryEntry) == ⟨E.name, other.name, id⟩) =
        false := by
      simp [hname]
    rw [hsubject, Bool.or_false]
    exact hconsulted

/-- If all take their turns, the first that is forced is dispatched as forced. -/
theorem Turns.first_forced {pair : Record E × DeferredWork σ}
    (h : Turns engine id pass mask before (earlier ++ handler :: later) proposed queue s told
      (.ok pair) s')
    (hearlier : ∀ other ∈ earlier, forces other id s.session = false)
    (hforces : forces handler id s.session = true) :
    ∃ d ∈ dispatchesIn pass (told.map (·.event)),
      d.subject = ⟨E.name, handler.name, id⟩ ∧ d.pass = pass ∧ d.forced = true := by
  induction earlier generalizing proposed queue s told with
  | nil =>
    cases h with
    | passed hrun hturn hrest =>
      rcases hturn.dispatches pass with ⟨-, hnot, -⟩ | ⟨d, hone, hsubject, hpass, hforced, -⟩
      · cases hnot.symm.trans hforces
      · refine ⟨d, ?_, hsubject, hpass, hforced.trans hforces⟩
        rw [List.map_append, dispatchesIn_append, hone]
        exact List.mem_cons_self
  | cons first rest ih =>
    cases h with
    | passed hrun hturn hrest =>
      have hfirst := hearlier first List.mem_cons_self
      obtain ⟨d, hd, hrest⟩ := ih hrest
        (fun other hother => unforced_of_turn hrun (hearlier other (List.mem_cons_of_mem _ hother)))
        (forces_of_unforced hfirst hrun hforces)
      refine ⟨d, ?_, hrest⟩
      rw [List.map_append, dispatchesIn_append, hturn.passAfter_eq]
      exact List.mem_append_right _ hd

end Turns

/-! ## Pass by pass -/

section Rounds

variable {id : String} {pass left : Nat} {baseline proposed : Record E} {queue : DeferredWork σ}
  {forced : Bool} {s s' : Scope β σ} {told : List TraceEntry}
  {result : Except Failure (Outcome σ E)}

theorem Rounds.accounted
    (h : Rounds engine id pass baseline proposed queue forced left s told result s')
    (hspent : 0 < pass → ∀ handler ∈ engine.registry.handlers E,
      forces handler id s.session = false) (number : Nat) :
    Accounted s.session.history (dispatchesIn number (told.map (·.event)))
      s'.session.history := by
  have hfirst (pass : Nat) (session : Session) (hspent : 0 < pass →
      ∀ handler ∈ engine.registry.handlers E, forces handler id session = false) :
      pass + 1 = 1 ∨ ∀ handler ∈ engine.registry.handlers E, forces handler id session = false := by
    rcases Nat.eq_zero_or_pos pass with rfl | hpass
    · exact .inl rfl
    · exact .inr (hspent hpass)
  induction h generalizing number with
  | settled => exact .nil
  | exhausted => exact .nil
  | stopped hdue hturns =>
    rw [TraceEntry.map_event_span]
    exact hturns.accounted (hfirst _ _ hspent)
  | passed hdue hturns hrest ih =>
    rw [List.map_append, TraceEntry.map_event_span, dispatchesIn_append]
    refine (hturns.accounted (hfirst _ _ hspent)).append (ih (fun _ handler hhandler => ?_) _)
    exact hturns.spent hhandler

/-- A handler that a run dispatches as forced was forced before it. -/
theorem Rounds.forced_before
    (h : Rounds engine id pass baseline proposed queue forced left s told result s')
    {number : Nat} {d : Dispatch} (hd : d ∈ dispatchesIn number (told.map (·.event)))
    (hforced : d.forced = true) :
    ∃ handler ∈ engine.registry.handlers E, forces handler id s.session = true := by
  induction h generalizing number with
  | settled => cases hd
  | exhausted => cases hd
  | stopped hdue hturns =>
    rw [TraceEntry.map_event_span] at hd
    exact hturns.forced_before hd hforced
  | passed hdue hturns hrest ih =>
    rw [List.map_append, TraceEntry.map_event_span, dispatchesIn_append] at hd
    rcases List.mem_append.1 hd with hd | hd
    · exact hturns.forced_before hd hforced
    · obtain ⟨handler, hmem, hforces⟩ := ih hd
      cases hforces.symm.trans (hturns.spent hmem)

end Rounds

/-! ## The first pass of a save -/

section Pending

variable {stored record : Record E} {pending : Bool} {s : Scope β σ}

theorem forcePending_eq (engine : Engine β σ) (E : EntityType) (session : Session) (id : String) :
    forcePending engine E session id =
      (engine.registry.handlers E).any (forces · id session) :=
  congrArg (List.any _) (funext fun _ => forces_eq.symm)

/-- If the first pass of a run is due and comes to its end, the first handler that is forced is
dispatched as forced in it. -/
theorem run_first_forced (hlimit : 1 ≤ engine.config.maxPasses) (hsound : s.world.trace.Sound)
    (hends : ∀ first ∈ (passes engine stored record true s).head?,
      ∃ after, first.result = .ok after) {handler : Handler σ E}
    (hfirst : (engine.registry.handlers E).find? (forces · record.id s.session) = some handler) :
    ∃ d ∈ dispatchesIn 0 (eventsOf (run engine stored record true) s),
      d.subject = ⟨E.name, handler.name, record.id⟩ ∧ d.pass = 1 ∧ d.forced = true := by
  obtain ⟨hforces, earlier, later, hhandlers, hearlier⟩ := List.find?_eq_some_iff_append.1 hfirst
  obtain ⟨left, hleft⟩ : ∃ left, engine.config.maxPasses.toNat = left + 1 :=
    Nat.exists_eq_add_of_le' (UInt32.le_iff_toNat_le.1 hlimit)
  have hdue : due stored record true = true := by rw [due, Bool.not_true, Bool.and_false]; rfl
  obtain ⟨told, r, s', hrun, hrounds⟩ := run_traces engine stored record true s
  rw [hrun.eventsOf_eq]
  rw [passes, hleft] at hends
  rw [hleft] at hrounds
  cases hrounds with
  | settled hnot => cases hnot.symm.trans hdue
  | stopped _ hturns =>
    -- A pass that was stopped did not come to its end.
    have hpass : (nextPass engine record.id 0 stored record .empty).run s = _ :=
      (hturns.traces.withSpan _).run hsound
    rw [passesFrom_of_error hdue hpass] at hends
    obtain ⟨after, hafter⟩ := hends _ rfl
    cases (nextEntry_result hpass).symm.trans hafter
  | passed _ hturns hrest =>
    rw [hhandlers] at hturns
    obtain ⟨d, hd, hforced⟩ := hturns.first_forced
      (fun other hother => by simpa using hearlier other hother) hforces
    refine ⟨d, ?_, hforced⟩
    rw [List.map_append, TraceEntry.map_event_span, dispatchesIn_append]
    exact List.mem_append_left _ hd

/-- A run whose first pass is not stopped dispatches a handler as forced just if one was pending. -/
theorem run_forces_iff (hlimit : 1 ≤ engine.config.maxPasses) (hsound : s.world.trace.Sound)
    (hpending : forcePending engine E s.session record.id = pending)
    (hends : ∀ first ∈ (passes engine stored record pending s).head?,
      ∃ after, first.result = .ok after) :
    (∃ d ∈ dispatchesIn 0 (eventsOf (run engine stored record pending) s), d.forced = true) ↔
      pending = true := by
  rw [forcePending_eq] at hpending
  constructor
  · rintro ⟨d, hd, hforced⟩
    obtain ⟨told, r, s', hrun, hrounds⟩ := run_traces engine stored record pending s
    rw [hrun.eventsOf_eq] at hd
    obtain ⟨handler, hmem, hforces⟩ := hrounds.forced_before hd hforced
    rw [← hpending]
    exact List.any_eq_true.2 ⟨handler, hmem, hforces⟩
  · rintro rfl
    obtain ⟨handler, hfirst⟩ := Option.isSome_iff_exists.1 (List.find?_isSome.2
      (List.any_eq_true.1 hpending))
    obtain ⟨d, hd, -, -, hforced⟩ := run_first_forced hlimit hsound hends hfirst
    exact ⟨d, hd, hforced⟩

end Pending

/-! ## Everything that is done in a session -/

/-- An engine compared with itself: all that it does is accounted for. -/
def accounting : Comparison where
  holds _ := True
  tells session told told' session' := told' = told ∧ ∀ number,
    Accounted session.history (dispatchesIn number (told.map (·.event))) session'.history
  nil _ _ := ⟨rfl, fun _ => .nil⟩
  append := by
    rintro session session' session'' told _ later _ ⟨rfl, h⟩ ⟨rfl, h'⟩
    refine ⟨rfl, fun number => ?_⟩
    rw [List.map_append, dispatchesIn_append]
    exact (h number).append (h' _)
  activity := by
    rintro session session' told _ entity id action ⟨rfl, h⟩
    refine ⟨rfl, fun number => ?_⟩
    rw [TraceEntry.map_event_span]
    exact h number

theorem accounting_runs (engine : Engine β σ) : accounting.Runs engine engine.registry where
  run E baseline proposed forceFirst s _ := by
    obtain ⟨told, r, s', hrun, hrounds⟩ := run_traces engine baseline proposed forceFirst s
    exact ⟨told, told, r, s', hrun, hrun, trivial, rfl,
      hrounds.accounted fun hpos => absurd hpos (Nat.lt_irrefl 0)⟩
  pending _ _ _ _ := rfl

/-- The dispatches of a session account for its history. -/
theorem runErrands_accounted (engine : Engine β σ) (errands : List (Errand β σ))
    (session : Session) :
    Accounted session.history
      (dispatchesIn 0
        (Session.runErrands engine errands session (.recorder .empty)).2.log.events)
      (Session.runErrands engine errands session (.recorder .empty)).1.history := by
  have hholds : accounting.holds session := trivial
  obtain ⟨told, told', session', hrun, -, -, -, htells⟩ :=
    Session.runErrands_compares (accounting_runs engine) errands hholds TraceSink.sound_empty
      TraceSink.sound_empty
  rw [hrun, TraceSink.events_tell_empty]
  exact htells 0

/-- What a save tells begins with what its handlers do. -/
theorem eventsOf_save {level : Nat} {record stored : Record E} {s s₁ : Scope β σ}
    (hcheck : E.schema.checkRow record.toRow = .ok ()) (hid : record.id.isEmpty = false)
    (hload : (Session.load engine E record.id).run s = (.ok stored, s₁))
    (hversion : Session.checkVersion record stored record.id = .ok ()) :
    ∃ more, eventsOf ((Session.operationsAt engine (level + 1)).save E record) s =
      .modelActivity E.name record.id .update ::
        (eventsOf (run engine stored record (forcePending engine E s.session record.id)) s₁ ++
          more) := by
  obtain ⟨told, -, r, s₂, hrun, -⟩ :=
    (accounting_runs engine).run E stored record (forcePending engine E s.session record.id) s₁
      trivial
  have hdrain (queue : DeferredWork σ) : Compares accounting
      (Session.drain engine (Session.operationsAt engine level) queue)
      (Session.drain engine (Session.operationsAt engine level) queue) :=
    Session.drainAll_compares (Session.operationsAt_compare (accounting_runs engine) level) _
  have hfinish (out : Outcome σ E) : ∃ more r s', Traces (Session.finishSave engine
      (Session.drain engine (Session.operationsAt engine level)) record stored out) s₂ more r
        s' := by
    have hcompares : Compares accounting _ (Session.finishSave (engine.withRegistry engine.registry)
        _ record stored out) := Session.finishSave_compares hdrain record stored out
    obtain ⟨more, -, r, s', hmore, -⟩ := hcompares s₂ trivial
    exact ⟨more, r, s', hmore⟩
  obtain ⟨more, r', s', hsave⟩ := Session.saveWith_traces hcheck hid hload hversion hrun hfinish
  refine ⟨more.map (·.event), ?_⟩
  rw [hrun.eventsOf_eq, ← List.map_append, ← TraceEntry.map_event_span]
  exact hsave.eventsOf_eq

/-- A turn that is told of as forced or not skipped is a call, and any other one does nothing. -/
theorem dispatch_of_told {handler : Handler σ E} {id : String} {pass : Nat} {mask : FieldMask}
    {before proposed : Record E} {queue : DeferredWork σ} {s : Scope β σ} {skipped forced : Bool}
    {changes : ChangeSet}
    (h : .callback E.name handler.name id skipped forced changes ∈
      eventsOf (dispatch engine handler id pass mask before proposed queue) s) :
    ∃ event, (dispatch engine handler id pass mask before proposed queue).run s =
      (SessionM.withSpan event (if forced || !skipped then
        invoke engine handler id pass before proposed queue
      else pure (proposed, queue))).run { s with session := consulted handler id s.session } := by
  obtain ⟨told, r, s', hrun, hturn⟩ : ∃ told r s',
      Traces (dispatch engine handler id pass mask before proposed queue) s told r s' ∧ _ :=
    dispatch_traces s
  rw [hrun.eventsOf_eq] at h
  cases hturn with
  | passed => cases h
  | skipped triggered htriggered hskips hforces =>
    obtain ⟨-, -, -, rfl, rfl, -⟩ := TraceEvent.callback.inj (List.mem_singleton.1 h)
    exact ⟨_, dispatch_of_skipped htriggered hskips hforces⟩
  | called triggered hcalls hinner =>
    rw [TraceEntry.map_event_span] at h
    rcases List.mem_cons.1 h with h | h
    · obtain ⟨-, -, -, rfl, rfl, -⟩ := TraceEvent.callback.inj h
      rw [if_pos (invoked_of_calls hcalls)]
      exact ⟨_, dispatch_of_calls hcalls⟩
    · -- Inside the span at most the record of what changed is told.
      rcases hinner with rfl | ⟨changes, rfl⟩
      · cases h
      · cases List.mem_singleton.1 h

/-! ## Forced once -/

/-- **Force runs a handler once.** However a session is made up of creates and saves, with all that
they put off: a forced dispatch is in the first pass of its operation, the handler was not called on
the record before it in the session, and none after it is forced. Where passes are allowed at all, a
save that finds its record, and whose first pass, if there is one, is not stopped, dispatches a
handler as forced just if one was pending before the handlers ran, be the record different from the
stored one or not; and then the first handler, in order of registration, that has not run on the
record and that the force list selects is one of those. Whatever is told of as forced, or as not
skipped, is a call of the handler, and whatever else is told of is none. -/
theorem force_runs_once (engine : Engine β σ) :
    (∀ (tx : TxId) (actor : Actor) (options : Options) (errands : List (Errand β σ))
        (earlier later : List Dispatch) (d : Dispatch),
      dispatchesIn 0 (Session.runErrands engine errands (.start tx actor options)
        (.recorder .empty)).2.log.events = earlier ++ d :: later →
      d.forced = true →
        d.pass = 1 ∧ (∀ d' ∈ earlier, d'.subject = d.subject → d'.invoked = false) ∧
          ∀ d' ∈ later, d'.subject = d.subject → d'.forced = false) ∧
    (∀ (level : Nat) (E : EntityType) (record stored : Record E) (s s₁ : Scope β σ)
        (pending : Bool),
      1 ≤ engine.config.maxPasses → s.world.trace.Sound →
      E.schema.checkRow record.toRow = .ok () → record.id.isEmpty = false →
      (Session.load engine E record.id).run s = (.ok stored, s₁) →
      Session.checkVersion record stored record.id = .ok () →
      forcePending engine E s.session record.id = pending →
      (∀ first ∈ (passes engine stored record pending s₁).head?,
        ∃ after, first.result = .ok after) →
        (∃ more, eventsOf ((Session.operationsAt engine (level + 1)).save E record) s =
          .modelActivity E.name record.id .update ::
            (eventsOf (run engine stored record pending) s₁ ++ more)) ∧
        ((∃ d ∈ dispatchesIn 0 (eventsOf (run engine stored record pending) s₁),
          d.forced = true) ↔ pending = true) ∧
        ∀ handler, (engine.registry.handlers E).find? (fun handler =>
            !s.session.history.contains E.name handler.name record.id &&
              s.session.overrides.force.accepts E.name handler.name record.id) = some handler →
          ∃ d ∈ dispatchesIn 0 (eventsOf (run engine stored record pending) s₁),
            d.subject = ⟨E.name, handler.name, record.id⟩ ∧ d.pass = 1 ∧ d.forced = true) ∧
    ∀ (E : EntityType) (handler : Handler σ E) (id : String) (pass : Nat) (mask : FieldMask)
        (before proposed : Record E) (queue : DeferredWork σ) (s : Scope β σ)
        (skipped forced : Bool) (changes : ChangeSet),
      .callback E.name handler.name id skipped forced changes ∈
          eventsOf (dispatch engine handler id pass mask before proposed queue) s →
        ∃ event, (dispatch engine handler id pass mask before proposed queue).run s =
          (SessionM.withSpan event (if forced || !skipped then
            invoke engine handler id pass before proposed queue
          else pure (proposed, queue))).run
            { s with session := consulted handler id s.session } := by
  refine ⟨fun tx actor options errands earlier later d hevents hforced => ?_, ?_,
    fun E handler id pass mask before proposed queue s skipped forced changes => dispatch_of_told⟩
  · have h := runErrands_accounted engine errands (.start tx actor options)
    rw [hevents] at h
    exact h.forced_once hforced
  · intro level E record stored s s₁ pending hlimit hsound hcheck hid hload hversion hpending hends
    obtain ⟨hloaded, hsession⟩ := (Session.load_quiet E record.id).traces hload
    have hsound' : s₁.world.trace.Sound := by
      have hsame : s₁ = s₁.tracing (s.world.trace.tell []) :=
        (Prod.mk.inj (hload.symm.trans (hloaded.run hsound))).2
      rw [hsame, TraceSink.tell_nil]
      exact hsound
    refine ⟨?_, ?_, fun handler hfirst => ?_⟩
    · rw [← hpending]
      exact eventsOf_save hcheck hid hload hversion
    · exact run_forces_iff hlimit hsound' (by rw [hsession, hpending]) hends
    · have hforces : (engine.registry.handlers E).find? (forces · record.id s₁.session) =
          some handler := by
        rw [hsession, ← hfirst]
        exact congrArg (List.find? · _) (funext fun _ => forces_eq)
      obtain rfl : pending = true := by
        rw [← hpending, forcePending_eq, ← hsession]
        exact List.any_eq_true.2 (List.find?_isSome.1 (by rw [hforces]; rfl))
      exact run_first_forced hlimit hsound' hends hforces

end Convergence

/-! ## A light that is forced on -/

/-- Turns the right side on when the left one has changed. -/
def light : Handler Unit switchType := flips "light" 1 fun r => switch (isOn r 1) true

def lightEngine : Engine Memory Unit where
  registry := ⟨[⟨switchType, light⟩]⟩
  backend := .memory
  config := { maxPasses := 3 }
  nesting := 0

/-- A session that forces every handler, and skips every handler. -/
def lightScope : Scope Memory Unit where
  world := switchWorld
  session := .start ⟨2⟩ (.ofId "ann") { skip := [.any], force := [.any] }

/-- The record is saved as it is stored, and once more with its left side changed. -/
def lightErrands : List (Errand Memory Unit) :=
  let work := SessionWork.save switchType (switch false false)
  [⟨lightScope.world, work⟩,
    ⟨((Session.perform lightEngine work).run lightScope).2.world,
      SessionWork.save switchType (switch true true)⟩]

/-- The record as a save of it finds it. -/
theorem light_loads : (Session.load lightEngine switchType "a").run lightScope =
    (.ok (switch false false), ((Session.load lightEngine switchType "a").run lightScope).2) := by
  have hrow : ((Session.load lightEngine switchType "a").run lightScope).1.map (·.toRow) =
      .ok (switch false false).toRow := by decide +kernel
  refine Prod.ext ?_ rfl
  cases hload : ((Session.load lightEngine switchType "a").run lightScope).1 with
  | error failure =>
    rw [hload] at hrow
    cases hrow
  | ok record =>
    rw [hload] at hrow
    exact congrArg _ (Record.ext_values (Except.ok.inj hrow))

theorem light_forced_once :
    (dispatchesIn 0 (Session.runErrands lightEngine lightErrands lightScope.session
        (.recorder .empty)).2.log.events =
        [] ++ ⟨"switch", "light", "a", 1, true, true⟩ ::
          [⟨"switch", "light", "a", 1, true, false⟩] ∧
      ∀ d' ∈ [(⟨"switch", "light", "a", 1, true, false⟩ : Dispatch)],
        d'.subject = ⟨"switch", "light", "a"⟩ → d'.forced = false) ∧
    (Convergence.forcePending lightEngine switchType lightScope.session "a" = true ∧
      ∃ d ∈ dispatchesIn 0 (SessionM.eventsOf
          (Convergence.run lightEngine (switch false false) (switch false false) true)
          ((Session.load lightEngine switchType "a").run lightScope).2), d.forced = true) ∧
    ∃ event, (Convergence.dispatch lightEngine light "a" 1 (.ofIndices 3 []) (switch false false)
        (switch false false) .empty).run lightScope =
      (SessionM.withSpan event (Convergence.invoke lightEngine light "a" 1 (switch false false)
        (switch false false) .empty)).run
          { lightScope with
            session := Convergence.consulted light "a" lightScope.session } := by
  obtain ⟨honce, hsave, htold⟩ := Convergence.force_runs_once lightEngine
  have hdispatches : dispatchesIn 0 (Session.runErrands lightEngine lightErrands
      lightScope.session (.recorder .empty)).2.log.events =
        [] ++ ⟨"switch", "light", "a", 1, true, true⟩ ::
          [⟨"switch", "light", "a", 1, true, false⟩] := by decide +kernel
  have hpending : Convergence.forcePending lightEngine switchType lightScope.session "a" =
      true := by decide +kernel
  have hends : ((Convergence.passes lightEngine (switch false false) (switch false false) true
      ((Session.load lightEngine switchType "a").run lightScope).2).head?.all
        fun first => first.result.isOk) = true := by decide +kernel
  refine ⟨⟨hdispatches, (honce _ _ _ _ _ _ _ hdispatches rfl).2.2⟩, ⟨hpending, ?_⟩, ?_⟩
  · refine ((hsave 0 switchType (switch false false) (switch false false) lightScope _ true
      (by decide) TraceSink.sound_empty (by decide +kernel) (by decide +kernel) light_loads
      (by decide +kernel) hpending fun first hfirst => ?_).2.1).2 rfl
    rw [hfirst] at hends
    cases hresult : first.result with
    | error failure =>
      rw [Option.all_some, hresult] at hends
      cases hends
    | ok after => exact ⟨after, rfl⟩
  · have hevent : TraceEvent.callback "switch" "light" "a" true true (.ofMask (.ofIndices 3 [])
        (some (switch false false)) (switch false false)) ∈ SessionM.eventsOf
          (Convergence.dispatch lightEngine light "a" 1 (.ofIndices 3 []) (switch false false)
            (switch false false) .empty) lightScope := by decide +kernel
    exact htold switchType _ "a" 1 _ _ _ _ _ true true _ hevent

end RecordEngine
