import RecordEngine.Proofs.Session.Calls
/-!
What an operation tells its trace.

An operation writes into the trace and never reads it, so it can be said once and for all sinks what
it tells: a list of entries, with depths counted from where the operation begins. `TraceSink.tell`
adds such a list to a sink, and `Traces` says of an operation in a scope what it tells, what it
comes to and where it ends, whichever sink the trace goes to. A span is told as a closed entry with
what was told inside it one level deeper.

Spans are known by their positions. That leaving one does not close another takes a sink whose open
spans have been recorded, which is what `TraceSink.Sound` asks for. A sink that writes down what it
is asked holds no entries; of those there is nothing to be told in this way.
-/

set_option autoImplicit false

namespace RecordEngine

variable {β σ α γ : Type}

/-! ## Sinks -/

/-- The sink holds entries, or the number of them, and every open span has been recorded. -/
def TraceSink.Sound : TraceSink → Prop
  | recorder log => ∀ span ∈ log.stack, span < log.entries.length
  | numbering _ => True
  | journal _ => False

namespace TraceEntry

/-- The entry, with more spans open around it. -/
def deepen (n : Nat) (entry : TraceEntry) : TraceEntry := { entry with depth := n + entry.depth }

@[simp] theorem deepen_event (n : Nat) (entry : TraceEntry) :
    (entry.deepen n).event = entry.event := rfl

@[simp] theorem deepen_isSpan (n : Nat) (entry : TraceEntry) :
    (entry.deepen n).isSpan = entry.isSpan := rfl

@[simp] theorem deepen_zero (entry : TraceEntry) : entry.deepen 0 = entry := by
  rw [deepen, Nat.zero_add]

theorem deepen_deepen (m n : Nat) (entry : TraceEntry) :
    (entry.deepen n).deepen m = entry.deepen (m + n) := by
  simp only [deepen, Nat.add_assoc]

/-- What is told of a span that has been left. -/
def span (event : TraceEvent) (told : List TraceEntry) : List TraceEntry :=
  ⟨event, 0, true, false⟩ :: told.map (·.deepen 1)

theorem map_event_span (event : TraceEvent) (told : List TraceEntry) :
    (span event told).map (·.event) = event :: told.map (·.event) := by
  rw [span, List.map_cons, List.map_map]
  rfl

theorem mem_span {event : TraceEvent} {told : List TraceEntry} {entry : TraceEntry} :
    entry ∈ span event told ↔
      entry = ⟨event, 0, true, false⟩ ∨ ∃ inner ∈ told, inner.deepen 1 = entry := by
  rw [span, List.mem_cons, List.mem_map]

end TraceEntry

namespace TraceSink

/-- The sink with entries added, at the depth it has come to. -/
def tell (sink : TraceSink) (told : List TraceEntry) : TraceSink :=
  match sink with
  | recorder log =>
    recorder { log with entries := log.entries ++ told.map (·.deepen log.stack.length) }
  | numbering next => numbering (next + told.countP (·.isSpan))
  | journal calls => journal calls

@[simp] theorem tell_nil (sink : TraceSink) : sink.tell [] = sink := by
  cases sink with
  | recorder log => simp only [tell, List.map_nil, List.append_nil]
  | numbering next => rfl
  | journal calls => rfl

theorem tell_append (sink : TraceSink) (told told' : List TraceEntry) :
    (sink.tell told).tell told' = sink.tell (told ++ told') := by
  cases sink with
  | recorder log => simp only [tell, List.map_append, List.append_assoc]
  | numbering next => simp only [tell, List.countP_append, Nat.add_assoc]
  | journal calls => rfl

theorem Sound.tell {sink : TraceSink} (h : sink.Sound) (told : List TraceEntry) :
    (sink.tell told).Sound := by
  cases sink with
  | recorder log =>
    intro span hspan
    rw [List.length_append]
    exact Nat.lt_add_right _ (h span hspan)
  | numbering next => trivial
  | journal calls => exact h

theorem sound_empty : (recorder .empty).Sound := fun _ h => absurd h List.not_mem_nil

/-- What was told to a sink that held nothing is what it holds. -/
theorem tell_empty (told : List TraceEntry) :
    (recorder .empty).tell told = recorder ⟨told, []⟩ := by
  simp [tell, TraceLog.empty]

theorem events_tell_empty (told : List TraceEntry) :
    ((recorder .empty).tell told).log.events = told.map (·.event) := by
  rw [tell_empty]
  rfl

theorem add_eq_tell {sink : TraceSink} (h : sink.Sound) (event : TraceEvent) :
    sink.add event = sink.tell [⟨event, 0, false, false⟩] := by
  cases sink with
  | recorder log => rfl
  | numbering next => rfl
  | journal calls => exact h.elim

theorem Sound.enter {sink : TraceSink} (h : sink.Sound) (event : TraceEvent) :
    (sink.enter event).2.Sound := by
  cases sink with
  | recorder log =>
    intro span hspan
    change span ∈ log.stack ++ [log.entries.length] at hspan
    change span < (log.entries ++ [_]).length
    rw [List.length_append, List.length_singleton]
    rcases List.mem_append.1 hspan with hspan | hspan
    · exact Nat.lt_succ_of_lt (h span hspan)
    · rw [List.mem_singleton.1 hspan]
      exact Nat.lt_succ_self _
  | numbering next => trivial
  | journal calls => exact h

/-- A span that is entered and left is told with what was told inside it. -/
theorem exit_tell_enter {sink : TraceSink} (h : sink.Sound) (event : TraceEvent)
    (told : List TraceEntry) :
    ((sink.enter event).2.tell told).exit (sink.enter event).1 =
      sink.tell (TraceEntry.span event told) := by
  cases sink with
  | journal calls => exact h.elim
  | numbering next =>
    change numbering (next + 1 + _) = numbering (next + _)
    rw [TraceEntry.span, List.countP_cons, List.countP_map, Nat.add_assoc]
    simp [Function.comp_def, Nat.add_comm]
  | recorder log =>
    obtain ⟨entries, stack⟩ := log
    -- No open span has the position of the one that is left.
    have hstack : (stack ++ [entries.length]).filter (· ≠ entries.length) = stack := by
      have hother : ∀ span ∈ stack, decide (span ≠ entries.length) = true := fun span hspan =>
        decide_eq_true (Nat.ne_of_lt (h span hspan))
      rw [List.filter_append, List.filter_eq_self.2 hother]
      simp
    have hdeep : told.map (·.deepen (stack ++ [entries.length]).length) =
        (told.map (·.deepen 1)).map (·.deepen stack.length) := by
      rw [List.map_map, List.length_append, List.length_singleton]
      exact List.map_congr_left fun entry _ => (entry.deepen_deepen stack.length 1).symm
    have hentries : (entries ++ [(⟨event, stack.length, true, true⟩ : TraceEntry)] ++
          told.map (·.deepen (stack ++ [entries.length]).length)).modify entries.length
            (fun entry => { entry with isOpen := false }) =
        entries ++ (TraceEntry.span event told).map (·.deepen stack.length) := by
      rw [List.append_assoc, List.modify_eq_take_drop, List.take_left, List.drop_left, hdeep]
      rfl
    exact congrArg recorder (congrArg₂ TraceLog.mk hentries hstack)

end TraceSink

/-! ## Operations -/

/-- The scope with its trace going elsewhere. -/
def Scope.tracing (s : Scope β σ) (sink : TraceSink) : Scope β σ :=
  { s with world := { s.world with trace := sink } }

@[simp] theorem Scope.tracing_tracing (s : Scope β σ) (sink sink' : TraceSink) :
    (s.tracing sink).tracing sink' = s.tracing sink' := rfl

@[simp] theorem Scope.tracing_trace (s : Scope β σ) (sink : TraceSink) :
    (s.tracing sink).world.trace = sink := rfl

@[simp] theorem Scope.tracing_session (s : Scope β σ) (sink : TraceSink) :
    (s.tracing sink).session = s.session := rfl

theorem Scope.tracing_self (s : Scope β σ) : s.tracing s.world.trace = s := rfl

namespace SessionM

theorem withSpan_run (m : SessionM β σ α) (event : TraceEvent) (s : Scope β σ) :
    (withSpan event m).run s =
      ((m.run (s.tracing (s.world.trace.enter event).2)).1,
        (m.run (s.tracing (s.world.trace.enter event).2)).2.tracing
          ((m.run (s.tracing (s.world.trace.enter event).2)).2.world.trace.exit
            (s.world.trace.enter event).1)) := rfl

/-- What an operation tells in a scope, what it comes to and where it ends but for the trace. -/
def Traces (m : SessionM β σ α) (s : Scope β σ) (told : List TraceEntry) (r : Except Failure α)
    (s' : Scope β σ) : Prop :=
  ∀ sink : TraceSink, sink.Sound → m.run (s.tracing sink) = (r, s'.tracing (sink.tell told))

section
variable {m : SessionM β σ α} {f : α → SessionM β σ γ} {s s' s'' : Scope β σ}
  {told told' : List TraceEntry} {r : Except Failure α}

/-- An operation that leaves the trace alone. -/
theorem Traces.silent
    (h : ∀ sink, m.run (s.tracing sink) = (r, s'.tracing sink)) : Traces m s [] r s' := by
  intro sink _
  rw [TraceSink.tell_nil]
  exact h sink

theorem Traces.bind {a : α} {r : Except Failure γ} (h : Traces m s told (.ok a) s')
    (h' : Traces (f a) s' told' r s'') : Traces (m >>= f) s (told ++ told') r s'' := by
  intro sink hsink
  rw [run_bind, h sink hsink, ← TraceSink.tell_append]
  exact h' _ (hsink.tell told)

theorem Traces.bind_error {failure : Failure} (h : Traces m s told (.error failure) s') :
    Traces (m >>= f) s told (.error failure) s' := by
  intro sink hsink
  rw [run_bind, h sink hsink]

/-- An operation, and what is done with its answer, be it a failure. -/
theorem Traces.answered {k : Except Failure α → SessionM β σ γ} {r' : Except Failure γ}
    (h : Traces m s told r s') (h' : Traces (k r) s' told' r' s'') :
    Traces (fun s => (k (m.run s).1).run (m.run s).2) s (told ++ told') r' s'' := by
  intro sink hsink
  change (k (m.run (s.tracing sink)).1).run (m.run (s.tracing sink)).2 = _
  rw [h sink hsink, ← TraceSink.tell_append]
  exact h' _ (hsink.tell told)

theorem Traces.withSpan (h : Traces m s told r s') (event : TraceEvent) :
    Traces (withSpan event m) s (TraceEntry.span event told) r s' := by
  intro sink hsink
  rw [withSpan_run, Scope.tracing_trace, Scope.tracing_tracing, h _ (hsink.enter event)]
  rw [← TraceSink.exit_tell_enter hsink]
  rfl

theorem Traces.traceEvent (event : TraceEvent) :
    Traces (traceEvent event) s [⟨event, 0, false, false⟩] (.ok ()) s := by
  intro sink hsink
  rw [← TraceSink.add_eq_tell hsink]
  rfl

theorem Traces.adapt (h : Traces m s told r s') (f : Failure → Failure) :
    Traces (m.adapt f) s told (r.mapError f) s' := by
  intro sink hsink
  rw [adapt_run, h sink hsink]

/-- An operation comes to the same whatever sink its trace goes to. -/
theorem Traces.run (h : Traces m s told r s') (hsound : s.world.trace.Sound) :
    m.run s = (r, s'.tracing (s.world.trace.tell told)) := h s.world.trace hsound

/-- The events that an operation leaves in a trace that held nothing. -/
def eventsOf (m : SessionM β σ α) (s : Scope β σ) : List TraceEvent :=
  (m.run (s.tracing (.recorder .empty))).2.world.trace.log.events

theorem Traces.eventsOf_eq (h : Traces m s told r s') :
    eventsOf m s = told.map (·.event) := by
  rw [eventsOf, h _ TraceSink.sound_empty, Scope.tracing_trace, TraceSink.events_tell_empty]

end

end SessionM

end RecordEngine
