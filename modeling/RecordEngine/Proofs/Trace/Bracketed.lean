import RecordEngine.Proofs.Session.Account
import RecordEngine.Proofs.Session.Failing
/-!
The shape of a trace.

A story has its spans one inside the other, so whatever it is acted out on, its spans are left in the
reverse order and none stays open. What is left to say is which spans there are, and that follows the
story of an operation: nothing if the operation is refused before its handlers, and otherwise one
activity with the passes of the handlers and then what the deferred work records in its turn. The
relations here say so of the recorded entries, with depths counted from where the operation begins.

Whether the function of a handler was called, and what it came to, is not in the trace; the relation
for the dispatches of a pass has it beside the entries, and ties it to what is recorded.
-/

set_option autoImplicit false

namespace RecordEngine

variable {β σ α : Type} {E : EntityType} {engine : Engine β σ} {who : Holder}

/-- A handler records nothing of its own. -/
theorem HandlerProgram.Follows.entries_eq_nil {program : HandlerProgram σ E} {story : Story β σ}
    {r : Except Failure (Record E)} (h : program.Follows story r) : story.entries = [] := by
  induction h with
  | done => rfl
  | call _ _ _ _ _ _ ih => exact ih
  | defer _ _ _ ih => exact ih
  | host _ _ _ _ ih => exact ih

namespace Convergence

/-! ## Dispatches -/

/-- What is recorded inside a dispatch, if the function of the handler came to this: it was called
and returned. -/
def completion (handler : Handler σ E) (id : String) (proposed : Record E) :
    Option (Except Failure (Record E)) → List TraceEntry
  | some (.ok after) => [⟨returnEvent handler id proposed after, 0, false, false⟩]
  | _ => []

/-- What is recorded of the dispatches of a pass: some of the handlers, in the order in which they
are registered. `outcome` is what the function of a handler came to, if it was called, and it was
called unless the handler was skipped and not forced. -/
inductive TurnsRecorded (β : Type) (who : Holder) (id : String) (pass : Nat) :
    List (Handler σ E) → List TraceEntry → Prop where
  | nil : TurnsRecorded β who id pass [] []
  | omitted {handler : Handler σ E} {rest : List (Handler σ E)} {told : List TraceEntry}
      (hrest : TurnsRecorded β who id pass rest told) :
      TurnsRecorded β who id pass (handler :: rest) told
  | turn {handler : Handler σ E} {rest : List (Handler σ E)} {told : List TraceEntry}
      (mask : FieldMask) (before proposed : Record E) (skipped forced : Bool)
      (outcome : Option (Except Failure (Record E)))
      (hcalled : outcome.isNone = (skipped && !forced))
      (hfollows : ∀ result, outcome = some result → ∃ (cx : HandlerContext) (inside : Story β σ),
        Context who pass cx ∧ (handler.function cx before proposed).Follows inside result)
      (hrest : TurnsRecorded β who id pass rest told) :
      TurnsRecorded β who id pass (handler :: rest)
        (TraceEntry.span (dispatchEvent handler id mask before proposed skipped forced)
          (completion handler id proposed outcome) ++ told)

theorem turnsRecorded_nil {id : String} {pass : Nat} (handlers : List (Handler σ E)) :
    TurnsRecorded β who id pass handlers [] := by
  induction handlers with
  | nil => exact .nil
  | cons handler rest ih => exact .omitted ih

section
variable {handler : Handler σ E} {id : String} {pass : Nat} {mask : FieldMask}
  {before proposed : Record E} {story : Story β σ} {r : Except Failure (Record E)}

theorem Called.entries (h : Called who handler id pass before proposed story r) :
    ∃ result, story.entries = completion handler id proposed (some result) ∧
      ∃ (cx : HandlerContext) (inside : Story β σ), Context who pass cx ∧
        (handler.function cx before proposed).Follows inside result := by
  cases h with
  | @failed cx hcx told cause hfollows =>
    exact ⟨.error cause, hfollows.entries_eq_nil, cx, story, hcx, hfollows⟩
  | returned hcx hfollows =>
    refine ⟨_, ?_, _, _, hcx, hfollows⟩
    rw [Story.entries_append, hfollows.entries_eq_nil]
    rfl

/-- A dispatch comes before those of the handlers after it. -/
theorem Dispatched.recorded (h : Dispatched who handler id pass mask before proposed story r)
    {rest : List (Handler σ E)} {told : List TraceEntry}
    (hrest : TurnsRecorded β who id pass rest told) :
    TurnsRecorded β who id pass (handler :: rest) (story.entries ++ told) := by
  cases h with
  | passed => exact .omitted hrest
  | skipped =>
    exact .turn mask before proposed true false none rfl (fun _ h => by cases h) hrest
  | @called skipped forced hcalls inside _ hcalled =>
    obtain ⟨result, hentries, hfollows⟩ := hcalled.entries
    have hcall : false = (skipped && !forced) := by
      rcases hcalls with rfl | ⟨-, rfl⟩
      · exact (Bool.and_false skipped).symm
      · rfl
    rw [Story.entries, hentries, Story.entries, List.append_nil]
    exact .turn mask before proposed skipped forced (some result) hcall
      (fun _ h => Option.some.inj h ▸ hfollows) hrest

theorem DispatchedAll.recorded {handlers : List (Handler σ E)}
    (h : DispatchedAll who id pass mask before handlers proposed story r) :
    TurnsRecorded β who id pass handlers story.entries := by
  induction h with
  | nil => exact .nil
  | stopped hfirst =>
    rw [← List.append_nil (Story.entries _)]
    exact hfirst.recorded (turnsRecorded_nil _)
  | next hfirst _ ih =>
    rw [Story.entries_append]
    exact hfirst.recorded ih

end

/-! ## Passes -/

/-- What is recorded of the passes after number `pass`, of which there are at most `left`: they are
numbered one after another. -/
inductive PassesRecorded (engine : Engine β σ) (who : Holder) (E : EntityType) (id : String) :
    (pass left : Nat) → List TraceEntry → Prop where
  | nil (pass left : Nat) : PassesRecorded engine who E id pass left []
  | pass {pass left : Nat} {turns later : List TraceEntry}
      (hturns : TurnsRecorded β who id (pass + 1) (engine.registry.handlers E) turns)
      (hrest : PassesRecorded engine who E id (pass + 1) left later) :
      PassesRecorded engine who E id pass (left + 1)
        (TraceEntry.span (.iteration E.name id (pass + 1)) turns ++ later)

theorem Converged.recorded {id : String} {pass left : Nat} {baseline proposed : Record E}
    {forced : Bool} {passes : List (Story β σ)} {r : Except Failure (Record E)}
    (h : Converged engine who id pass baseline proposed forced left passes r) :
    PassesRecorded engine who E id pass left (iterations E.name id pass passes).entries := by
  induction h with
  | settled => exact .nil _ _
  | exhausted => exact .nil _ _
  | stopped _ hpass => exact .pass hpass.recorded (.nil _ _)
  | passed _ hpass _ ih => exact .pass hpass.recorded ih

end Convergence

namespace Session

open Convergence

/-! ## Operations -/

/-- What is recorded of operations one after another, from the depth at which they begin: each is an
activity, with the passes of its handlers and then the operations of the work they put off. One that
is refused before its handlers has left nothing. -/
inductive Recorded (engine : Engine β σ) (who : Holder) : List TraceEntry → Prop where
  | nil : Recorded engine who []
  | activity {E : EntityType} (kind : AuditAction) (id : String)
      {passes nested later : List TraceEntry}
      (hpasses : PassesRecorded engine who E id 0 engine.config.maxPasses.toNat passes)
      (hnested : Recorded engine who nested) (hlater : Recorded engine who later) :
      Recorded engine who
        (TraceEntry.span (.modelActivity E.name id kind) (passes ++ nested) ++ later)

theorem Recorded.append {a b : List TraceEntry} (ha : Recorded engine who a)
    (hb : Recorded engine who b) : Recorded engine who (a ++ b) := by
  induction ha with
  | nil => exact hb
  | activity kind id hpasses hnested _ _ ih =>
    rw [List.append_assoc]
    exact .activity kind id hpasses hnested ih

variable {inner : Inner β σ} {kind : AuditAction} {story : Story β σ}

theorem Admitted.entries_eq_nil {record : Record E} {r : Except Failure (Record E × Record E)}
    (h : Admitted who kind record story r) : story.entries = [] := by
  cases h <;> rfl

theorem Published.entries_eq_nil {id : String} {baseline : Record E} {written : Option (Record E)}
    {r : Except Failure Unit} (h : Published who kind id baseline written story r) :
    story.entries = [] := by
  cases h <;> rfl

theorem Headed.recorded {baseline given : Record E} {r : Except Failure (Option (Record E))}
    (h : Headed engine who kind baseline given story r) :
    PassesRecorded engine who E given.id 0 engine.config.maxPasses.toNat story.entries := by
  cases h with
  | unsettled hconverged => exact hconverged.recorded
  | settled hconverged hwrote =>
    have hnothing {told : Story β σ} {proposed : Record E}
        (hwrote : Wrote who kind given.id baseline proposed told r) : told.entries = [] := by
      cases hwrote <;> rfl
    rw [Story.entries_append, hnothing hwrote, List.append_nil]
    exact hconverged.recorded

/-- Of every create and every save, the entries are recorded as they should be. -/
def Inner.Records (engine : Engine β σ) (who : Holder) (inner : Inner β σ) : Prop :=
  ∀ (kind : AuditAction) (E : EntityType) (record : Record E) (story : Story β σ)
    (r : Except Failure (Record E)), inner kind E record story r →
      Recorded engine who story.entries

section
variable (hinner : Inner.Records engine who inner)
include hinner

theorem Performed.recorded {program : SessionProgram σ α} {a : α}
    (h : Performed who inner program story a) : Recorded engine who story.entries := by
  induction h with
  | done => exact .nil
  | create hfirst _ ih =>
    rw [Story.entries_append]
    exact (hinner _ _ _ _ _ hfirst).append ih
  | save hfirst _ ih =>
    rw [Story.entries_append]
    exact (hinner _ _ _ _ _ hfirst).append ih
  | fetch _ ih => exact ih
  | inspect _ _ _ ih => exact ih
  | call _ ih => exact ih
  | host _ _ ih => exact ih

theorem Drained.recorded {queue : List (String × SessionWork σ Unit)} {d : Except Failure Unit}
    (h : Drained who inner queue story d) : Recorded engine who story.entries := by
  induction h with
  | nil => exact .nil
  | stopped hfirst =>
    rw [Story.entries]
    exact (hfirst.recorded hinner).append .nil
  | next hfirst _ ih =>
    rw [Story.entries]
    exact (hfirst.recorded hinner).append ih

theorem Closed.recorded {id : String} {record : Record E} {written : Option (Record E)}
    {queue : List (String × SessionWork σ Unit)} {r : Except Failure (Record E)}
    (h : Closed who inner id record written queue story r) :
    Recorded engine who story.entries := by
  cases h with
  | idle => exact .nil
  | stopped _ hdrained => exact hdrained.recorded hinner
  | read _ hdrained =>
    rw [Story.entries_append]
    exact (hdrained.recorded hinner).append .nil

/-- An operation that is admitted records one activity. -/
theorem Operated.recorded {record : Record E} {r : Except Failure (Record E)}
    (h : Operated engine who inner kind record story r) :
    (∃ failure, Admitted who kind record story (.error failure) ∧ r = .error failure ∧
      story.entries = []) ∨
    ∃ (asked : Story β σ) (baseline given : Record E) (passes nested : List TraceEntry),
      Admitted who kind record asked (.ok (baseline, given)) ∧
      story.entries =
        TraceEntry.span (.modelActivity E.name given.id kind) (passes ++ nested) ∧
      PassesRecorded engine who E given.id 0 engine.config.maxPasses.toNat passes ∧
      Recorded engine who nested := by
  have hspan {asked inside : Story β σ} {given : Record E} {baseline : Record E}
      (hadmitted : Admitted who kind record asked (.ok (baseline, given)))
      {passes nested : List TraceEntry} (hinside : inside.entries = passes ++ nested) :
      (asked ++ .span (.modelActivity E.name given.id kind) inside .nil).entries =
        TraceEntry.span (.modelActivity E.name given.id kind) (passes ++ nested) := by
    rw [Story.entries_append, hadmitted.entries_eq_nil, Story.entries, Story.entries, hinside,
      List.append_nil, List.nil_append]
  cases h with
  | refused hadmitted => exact .inl ⟨_, hadmitted, rfl, hadmitted.entries_eq_nil⟩
  | unwritten hadmitted hheaded =>
    exact .inr ⟨_, _, _, _, [], hadmitted, hspan hadmitted (List.append_nil _).symm,
      hheaded.recorded, .nil⟩
  | unpublished hadmitted hheaded hpublished =>
    refine .inr ⟨_, _, _, _, [], hadmitted, hspan hadmitted ?_, hheaded.recorded, .nil⟩
    rw [Story.entries_append, hpublished.entries_eq_nil]
  | closed hadmitted hheaded hpublished hclosed =>
    refine .inr ⟨_, _, _, _, _, hadmitted, hspan hadmitted ?_, hheaded.recorded,
      hclosed.recorded hinner⟩
    rw [Story.entries_append, Story.entries_append, hpublished.entries_eq_nil, List.nil_append]

end

theorem accountAt_records (level : Nat) :
    Inner.Records engine who (accountAt engine who level) := by
  induction level with
  | zero =>
    rintro kind E record story r ⟨rfl, rfl⟩
    exact .nil
  | succ level ih =>
    intro kind E record story r h
    rcases Operated.recorded ih h with
      ⟨failure, -, -, hnothing⟩ |
      ⟨asked, baseline, given, passes, nested, -, hentries, hpasses, hnested⟩
    · rw [hnothing]
      exact .nil
    · rw [hentries, ← List.append_nil (TraceEntry.span _ _)]
      exact .activity kind given.id hpasses hnested .nil

/-- **Traces are well bracketed.** All work of a caller in a session has a story, and with it create
and save, saves of many records and find-and-modify, however they end. A registry in which every
open span has been recorded has as many open spans afterwards as before, and gets the entries of the
story, each at the depth of the spans open around it; to a sink that writes down what it is asked,
every span is left that was entered, in the reverse order. What is recorded is one activity for each
operation that is not refused before its handlers, with its passes, numbered from one without a gap,
and their dispatches in the order of registration, and then, one level down, what the deferred work
records. -/
theorem traces_well_bracketed (engine : Engine β σ) (work : SessionWork σ α) (s : Scope β σ)
    (log : TraceLog) (hlog : (TraceSink.recorder log).Sound) :
    ∃ story r s',
      SessionM.Plays engine (perform engine work) s story r s' ∧
      Performed s.session.holder (accountAt engine s.session.holder (engine.nesting + 1)) work.run
        story r ∧
      (∃ log', (perform engine work).run (s.tracing (.recorder log)) =
          (r, s'.tracing (.recorder log')) ∧
        log'.openSpans = log.openSpans ∧ log'.stack = log.stack ∧
        log'.entries = log.entries ++ story.entries.map (·.deepen log.stack.length)) ∧
      (∃ told, (perform engine work).run (s.tracing (.journal [])) =
          (r, s'.tracing (.journal told)) ∧
        TraceCall.Nested told ∧
        TraceCall.depths log.stack.length told =
          (story.entries.map (·.deepen log.stack.length)).map (·.depth)) ∧
      Recorded engine s.session.holder story.entries ∧
      ∀ (level : Nat) (kind : AuditAction) (E : EntityType) (record : Record E)
        (inner : Story β σ) (result : Except Failure (Record E)),
        accountAt engine s.session.holder level kind E record inner result →
        (∃ failure, result = .error failure ∧ inner.entries = [] ∧
          (level = 0 ∨ Admitted s.session.holder kind record inner (.error failure))) ∨
        ∃ (asked : Story β σ) (baseline given : Record E) (passes nested : List TraceEntry),
          Admitted s.session.holder kind record asked (.ok (baseline, given)) ∧
          inner.entries =
            TraceEntry.span (.modelActivity E.name given.id kind) (passes ++ nested) ∧
          PassesRecorded engine s.session.holder E given.id 0 engine.config.maxPasses.toNat passes ∧
          Recorded engine s.session.holder nested := by
  obtain ⟨story, r, s', hplays, hperformed⟩ := perform_accounts work s rfl
  obtain ⟨told, htold, hnested, hdepths⟩ := story.play_journal []
  refine ⟨story, r, s', hplays, hperformed, ?_, ⟨told, ?_, hnested, ?_⟩,
    hperformed.recorded (accountAt_records _), fun level kind E record inner result h => ?_⟩
  · refine ⟨⟨log.entries ++ story.entries.map (·.deepen log.stack.length), log.stack⟩, ?_, ?_, rfl,
      rfl⟩
    · rw [hplays.run, story.play_eq_tell hlog]
      rfl
    · have hclosed : (story.entries.map (·.deepen log.stack.length)).countP (·.isOpen) = 0 := by
        refine List.countP_eq_zero.2 fun entry hentry => ?_
        obtain ⟨entry', hmem, rfl⟩ := List.mem_map.1 hentry
        rw [Bool.not_eq_true]
        exact story.isOpen_of_mem_entries entry' hmem
      rw [TraceLog.openSpans, List.countP_append, hclosed]
      rfl
  · rw [hplays.run, htold, List.nil_append]
  · rw [hdepths, List.map_map]
    rfl
  · cases level with
    | zero =>
      obtain ⟨rfl, rfl⟩ := h
      exact .inl ⟨_, rfl, rfl, .inl rfl⟩
    | succ level =>
      refine (Operated.recorded (accountAt_records level) h).imp ?_ id
      rintro ⟨failure, hadmitted, hresult, hentries⟩
      exact ⟨failure, hresult, hentries, .inr hadmitted⟩

end Session

/-! ## A customer who brings another -/

/-- A handler that puts off the creation of a fourth customer when it sees the third one. -/
def recommend : Handler Unit customerType where
  name := "recommend"
  trigger := none
  function _ _ proposed :=
    if proposed.id = "c-3" then
      .defer "recommend"
        (do let _ ← SessionWork.create customerType (customer "c-4" "Ida")) (.done (.ok proposed))
    else .done (.ok proposed)

def recommendEngine : Engine Memory Unit :=
  { noteEngine with registry := ⟨[⟨customerType, recommend⟩]⟩, nesting := 1 }

/-- The creation of the fourth customer is told inside that of the third, after its pass. -/
theorem recommend_bracketed :
    ∃ (told : Story Memory Unit) (log' : TraceLog),
      Session.Recorded recommendEngine customerScope.session.holder told.entries ∧
      log'.openSpans = 0 ∧
      log'.entries = told.entries.map (·.deepen 0) ∧
      log'.entries.map (fun entry => (entry.event.kind, entry.depth)) =
        [("model_activity", 0), ("iteration", 1), ("callback", 2), ("callback_complete", 3),
          ("model_activity", 1), ("iteration", 2), ("callback", 3), ("callback_complete", 4)] := by
  obtain ⟨story, r, s', -, -, ⟨log', hrun, hopen, -, hentries⟩, -, hrecorded, -⟩ :=
    Session.traces_well_bracketed recommendEngine
      (SessionWork.create customerType (customer "c-3" "Eve")) customerScope .empty
      TraceSink.sound_empty
  have hlog : log' = ((Session.perform recommendEngine
      (SessionWork.create customerType (customer "c-3" "Eve"))).run
        (customerScope.tracing (.recorder .empty))).2.world.trace.log := by
    rw [hrun]
    rfl
  refine ⟨story, log', hrecorded, hopen, hentries, ?_⟩
  rw [hlog]
  decide +kernel

end RecordEngine
