import RecordEngine.Proofs.Audit.Trail
import RecordEngine.Proofs.Convergence.Forced
import RecordEngine.Proofs.Convergence.Ranked
import RecordEngine.Proofs.Trace.Bracketed
import RecordEngine.Proofs.Trace.Chronicle
/-!
What a trace explains.

A run of the handlers keeps four accounts, each at a place of its own: the events of the trace, the
change sets in them, the history of the session, and the record that the handlers pass on. None is
made from another, and what ties them together is that all four are written at the visits of the
run. So each account is read off the visits here, by an induction of its own, and the trace explains
the record and the history because it has the same visits as they.

The change sets are kept in terms of names, so they need the names of the fields to be distinct.
Registration asks that of the types it takes handlers for, and of no others are there change sets.
-/

set_option autoImplicit false

namespace RecordEngine

open SessionM

variable {β σ γ : Type} {E : EntityType} {engine : Engine β σ} {who : Holder}

/-! ## Registries -/

/-- The types that there are handlers for have valid schemas. -/
def Registry.Sound (registry : Registry σ) : Prop :=
  ∀ r ∈ registry.registrations, r.entity.schema.validate = .ok ()

theorem Registry.sound_empty : (Registry.empty : Registry σ).Sound :=
  fun _ h => absurd h List.not_mem_nil

/-- To register a handler takes a valid schema. -/
theorem Registry.Sound.register {registry registry' : Registry σ} (h : registry.Sound)
    {name : String} {trigger : Option (List String)}
    {function : HandlerContext → Record E → Record E → HandlerProgram σ E}
    (hregister : registry.register E name trigger function = .ok registry') : registry'.Sound := by
  unfold Registry.register at hregister
  cases hvalid : E.schema.validate with
  | error failure =>
    rw [hvalid] at hregister
    cases hregister
  | ok _ =>
    rw [hvalid] at hregister
    cases hmask : triggerMask E name trigger with
    | error failure =>
      rw [hmask] at hregister
      cases hregister
    | ok mask =>
      rw [hmask] at hregister
      change (if _ then _ else _ : Except Failure (Registry σ)) = _ at hregister
      split at hregister
      · cases hregister
      · obtain rfl := Except.ok.inj hregister
        exact List.forall_mem_append.2 ⟨h, List.forall_mem_singleton.2 hvalid⟩

theorem Registry.Sound.nodup {registry : Registry σ} (h : registry.Sound)
    {handler : Handler σ E} (hmem : handler ∈ registry.handlers E) :
    (E.schema.fields.map (·.name)).Nodup := by
  obtain ⟨r, hr, hfor⟩ := List.mem_filterMap.1 hmem
  unfold Registration.handlerFor? at hfor
  split at hfor
  · next hentity => exact Schema.nodup_of_validate (hentity ▸ h r hr)
  · cases hfor

/-! ## Events -/

namespace TraceLog

@[simp] theorem events_enter (log : TraceLog) (event : TraceEvent) :
    (log.enter event).2.events = log.events ++ [event] := List.map_append

@[simp] theorem events_add (log : TraceLog) (event : TraceEvent) :
    (log.add event).events = log.events ++ [event] := List.map_append

@[simp] theorem events_exit (log : TraceLog) (span : Nat) :
    (log.exit span).events = log.events := by
  refine List.ext_getElem? fun i => ?_
  simp only [events, exit, List.getElem?_map, List.getElem?_modify]
  split <;> simp [Function.comp_def]

end TraceLog

/-- A log that a story is played to gets the events of the story. -/
theorem Story.play_recorder (story : Story β σ) (log : TraceLog) :
    ∃ log', story.play (.recorder log) = .recorder log' ∧
      log'.events = log.events ++ story.entries.map (·.event) := by
  induction story generalizing log with
  | nil => exact ⟨log, rfl, by simp [entries]⟩
  | span event inside rest ihinside ihrest =>
    obtain ⟨inner, hinner, hevents⟩ := ihinside (log.enter event).2
    obtain ⟨log', hplay, hlater⟩ := ihrest (inner.exit (log.enter event).1)
    refine ⟨log', ?_, ?_⟩
    · change rest.play ((inside.play (.recorder (log.enter event).2)).exit _) = _
      rw [hinner]
      exact hplay
    · rw [hlater, TraceLog.events_exit, hevents, TraceLog.events_enter, entries, List.map_append,
        TraceEntry.map_event_span]
      simp
  | note event rest ih =>
    obtain ⟨log', hplay, hevents⟩ := ih (log.add event)
    exact ⟨log', hplay, by rw [hevents, TraceLog.events_add, entries]; simp⟩
  | call caller exchange rest ih => exact ih log
  | announce notice answer rest ih => exact ih log
  | host state change rest ih => exact ih log
  | putOff label action rest ih => exact ih log
  | work label action inside rest ihinside ihrest =>
    obtain ⟨inner, hinner, hevents⟩ := ihinside log
    obtain ⟨log', hplay, hlater⟩ := ihrest inner
    refine ⟨log', by rw [play, hinner, hplay], ?_⟩
    rw [hlater, hevents, entries, List.map_append, List.append_assoc]

theorem History.mem_record {history : History} {entity handler id : String}
    {entry : HistoryEntry} : entry ∈ (history.record entity handler id).entries ↔
      entry ∈ history.entries ∨ entry = ⟨entity, handler, id⟩ := by
  have h := history.contains_record entity handler id entry.entity entry.handler entry.id
  rw [Bool.eq_iff_iff, Bool.or_eq_true, beq_iff_eq] at h
  simpa only [contains, List.contains_iff_mem] using h

/-- The change set of an event that has one. -/
def TraceEvent.changes? : TraceEvent → Option ChangeSet
  | callbackComplete _ _ _ _ changes => some changes
  | _ => none

namespace Convergence

namespace Visit

variable (visit : Visit β σ E)

/-- What is traced of the return of the function. -/
def returned? : Option TraceEvent :=
  visit.call.map fun (_, after) => returnEvent visit.handler visit.id visit.found after

/-- What the function changed. -/
def changes? : Option ChangeSet :=
  visit.call.map fun (_, after) => ChangeSet.between visit.found after

/-- What is recorded of the turn. -/
def events : List TraceEvent :=
  if visit.due then visit.event :: visit.returned?.toList else []

variable {visit}

/-- A handler is dispatched for a field that it reacts to and that has changed, or because it is
forced. -/
theorem due_iff : visit.due = true ↔
    (∃ i, (visit.before.field i).agrees (visit.start.field i) = false ∧
      visit.handler.reactsTo i = true) ∨ visit.forced = true := by
  rw [due, Bool.or_eq_true, Bool.not_eq_true', Handler.triggered_iff]
  simp only [Setting.mask, FieldMask.contains_diff_iff]

theorem Exact.events_story (h : visit.Exact who) :
    visit.story.entries.map (·.event) = visit.events := by
  unfold story events returned?
  cases visit.due with
  | false => rfl
  | true =>
    cases hcall : visit.call with
    | none => rfl
    | some out =>
      obtain ⟨told, after⟩ := out
      obtain ⟨-, cx, -, hfollows⟩ := h.follows told after hcall
      simp [Story.entries, TraceEntry.map_event_span, hfollows.entries_eq_nil]

theorem isCallback_events : visit.events.filter (·.isCallback) =
    if visit.due then [visit.event] else [] := by
  unfold events returned?
  cases visit.due with
  | false => rfl
  | true => cases visit.call <;> rfl

theorem mem_after {entry : HistoryEntry} : entry ∈ visit.after.history.entries ↔
    entry ∈ visit.session.history.entries ∨
      visit.call.isSome = true ∧ entry = ⟨E.name, visit.handler.name, visit.id⟩ := by
  unfold after
  cases visit.call with
  | none => simp [consulted]
  | some _ => simp [marked, History.mem_record, consulted]

/-- Only handlers that are dispatched change anything. -/
theorem Exact.changes_events (h : visit.Exact who) :
    visit.events.filterMap (·.changes?) = visit.changes?.toList := by
  have hcalled := h.called
  unfold events returned? changes?
  cases hcall : visit.call with
  | none => cases visit.due <;> rfl
  | some out =>
    rw [hcall, Option.isSome_some, eq_comm, Bool.and_eq_true] at hcalled
    rw [hcalled.1]
    rfl

end Visit

/-- The events of the passes after number `pass`. -/
def recorded (entity id : String) : Nat → List (List (Visit β σ E)) → List TraceEvent
  | _, [] => []
  | pass, visits :: later =>
    .iteration entity id (pass + 1) ::
      (visits.flatMap (·.events) ++ recorded entity id (pass + 1) later)

theorem events_storyOf {visits : List (Visit β σ E)} (h : ∀ visit ∈ visits, visit.Exact who) :
    (storyOf visits).entries.map (·.event) = visits.flatMap (·.events) := by
  induction visits with
  | nil => rfl
  | cons visit rest ih =>
    obtain ⟨hfirst, hrest⟩ := List.forall_mem_cons.1 h
    rw [storyOf, Story.entries_append, List.map_append, hfirst.events_story, ih hrest,
      List.flatMap_cons]

theorem events_iterations (entity id : String) (pass : Nat) {rounds : List (List (Visit β σ E))}
    (h : ∀ visit ∈ rounds.flatten, visit.Exact who) :
    (iterations entity id pass (rounds.map storyOf)).entries.map (·.event) =
      recorded entity id pass rounds := by
  induction rounds generalizing pass with
  | nil => rfl
  | cons visits later ih =>
    obtain ⟨hfirst, hlater⟩ := List.forall_mem_append.1 h
    rw [List.map_cons, iterations, Story.entries, List.map_append, TraceEntry.map_event_span,
      events_storyOf hfirst, ih _ hlater, recorded, List.cons_append]

/-- What is not about whole passes is recorded at the visits. -/
theorem filterMap_recorded {f : TraceEvent → Option γ}
    (hf : ∀ entity id pass, f (.iteration entity id pass) = none) (entity id : String) (pass : Nat)
    (rounds : List (List (Visit β σ E))) :
    (recorded entity id pass rounds).filterMap f =
      rounds.flatten.flatMap fun visit => visit.events.filterMap f := by
  induction rounds generalizing pass with
  | nil => rfl
  | cons visits later ih =>
    rw [recorded, List.filterMap_cons_none (hf _ _ _), List.filterMap_append, ih,
      List.filterMap_flatMap, List.flatten_cons, List.flatMap_append]

theorem isCallback_recorded (entity id : String) (pass : Nat)
    (rounds : List (List (Visit β σ E))) :
    (recorded entity id pass rounds).filter (·.isCallback) =
      (rounds.flatten.filter (·.due)).map (·.event) := by
  rw [← List.filterMap_eq_filter, filterMap_recorded fun _ _ _ => rfl]
  simp only [List.filterMap_eq_filter, Visit.isCallback_events]
  induction rounds.flatten with
  | nil => rfl
  | cons visit rest ih =>
    rw [List.flatMap_cons, ih, List.filter_cons]
    split <;> rfl

theorem changes_recorded (entity id : String) (pass : Nat) {rounds : List (List (Visit β σ E))}
    (h : ∀ visit ∈ rounds.flatten, visit.Exact who) :
    (recorded entity id pass rounds).filterMap (·.changes?) =
      rounds.flatten.filterMap (·.changes?) := by
  rw [filterMap_recorded fun _ _ _ => rfl]
  generalize rounds.flatten = visits at h ⊢
  induction visits with
  | nil => rfl
  | cons visit rest ih =>
    obtain ⟨hfirst, hrest⟩ := List.forall_mem_cons.1 h
    rw [List.flatMap_cons, hfirst.changes_events, ih hrest, List.filterMap_cons]
    cases visit.changes? <;> rfl

end Convergence

/-! ## Change sets -/

/-- The row that is left when each change set overwrites the fields it lists. -/
def retrace (E : EntityType) (row : Row) (changes : List ChangeSet) : Row :=
  changes.foldl (fun row c => c.patch E.schema row) row

/-- The change sets lead from one row to the other. -/
structure Retraces (E : EntityType) (row : Row) (changes : List ChangeSet) (row' : Row) : Prop where
  /-- One after another they give the row. -/
  agrees : RowsAgree (retrace E row changes) row'
  /-- Each lists for a field the value that those before it give. -/
  olds : ∀ before c after, changes = before ++ c :: after → ∀ change ∈ c.changes,
    ∃ i old, E.schema.fieldIndex? change.field = some i ∧ change.old = some old ∧
      old.agrees ((retrace E row before).getD i .null) = true

theorem Retraces.nil {row row' : Row} (h : RowsAgree row row') : Retraces E row [] row' where
  agrees := h
  olds before c after hsplit := by simp at hsplit

theorem Retraces.cons {row row' : Row} {c : ChangeSet} {rest : List ChangeSet}
    (hfirst : ∀ change ∈ c.changes, ∃ i old, E.schema.fieldIndex? change.field = some i ∧
      change.old = some old ∧ old.agrees (row.getD i .null) = true)
    (h : Retraces E (c.patch E.schema row) rest row') : Retraces E row (c :: rest) row' where
  agrees := h.agrees
  olds before c' after hsplit := by
    cases before with
    | nil =>
      obtain ⟨rfl, -⟩ := List.cons.inj hsplit
      exact hfirst
    | cons first before =>
      obtain ⟨rfl, hrest⟩ := List.cons.inj hsplit
      exact h.olds before c' after hrest

/-- What a function changed leads from what it was given to what it left. -/
theorem RowsAgree.patch_between (hnodup : (E.schema.fields.map (·.name)).Nodup) {row : Row}
    {found after : Record E} (h : RowsAgree row found.toRow) :
    RowsAgree ((ChangeSet.between found after).patch E.schema row) after.toRow := by
  have hlength : row.length = E.fields.length := h.1.trans found.length_toRow
  refine ⟨by rw [ChangeSet.length_patch, hlength, Record.length_toRow], fun i => ?_⟩
  rw [ChangeSet.between, ChangeSet.getD_patch_ofMask hnodup
    (fun i => FieldMask.lt_of_contains_diff) _ _ hlength]
  split
  · exact Value.agrees_refl _
  · next hi =>
    -- A field that is not listed is as it was.
    exact Value.agrees_trans (h.2 i)
      (FieldMask.agrees_of_not_contains_diff (Bool.eq_false_iff.2 hi))

namespace Convergence

section
variable {visits : List (Visit β σ E)} {first last : Record E} {session session' : Session}

theorem Chain.exact (h : Chain who first session visits last session') :
    ∀ visit ∈ visits, visit.Exact who := by
  induction h with
  | nil => exact fun _ hmem => absurd hmem List.not_mem_nil
  | next hexact _ ih => exact List.forall_mem_cons.2 ⟨hexact, ih⟩

/-- The changes made at the visits lead from the first record to the last. Between the visits
nothing changes, so each function is given what the changes before it lead to. -/
theorem Chain.retraces (h : Chain who first session visits last session')
    (hnodup : ∀ visit ∈ visits, (E.schema.fields.map (·.name)).Nodup) {row : Row}
    (hrow : RowsAgree row first.toRow) :
    Retraces E row (visits.filterMap (·.changes?)) last.toRow := by
  induction h generalizing row with
  | nil => exact .nil hrow
  | @next visit rest record session _ _ ih =>
    obtain ⟨hnodup, hrest⟩ := List.forall_mem_cons.1 hnodup
    rw [List.filterMap_cons, Visit.changes?]
    cases hcall : visit.call with
    | none =>
      have hleft : visit.left = visit.found := by rw [Visit.left, hcall]
      exact ih hrest (hleft ▸ hrow)
    | some out =>
      have hleft : visit.left = out.2 := by rw [Visit.left, hcall]
      exact .cons (fun _ => ChangeSet.olds_agree hnodup hrow.2)
        (ih hrest (hleft ▸ hrow.patch_between hnodup))

/-! ## The history -/

/-- The history gets the handlers that were called at the visits, and no others. -/
theorem Chain.mem_history (h : Chain who first session visits last session')
    (entry : HistoryEntry) :
    entry ∈ session'.history.entries ↔ entry ∈ session.history.entries ∨
      ∃ visit ∈ visits, visit.call.isSome = true ∧
        entry = ⟨E.name, visit.handler.name, visit.id⟩ := by
  induction h with
  | nil => simp
  | next _ _ ih => rw [ih, Visit.mem_after, or_assoc, List.exists_mem_cons_iff]

end

/-! ## The explanation -/

/-- The visits of a run that converged, and what they explain. The events are those that the run
recorded. -/
structure Explains (engine : Engine β σ) (baseline proposed : Record E) (forceFirst : Bool)
    (s s' : Scope β σ) (out : Outcome σ E) (events : List TraceEvent)
    (rounds : List (List (Visit β σ E))) : Prop where
  /-- Each visit finds what the one before it left, the passes are those that are due, and the last
  visit leaves the record and the session of the run. -/
  chronicle : Chronicle engine s.session.holder proposed.id 0 baseline proposed forceFirst s.session
    rounds out.record s'.session
  /-- What the run does, besides its trace to the backend and to the host, is what happens at the
  visits. -/
  plays : Plays engine (run engine baseline proposed forceFirst) s
    (iterations E.name proposed.id 0 (rounds.map storyOf)) (.ok out) s'
  /-- In each pass every handler has its turn, in the order in which they are registered. -/
  turns : rounds.map (·.map fun visit => (visit.pass, visit.handler)) =
    (List.range out.passes).map fun k =>
      (engine.registry.handlers E).map fun handler => (k + 1, handler)
  /-- A handler is due if it reacts to a field that the last pass changed, or is forced. -/
  due : ∀ visit ∈ rounds.flatten, visit.due = true ↔
    (∃ i, (visit.before.field i).agrees (visit.start.field i) = false ∧
      visit.handler.reactsTo i = true) ∨ visit.forced = true
  /-- The events are those of the passes and within each those of the visits, -/
  recorded : events = Convergence.recorded E.name proposed.id 0 rounds
  /-- so that the dispatches are just those that were due, in order. -/
  dispatches : events.filter (·.isCallback) = (rounds.flatten.filter (·.due)).map (·.event)
  /-- The function was called just where the handler was due and was not skipped, or was forced. -/
  called : ∀ visit ∈ rounds.flatten,
    visit.call.isSome = (visit.due && (!visit.skipped || visit.forced))
  /-- It did what is told of it, and left the identifier. -/
  follows : ∀ visit ∈ rounds.flatten, ∀ told after, visit.call = some (told, after) →
    after.id = visit.id ∧ ∃ cx : HandlerContext, Context s.session.holder visit.pass cx ∧
      (visit.handler.function cx visit.before visit.found).Follows told (.ok after)
  /-- The change sets lead from the record that was proposed to the one that the run came to. -/
  retraces : Retraces E proposed.toRow (events.filterMap (·.changes?)) out.record.toRow
  /-- The history has got the handlers that were called, and no others. -/
  history : ∀ entry, entry ∈ s'.session.history.entries ↔ entry ∈ s.session.history.entries ∨
    ∃ visit ∈ rounds.flatten, visit.call.isSome = true ∧
      entry = ⟨E.name, visit.handler.name, proposed.id⟩

/-- **The trace of a run explains its result.** Let the types of the handlers have valid schemas, as
registration demands, and a run converge in a session whose trace is recorded. Then the events it
adds are those of a chronicle of visits, in which every handler has its turn in every pass. It is
dispatched if a field it reacts to has changed or it is forced, and called if besides it is not
skipped or is forced; the change sets of the calls, written one after another over the record that
was proposed, give the record that the run came to, and each starts from the values that it finds;
and what the history gets are the handlers that were called. -/
theorem run_explained (hregistry : engine.registry.Sound) (baseline proposed : Record E)
    (forceFirst : Bool) {s s' : Scope β σ} {log : TraceLog} (htrace : s.world.trace = .recorder log)
    {out : Outcome σ E}
    (hrun : (run engine baseline proposed forceFirst).run s = (.ok out, s')) :
    ∃ events rounds, s'.world.trace.log.events = log.events ++ events ∧
      Explains engine baseline proposed forceFirst s s' out events rounds := by
  have hchronicled : Comes engine (run engine baseline proposed forceFirst) s _ :=
    runFrom_chronicled proposed.id 0 baseline proposed .empty forceFirst _ s
  obtain ⟨story, r, final, hplays, hcomes⟩ := hchronicled
  obtain ⟨rfl, rfl⟩ := Prod.mk.inj (hplays.run_self.symm.trans hrun)
  obtain ⟨rounds, hchronicle, hpasses, rfl⟩ := hcomes out rfl
  rw [Nat.zero_add] at hpasses
  obtain ⟨log', hlog, hevents⟩ :=
    (iterations E.name proposed.id 0 (rounds.map storyOf)).play_recorder log
  have hchain := hchronicle.chain
  rw [events_iterations _ _ _ hchain.exact] at hevents
  refine ⟨_, rounds, ?_, hchronicle, ⟨hplays.run, hplays.served, hplays.holder⟩, ?_,
    fun _ _ => Visit.due_iff, rfl, isCallback_recorded _ _ _ _,
    fun visit hmem => (hchain.exact visit hmem).called,
    fun visit hmem => (hchain.exact visit hmem).follows, ?_, ?_⟩
  · rw [htrace, hlog]
    exact hevents
  · simpa only [hpasses, Nat.zero_add] using hchronicle.turns
  · rw [changes_recorded _ _ _ hchain.exact]
    have hnodup : ∀ visit ∈ rounds.flatten, (E.schema.fields.map (·.name)).Nodup :=
      fun visit hmem => hregistry.nodup (hchronicle.of_mem visit hmem).2
    exact hchain.retraces hnodup ⟨rfl, fun _ => Value.agrees_refl _⟩
  · intro entry
    rw [Scope.tracing_session, hchain.mem_history entry]
    refine or_congr_right (exists_congr fun visit => and_congr_right fun hmem => ?_)
    rw [(hchronicle.of_mem visit hmem).1]

end Convergence

/-- In the first pass both handlers are forced; in the second the one that is called for is
skipped. -/
theorem relay_explained :
    relayEngine.registry.Sound ∧ lightScope.world.trace = .recorder .empty ∧
      ∃ out s', (Convergence.run relayEngine (relay false false false) (relay true false false)
          false).run lightScope = (.ok out, s') ∧
        (out.passes = 2 ∧ out.record.toRow = (relay true true false).toRow) ∧
        ∃ events rounds, s'.world.trace.log.events = TraceLog.empty.events ++ events ∧
          Convergence.Explains relayEngine (relay false false false) (relay true false false) false
            lightScope s' out events rounds := by
  have hregistry : relayEngine.registry.Sound :=
    List.forall_mem_cons.2 ⟨rfl, List.forall_mem_singleton.2 rfl⟩
  have hends : ((Convergence.run relayEngine (relay false false false) (relay true false false)
      false).run lightScope).1.map (fun out => (out.passes, out.record.toRow)) =
        .ok (2, (relay true true false).toRow) := by decide +kernel
  cases hrun : (Convergence.run relayEngine (relay false false false) (relay true false false)
      false).run lightScope with
  | mk result s' =>
    rw [hrun] at hends
    cases result with
    | error failure => cases hends
    | ok out =>
      exact ⟨hregistry, rfl, out, s', rfl, Prod.mk.inj (Except.ok.inj hends),
        Convergence.run_explained hregistry _ _ _ rfl hrun⟩

end RecordEngine
