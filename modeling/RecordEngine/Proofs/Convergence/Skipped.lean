import RecordEngine.Proofs.Trace.Turns
/-!
Skipping a handler and not registering it.

A selector that skips a handler on all records and does not wear out shields the handler, if nothing
before it in the skip list could be used up on the handler and nothing in the force list selects it.
To ask about a shielded handler then uses up nothing: its turn leaves the session, the record and
the world as they are, and all that is left of it is an empty span in the trace. So the passes go
the same way with the handler and without it, turn by turn, and through `omission` the same is shown
of everything that is done in a session.

The shield has to outlast the session, for what other handlers ask uses the lists up. It does: a
selector that is spent keeps what it selects and whether it works only once.
-/

set_option autoImplicit false

namespace RecordEngine

open SessionM

variable {β σ : Type} {E : EntityType} {engine : Engine β σ}

/-! ## Shields -/

namespace Selector

/-- The selector never selects the handler. -/
def Ignores (selector : Selector) (entity handler : String) : Prop :=
  ∀ id, selector.selects entity handler id = false

/-- The selector selects the handler on every record and does not wear out. -/
structure Shields (selector : Selector) (entity handler : String) : Prop where
  entity : selector.entity = some entity
  handler : selector.handler = some handler
  ids : selector.ids = none
  lasts : selector.once = false

variable {selector : Selector} {entity handler : String}

theorem Ignores.spend (h : selector.Ignores entity handler) (spent : String) :
    (selector.spend spent).Ignores entity handler :=
  fun id => (spend_selects selector spent entity handler id).trans (h id)

theorem Ignores.not_accepts (h : selector.Ignores entity handler) (id : String) :
    selector.accepts entity handler id = false := by
  rw [accepts, h id, Bool.false_and]

theorem Shields.accepts (h : selector.Shields entity handler) (id : String) :
    selector.accepts entity handler id = true := by
  rw [Selector.accepts, selects, isConsumed, h.entity, h.handler, h.ids, h.lasts]
  simp [permits]

end Selector

namespace SelectorList

/-- Some selector shields the handler, and those before it that work only once do not select it. -/
inductive Shielded (entity handler : String) : List Selector → Prop where
  | here {shield : Selector} {rest : List Selector} (hshield : shield.Shields entity handler) :
    Shielded entity handler (shield :: rest)
  | later {selector : Selector} {rest : List Selector}
      (hignores : selector.once = true → selector.Ignores entity handler)
      (hrest : Shielded entity handler rest) : Shielded entity handler (selector :: rest)

variable {entity handler : String} {selectors : List Selector}

theorem Shielded.of_append {before after : List Selector} {shield : Selector}
    (hshield : shield.Shields entity handler)
    (hbefore : ∀ selector ∈ before, selector.once = true → selector.Ignores entity handler) :
    Shielded entity handler (before ++ shield :: after) := by
  induction before with
  | nil => exact .here hshield
  | cons first rest ih =>
    rw [List.forall_mem_cons] at hbefore
    exact .later hbefore.1 (ih hbefore.2)

/-- To ask about a shielded handler uses up nothing. -/
theorem Shielded.consumeFirst_self (h : Shielded entity handler selectors) (id : String) :
    consumeFirst entity handler id selectors = (true, selectors) := by
  induction h with
  | here hshield =>
    rw [consumeFirst, if_pos (hshield.accepts id), Selector.spend_of_lasts hshield.lasts]
  | @later selector rest hignores hrest ih =>
    rw [consumeFirst]
    by_cases haccepts : selector.accepts entity handler id = true
    · have hlasts : selector.once = false := by
        by_contra honce
        rw [(hignores (by simpa using honce)).not_accepts id] at haccepts
        cases haccepts
      rw [if_pos haccepts, Selector.spend_of_lasts hlasts]
    · rw [if_neg haccepts, ih]

theorem consume_of_shielded {list : SelectorList} (h : Shielded entity handler list.selectors)
    (id : String) : list.consume entity handler id = (true, list) := by
  rw [consume, h.consumeFirst_self id]

/-- A shield outlasts whatever the list is asked. -/
theorem Shielded.consumeFirst (h : Shielded entity handler selectors)
    (entity' handler' id : String) :
    Shielded entity handler (consumeFirst entity' handler' id selectors).2 := by
  induction h with
  | here hshield =>
    rw [SelectorList.consumeFirst]
    split
    · rw [Selector.spend_of_lasts hshield.lasts]
      exact .here hshield
    · exact .here hshield
  | later hignores hrest ih =>
    rw [SelectorList.consumeFirst]
    split
    · refine .later (fun honce => (hignores ?_).spend id) hrest
      rwa [Selector.spend_once] at honce
    · exact .later hignores ih

theorem ignores_of_mem_consumeFirst
    (h : ∀ selector ∈ selectors, selector.Ignores entity handler)
    (entity' handler' id : String) :
    ∀ selector ∈ (consumeFirst entity' handler' id selectors).2,
      selector.Ignores entity handler := by
  induction selectors with
  | nil => exact h
  | cons first rest ih =>
    rw [List.forall_mem_cons] at h
    rw [consumeFirst]
    split
    · exact List.forall_mem_cons.2 ⟨h.1.spend id, h.2⟩
    · exact List.forall_mem_cons.2 ⟨h.1, ih h.2⟩

end SelectorList

/-- The handler is skipped in the session whenever it is asked about, and never forced. -/
structure Session.Shields (session : Session) (entity handler : String) : Prop where
  skip : SelectorList.Shielded entity handler session.overrides.skip.selectors
  force : ∀ selector ∈ session.overrides.force.selectors, selector.Ignores entity handler

/-- The options of a session shield a handler from its beginning. -/
theorem Session.shields_start (tx : TxId) (actor : Actor) {options : Options}
    {entity handler : String} {before after : List Selector} {shield : Selector}
    (hskip : options.skip = before ++ shield :: after) (hshield : shield.Shields entity handler)
    (hbefore : ∀ selector ∈ before, selector.once = true → selector.Ignores entity handler)
    (hforce : ∀ selector ∈ options.force, selector.Ignores entity handler) :
    (Session.start tx actor options).Shields entity handler where
  skip := by
    change SelectorList.Shielded entity handler options.skip
    rw [hskip]
    exact .of_append hshield hbefore
  force := hforce

theorem Session.Shields.not_forced {session : Session} {entity handler : String}
    (h : session.Shields entity handler) (id : String) :
    session.overrides.force.accepts entity handler id = false := by
  rw [SelectorList.accepts, List.any_eq_false]
  intro selector hselector
  rw [(h.force selector hselector).not_accepts id]
  decide

/-! ## The registry without a handler -/

/-- Whether the handler has this name, and its entity type that one. -/
def Handler.isNamed (handler : Handler σ E) (entity name : String) : Bool :=
  E.name == entity && handler.name == name

theorem Handler.isNamed_iff {handler : Handler σ E} {entity name : String} :
    handler.isNamed entity name = true ↔ E.name = entity ∧ handler.name = name := by
  rw [isNamed, Bool.and_eq_true, beq_iff_eq, beq_iff_eq]

/-- The registry without the handler of a name for the entity types of a name. -/
def Registry.without (registry : Registry σ) (entity name : String) : Registry σ :=
  ⟨registry.registrations.filter (!·.handler.isNamed entity name)⟩

theorem Registry.handlers_without (registry : Registry σ) (entity name : String) (E : EntityType) :
    (registry.without entity name).handlers E =
      (registry.handlers E).filter (!·.isNamed entity name) := by
  obtain ⟨registrations⟩ := registry
  change (registrations.filter _).filterMap _ = (registrations.filterMap _).filter _
  rw [List.filterMap_filter, List.filter_filterMap]
  refine List.filterMap_congr fun r _ => ?_
  obtain ⟨F, handler⟩ := r
  unfold Registration.handlerFor?
  by_cases hF : F = E
  · subst hF
    rw [dif_pos rfl]
    rfl
  · simp [hF]

/-! ## The trace without the spans of a handler -/

/-- Whether the event is a dispatch of the handler. -/
def TraceEvent.isCallbackOf (entity name : String) : TraceEvent → Bool
  | callback entity' name' .. => entity' == entity && name' == name
  | _ => false

/-- What is told without the handler is what is told with it but for the dispatches of the handler,
all of which are spans, left again, of a handler that is skipped and not forced. -/
structure Omits (entity name : String) (told told' : List TraceEntry) : Prop where
  rest : told' = told.filter fun entry => !entry.event.isCallbackOf entity name
  omitted : ∀ entry ∈ told, entry.event.isCallbackOf entity name = true →
    entry.isSpan = true ∧ entry.isOpen = false ∧
      ∃ id triggered, entry.event = .callback entity name id true false triggered

namespace Omits

variable {entity name : String} {told told' later later' : List TraceEntry}

theorem nil : Omits entity name [] [] := ⟨rfl, List.forall_mem_nil _⟩

theorem append (h : Omits entity name told told') (h' : Omits entity name later later') :
    Omits entity name (told ++ later) (told' ++ later') where
  rest := by rw [List.filter_append, h.rest, h'.rest]
  omitted := List.forall_mem_append.2 ⟨h.omitted, h'.omitted⟩

/-- An event that is no dispatch of the handler. -/
theorem span (h : Omits entity name told told') {event : TraceEvent}
    (hevent : event.isCallbackOf entity name = false) :
    Omits entity name (TraceEntry.span event told) (TraceEntry.span event told') where
  rest := by
    rw [TraceEntry.span, TraceEntry.span, List.filter_cons_of_pos (by simp [hevent]), h.rest,
      List.filter_map]
    rfl
  omitted := by
    intro entry hentry hcallback
    rcases TraceEntry.mem_span.1 hentry with rfl | ⟨inner, hinner, rfl⟩
    · cases hevent.symm.trans hcallback
    · exact h.omitted inner hinner hcallback

/-- The span of the handler itself. -/
theorem skipped (entity name id : String) (triggered : ChangeSet) : Omits entity name
    (TraceEntry.span (.callback entity name id true false triggered) []) [] where
  rest := by
    rw [TraceEntry.span, List.filter_cons_of_neg (by simp [TraceEvent.isCallbackOf])]
    rfl
  omitted := by
    intro entry hentry _
    obtain rfl := List.mem_singleton.1 hentry
    exact ⟨rfl, rfl, id, triggered, rfl⟩

end Omits

namespace Convergence

/-! ## Turn by turn -/

section Turns

variable {entity name id : String} {pass : Nat} {mask : FieldMask} {before proposed : Record E}
  {queue : DeferredWork σ} {s s' : Scope β σ} {told : List TraceEntry}
  {result : Except Failure (Record E × DeferredWork σ)} {handler : Handler σ E}
  {handlers : List (Handler σ E)} {session : Session}

theorem shields_consulted (h : session.Shields entity name) (handler : Handler σ E) (id : String) :
    (consulted handler id session).Shields entity name where
  skip := h.skip.consumeFirst E.name handler.name id
  force := by
    unfold consulted
    dsimp only
    split
    · exact h.force
    · exact SelectorList.ignores_of_mem_consumeFirst h.force E.name handler.name id

theorem shields_of_turn (h : Turn handler id mask proposed queue s told result s')
    (hs : s.session.Shields entity name) : s'.session.Shields entity name := by
  cases h with
  | passed => exact shields_consulted hs handler id
  | skipped => exact shields_consulted hs handler id
  | called _ _ _ hsession =>
    have hconsulted := shields_consulted hs handler id
    rw [hsession]
    exact ⟨hconsulted.skip, hconsulted.force⟩

/-- To ask about a shielded handler leaves the session as it is. -/
theorem consulted_of_shields (h : session.Shields E.name handler.name) :
    consulted handler id session = session := by
  rw [consulted, SelectorList.consume_of_shielded h.skip,
    SelectorList.consume_of_not_accepts (h.not_forced id), ite_self]

theorem not_calls_of_shields (h : session.Shields E.name handler.name) :
    calls handler id mask session = false := by
  have hforces : forces handler id session = false := by
    rw [forces_eq, h.not_forced id, Bool.and_false]
  rw [calls, hforces, skips, SelectorList.consume_of_shielded h.skip, Bool.not_true,
    Bool.and_false]
  rfl

/-- The turn of a shielded handler does nothing and tells at most of an empty span. -/
theorem turn_of_shields (h : Turn handler id mask proposed queue s told result s')
    (hs : s.session.Shields E.name handler.name) :
    result = .ok (proposed, queue) ∧ s' = s ∧
      (told = [] ∨ ∃ triggered,
        told = TraceEntry.span (.callback E.name handler.name id true false triggered) []) := by
  cases h with
  | passed =>
    rw [consulted_of_shields hs]
    exact ⟨rfl, rfl, .inl rfl⟩
  | skipped triggered =>
    rw [consulted_of_shields hs]
    exact ⟨rfl, rfl, .inr ⟨triggered, rfl⟩⟩
  | called _ hcalls =>
    rw [not_calls_of_shields hs] at hcalls
    cases hcalls

/-- The turn of another handler tells nothing of this one. -/
theorem Turn.omits (h : Turn handler id mask proposed queue s told result s')
    (hother : handler.isNamed entity name = false) : Omits entity name told told := by
  cases h with
  | passed => exact .nil
  | skipped triggered => exact Omits.nil.span hother
  | called triggered hcalls hinner =>
    refine Omits.span ?_ hother
    rcases hinner with rfl | ⟨changes, rfl⟩
    · exact .nil
    · refine ⟨rfl, fun entry hentry hcallback => ?_⟩
      obtain rfl := List.mem_singleton.1 hentry
      cases hcallback

theorem dispatch_withRegistry (registry : Registry σ) :
    dispatch (engine.withRegistry registry) handler id pass mask before proposed queue =
      dispatch engine handler id pass mask before proposed queue := dispatch_congr rfl

/-- Without a shielded handler the turns of a pass come to the same. -/
theorem Turns.without
    (h : Turns engine id pass mask before handlers proposed queue s told result s')
    (hs : s.session.Shields entity name) (registry : Registry σ) :
    s'.session.Shields entity name ∧ ∃ told', Omits entity name told told' ∧
      Traces (dispatchAll (engine.withRegistry registry) id pass mask before
        (handlers.filter (!·.isNamed entity name)) proposed queue) s told' result s' := by
  induction h with
  | nil => exact ⟨hs, [], .nil, .silent fun _ => rfl⟩
  | @stopped handler rest proposed queue s s' told failure hrun hturn =>
    refine ⟨shields_of_turn hturn hs, told, ?_⟩
    cases hself : handler.isNamed entity name with
    | true =>
      -- The turn of the shielded handler does not fail.
      obtain ⟨rfl, rfl⟩ := Handler.isNamed_iff.1 hself
      cases (turn_of_shields hturn hs).1
    | false =>
      rw [← dispatch_withRegistry registry] at hrun
      rw [List.filter_cons_of_pos (by rw [hself]; rfl)]
      exact ⟨hturn.omits hself, hrun.bind_error⟩
  | @passed handler rest _ after _ queue' s s₁ s' told _ _ hrun hturn hrest ih =>
    obtain ⟨hs', later', homits, hlater⟩ := ih (shields_of_turn hturn hs)
    refine ⟨hs', ?_⟩
    cases hself : handler.isNamed entity name with
    | true =>
      obtain ⟨rfl, rfl⟩ := Handler.isNamed_iff.1 hself
      obtain ⟨hresult, rfl, htold⟩ := turn_of_shields hturn hs
      obtain ⟨rfl, rfl⟩ := Prod.mk.inj (Except.ok.inj hresult)
      rw [List.filter_cons_of_neg (by rw [hself]; decide)]
      refine ⟨later', ?_, hlater⟩
      rcases htold with rfl | ⟨triggered, rfl⟩
      · exact homits
      · exact (Omits.skipped E.name handler.name id triggered).append homits
    | false =>
      rw [← dispatch_withRegistry registry] at hrun
      rw [List.filter_cons_of_pos (by rw [hself]; rfl)]
      exact ⟨told ++ later', (hturn.omits hself).append homits, hrun.bind hlater⟩

end Turns

/-! ## Pass by pass -/

section Rounds

variable {entity name id : String} {pass left : Nat} {baseline proposed : Record E}
  {queue : DeferredWork σ} {forced : Bool} {s s' : Scope β σ} {told : List TraceEntry}
  {result : Except Failure (Outcome σ E)}

/-- Without a shielded handler a run comes to the same, in as many passes. -/
theorem Rounds.without
    (h : Rounds engine id pass baseline proposed queue forced left s told result s')
    (hs : s.session.Shields entity name) :
    s'.session.Shields entity name ∧ ∃ told', Omits entity name told told' ∧
      Traces (runFrom (engine.withRegistry (engine.registry.without entity name)) id pass baseline
        proposed queue forced left) s told' result s' := by
  induction h with
  | settled hdue =>
    rw [runFrom_of_not_due hdue]
    exact ⟨hs, [], .nil, .silent fun _ => rfl⟩
  | exhausted hdue =>
    rw [runFrom_zero hdue]
    exact ⟨hs, [], .nil, .silent fun _ => rfl⟩
  | stopped hdue hturns =>
    obtain ⟨hs', told', homits, htraces⟩ :=
      hturns.without hs (engine.registry.without entity name)
    rw [← Registry.handlers_without] at htraces
    rw [runFrom_succ hdue]
    exact ⟨hs', _, homits.span rfl, (htraces.withSpan _).bind_error⟩
  | passed hdue hturns hrest ih =>
    obtain ⟨hs₁, told', homits, htraces⟩ :=
      hturns.without hs (engine.registry.without entity name)
    obtain ⟨hs', later', homits', hlater⟩ := ih hs₁
    rw [← Registry.handlers_without] at htraces
    rw [runFrom_succ hdue]
    exact ⟨hs', _, (homits.span rfl).append homits', (htraces.withSpan _).bind hlater⟩

end Rounds

/-! ## Everything that is done in a session -/

/-- An engine compared with the one that lacks a shielded handler. -/
def omission (entity name : String) : Comparison where
  holds session := session.Shields entity name
  tells _ told told' _ := Omits entity name told told'
  nil _ _ := .nil
  append h h' := h.append h'
  activity _ _ _ h := h.span rfl

theorem omission_runs (engine : Engine β σ) (entity name : String) :
    (omission entity name).Runs engine (engine.registry.without entity name) where
  run E baseline proposed forceFirst s hs := by
    obtain ⟨told, r, s', hrun, hrounds⟩ := run_traces engine baseline proposed forceFirst s
    obtain ⟨hs', told', homits, hrun'⟩ := hrounds.without hs
    exact ⟨told, told', r, s', hrun, hrun', hs', homits⟩
  pending E session id hsession := by
    unfold forcePending
    change ((engine.registry.without entity name).handlers E).any _ = _
    rw [Registry.handlers_without, List.any_filter]
    refine congrArg (List.any _) (funext fun handler => ?_)
    cases hself : handler.isNamed entity name with
    | false => rw [Bool.not_false, Bool.true_and]
    | true =>
      obtain ⟨rfl, rfl⟩ := Handler.isNamed_iff.1 hself
      rw [hsession.not_forced id, Bool.and_false, Bool.and_false]

end Convergence

/-! ## Skipping is not registering -/

/-- **To skip a handler is not to register it.** Let the skip list hold a selector that skips a
handler of an entity type on all records and does not wear out, with none before it that could be
used up on the handler, and let the force list not select the handler. Then, whatever was done in
the session before, whatever is done comes to the same as with the registry from which the handler
is removed: the same result, or the same failure, in the same number of passes, with the same world
left behind, host and backend with all that was staged, audited and announced, and the same session
with its history. Only the trace differs, by the dispatches of the handler: spans, left again, that
tell of it as skipped and not forced. -/
theorem skip_eq_without (engine : Engine β σ) (entity name : String) (tx : TxId) (actor : Actor)
    (options : Options) {before after : List Selector} {shield : Selector}
    (hskip : options.skip = before ++ shield :: after) (hshield : shield.Shields entity name)
    (hbefore : ∀ selector ∈ before, selector.once = true → selector.Ignores entity name)
    (hforce : ∀ selector ∈ options.force, selector.Ignores entity name)
    (errands : List (Errand β σ)) (errand : Errand β σ) :
    let engine' := engine.withRegistry (engine.registry.without entity name)
    let reached := Session.runErrands engine errands (.start tx actor options) (.recorder .empty)
    let reached' := Session.runErrands engine' errands (.start tx actor options) (.recorder .empty)
    let s := errand.scope reached.1 reached.2
    let s' := errand.scope reached'.1 reached'.2
    let out := (Session.perform engine errand.work).run s
    let out' := (Session.perform engine' errand.work).run s'
    out'.1 = out.1 ∧
    (∀ (E : EntityType) (baseline proposed : Record E) (forceFirst : Bool),
      ((Convergence.run engine' baseline proposed forceFirst).run s').1 =
        ((Convergence.run engine baseline proposed forceFirst).run s).1) ∧
    ∃ entries, out.2.world.trace = .recorder ⟨entries, []⟩ ∧
      out'.2 = out.2.tracing (.recorder
        ⟨entries.filter fun entry => !entry.event.isCallbackOf entity name, []⟩) ∧
      ∀ entry ∈ entries, entry.event.isCallbackOf entity name = true →
        entry.isSpan = true ∧ entry.isOpen = false ∧
          ∃ id triggered, entry.event = .callback entity name id true false triggered := by
  have hruns := Convergence.omission_runs engine entity name
  have hstart := Session.shields_start tx actor hskip hshield hbefore hforce
  obtain ⟨told, told', session, hreached, hreached', hsession, htells⟩ :=
    Session.runErrands_compares hruns errands hstart TraceSink.sound_empty TraceSink.sound_empty
  have hsound := TraceSink.sound_empty.tell told
  have hsound' := TraceSink.sound_empty.tell told'
  dsimp only
  rw [hreached, hreached']
  obtain ⟨more, more', r, s₁, hrun, hrun', -, htells'⟩ :=
    Session.perform_compares hruns errand.work (errand.scope session (.recorder .empty)) hsession
  have hout : (Session.perform engine errand.work).run
      (errand.scope session ((TraceSink.recorder .empty).tell told)) = _ := hrun _ hsound
  have hout' : (Session.perform (engine.withRegistry (engine.registry.without entity name))
      errand.work).run (errand.scope session ((TraceSink.recorder .empty).tell told')) = _ :=
    hrun' _ hsound'
  rw [hout, hout', TraceSink.tell_append, TraceSink.tell_append, TraceSink.tell_empty,
    TraceSink.tell_empty]
  have homits : Omits entity name (told ++ more) (told' ++ more') := Omits.append htells htells'
  refine ⟨rfl, fun E baseline proposed forceFirst => ?_, told ++ more, rfl, ?_, homits.omitted⟩
  · -- What a run of the handlers comes to has the number of its passes.
    obtain ⟨passing, passing', r, s₂, hpasses, hpasses', -⟩ :=
      hruns.run E baseline proposed forceFirst (errand.scope session (.recorder .empty)) hsession
    have hresult := congrArg Prod.fst (hpasses _ hsound)
    have hresult' := congrArg Prod.fst (hpasses' _ hsound')
    exact hresult'.trans hresult.symm
  · rw [← homits.rest]
    rfl

/-! ## A switch with one side left alone -/

/-- Skips one of the two handlers that undo each other's work. -/
def leftAlone : Selector := { entity := some "switch", handler := some "flip_left" }

/-- A selector of the other handler, for another switch, that works only once. -/
def rightOnce : Selector := ((Selector.ofHandler "flip_right").forId "b").onlyOnce

def switchErrand : Errand Memory Unit where
  world := switchWorld
  work := SessionWork.save switchType (switch true false)

def leftAloneScope : Scope Memory Unit :=
  switchErrand.scope (.start ⟨2⟩ (.ofId "ann") { skip := [rightOnce, leftAlone] })
    (.recorder .empty)

theorem switch_settles_without :
    ((Session.save switchEngine (switch true false)).run leftAloneScope).1.map (·.toRow) =
      .ok (switch true true).toRow ∧
    ((Session.perform (switchEngine.withRegistry
        (switchEngine.registry.without "switch" "flip_left")) switchErrand.work).run
      leftAloneScope).1 =
        ((Session.perform switchEngine switchErrand.work).run leftAloneScope).1 ∧
    ∃ entries,
      ((Session.perform switchEngine switchErrand.work).run leftAloneScope).2.world.trace =
        .recorder ⟨entries, []⟩ ∧
      entries.countP (·.event.isCallbackOf "switch" "flip_left") = 1 := by
  have hskip : ({ skip := [rightOnce, leftAlone] } : Options).skip =
      [rightOnce] ++ leftAlone :: [] := rfl
  have hshield : leftAlone.Shields "switch" "flip_left" := ⟨rfl, rfl, rfl, rfl⟩
  have hbefore : ∀ selector ∈ [rightOnce], selector.once = true →
      selector.Ignores "switch" "flip_left" :=
    List.forall_mem_singleton.2 fun _ _ => rfl
  have hsame := skip_eq_without switchEngine "switch" "flip_left" ⟨2⟩ (.ofId "ann")
    { skip := [rightOnce, leftAlone] } hskip hshield hbefore (List.forall_mem_nil _) []
    switchErrand
  have hscope : switchErrand.scope (.start ⟨2⟩ (.ofId "ann") { skip := [rightOnce, leftAlone] })
      (.recorder .empty) = leftAloneScope := rfl
  dsimp only [Session.runErrands] at hsame
  rw [hscope] at hsame
  obtain ⟨hresult, -, entries, htrace, -⟩ := hsame
  have hrow : ((Session.save switchEngine (switch true false)).run leftAloneScope).1.map (·.toRow) =
      .ok (switch true true).toRow := by decide +kernel
  have hcount : ((Session.perform switchEngine switchErrand.work).run
      leftAloneScope).2.world.trace.log.entries.countP
        (·.event.isCallbackOf "switch" "flip_left") = 1 := by decide +kernel
  rw [htrace] at hcount
  exact ⟨hrow, hresult, entries, htrace, hcount⟩

end RecordEngine
