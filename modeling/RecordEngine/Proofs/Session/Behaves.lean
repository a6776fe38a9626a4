import RecordEngine.Proofs.Session.Confined
/-!
Sessions obey the protocol.

Handlers, callers and deferred work are programs that may ask for anything. `Behaves` is what is
asked of them in turn: to touch the store, past create and save, by reads only, and to create and
save records of the given types. Of an engine whose handlers behave, every operation obeys the
protocol of audited writes, to whatever depth deferred work nests.
-/

set_option autoImplicit false

namespace RecordEngine

variable {β σ α : Type} {E : EntityType}

/-- A program that stages rows and audit records only through creates and saves of certain types. -/
def SessionProgram.Behaves (types : EntityType → Prop) : SessionProgram σ α → Prop
  | .done _ => True
  | .create F _ next => types F ∧ ∀ answer, (next answer).Behaves types
  | .save F _ next => types F ∧ ∀ answer, (next answer).Behaves types
  | .fetch _ _ next => ∀ answer, (next answer).Behaves types
  | .inspect next => ∀ view, (next view).Behaves types
  | .call c next => c.isRead = true ∧ ∀ answer, (next answer).Behaves types
  | .host _ next => ∀ state, (next state).Behaves types

/-- A run of a handler that reads the store and puts off work that behaves. -/
def HandlerProgram.Behaves (types : EntityType → Prop) : HandlerProgram σ E → Prop
  | .done _ => True
  | .call c next => c.isRead = true ∧ ∀ answer, (next answer).Behaves types
  | .defer _ action next => action.run.Behaves types ∧ next.Behaves types
  | .host _ next => ∀ state, (next state).Behaves types

/-- Every handler of the engine behaves. -/
def Engine.Behaves (engine : Engine β σ) (types : EntityType → Prop) : Prop :=
  ∀ F, ∀ handler ∈ engine.registry.handlers F, ∀ cx before proposed,
    (handler.function cx before proposed).Behaves types

/-- Every piece of work in a queue behaves. -/
def DeferredWork.Behaves (types : EntityType → Prop) (queue : DeferredWork σ) : Prop :=
  ∀ action ∈ queue.actions, action.2.run.Behaves types

/-! ## Convergence -/

namespace Convergence

open SessionM

variable {engine : Engine β σ} {who : Holder} {types : EntityType → Prop}

/-- What a pass keeps: the identifier of the record, and that the queue behaves. -/
def Kept (types : EntityType → Prop) (id : String) (out : Record E × DeferredWork σ) : Prop :=
  out.1.id = id ∧ DeferredWork.Behaves types out.2

theorem asks_of_behaves {program : HandlerProgram σ E} (h : program.Behaves types) :
    program.Asks (·.isRead = true) (·.run.Behaves types) := by
  induction program with
  | done result => trivial
  | call c next ih => exact ⟨h.1, fun answer => ih answer (h.2 answer)⟩
  | defer label action next ih => exact ⟨h.1, ih h.2⟩
  | host change next ih => exact fun state => ih state (h state)

/-- Convergence only reads, keeps the identifier and gathers work that behaves. -/
theorem run_browses (h : engine.Behaves types) (baseline proposed : Record E) (forceFirst : Bool) :
    Browses engine who (run engine baseline proposed forceFirst) fun out =>
      Kept types proposed.id (out.record, out.queue) := by
  have hasks : ∀ handler ∈ engine.registry.handlers E,
      handler.Asks (fun _ c => c.isRead = true) (·.run.Behaves types) :=
    fun handler hmem cx before proposed => asks_of_behaves (h E handler hmem cx before proposed)
  refine run_confined ?_ hasks baseline proposed forceFirst
  exact fun _ _ hread => hread

end Convergence

/-! ## Create and save -/

namespace Session

open SessionM

variable {engine : Engine β σ} {who : Holder} {types : EntityType → Prop} {mode : Mode}

/-- Obedience from wherever nothing is owing. -/
def Obedient (engine : Engine β σ) (types : EntityType → Prop) (who : Holder)
    (m : SessionM β σ α) : Prop :=
  ∀ mode : Mode, mode.due = [] → Leads engine types who mode m

/-- A create stages its row and owes the audit record until it is staged. -/
theorem createWith_obedient (hengine : engine.Behaves types) (hannounce : engine.Announces)
    (hE : types E) {drain : DeferredWork σ → SessionM β σ Unit}
    (hdrain : ∀ queue, DeferredWork.Behaves types queue →
      Obedient engine types who (drain queue))
    (record : Record E) : Obedient engine types who (createWith engine drain record) := by
  intro mode hmode
  unfold createWith
  refine Leads.browse hmode (withId_confined record) fun record _ => ?_
  refine Leads.browse hmode (Confines.ofExcept _) fun _ _ => ?_
  refine Leads.browse hmode (Confines.ofExcept _) fun _ _ => ?_
  refine Leads.withSpan ?_ _
  refine Leads.browse hmode (Convergence.run_browses hengine _ _ _) fun out hkept => ?_
  obtain ⟨passes, converged, queue⟩ := out
  obtain ⟨hid, hqueue⟩ := hkept
  refine Leads.browse hmode (Confines.ofExcept _) fun _ hcheck => ?_
  refine Leads.browse hmode Confines.now fun now _ => ?_
  refine Issues.read_bind fun s hs => ?_
  refine Leads.browse hmode (Confines.ofExcept _) fun stamped hstamped => ?_
  -- Everything that `Creation` asks for was checked on the way here.
  have hcreation : Creation E record.id stamped
      ⟨who.actor.id, who.actor.effective, .create, E.name, record.id,
        .ofMask (FieldMask.diff (.default E) stamped) none stamped⟩ := by
    subst hs
    exact ⟨⟨converged, now, hid, hcheck, hstamped⟩, rfl, rfl, rfl, rfl⟩
  have htx : s.session.tx = who.tx := by rw [← hs]; rfl
  rw [htx]
  -- Refused, the insert leaves nothing owing; granted, the audit record is owed until
  -- `recordAudit`.
  refine Leads.call (fun failure => ⟨.idle, rfl, .refused _ hmode _ rfl rfl⟩) fun answer =>
    ⟨_, .inserted _ hmode E hE record.id stamped _ hcreation, ?_⟩
  refine Leads.announce hannounce (Leads.bind .recordAudit fun _ mode' hmode' => ?_)
  refine Leads.bind (hdrain queue hqueue mode' hmode') fun _ mode'' hmode'' => ?_
  exact .of_browses hmode'' (load_confined fun _ => rfl)

/-- The write of a save, after the stored record was loaded: an update and the audit record it owes.
-/
theorem writeChanges_leads (hannounce : engine.Announces) (hE : types E) {id : String} {row : Row}
    {given stored converged : Record E} (hrow : Record.ofRow E row = .ok stored)
    (hgiven : given.id = id) (hversion : checkVersion given stored id = .ok ())
    (hid : converged.id = id) (hcheck : E.schema.checkRow converged.toRow = .ok ())
    (hchanged : (changedFields stored converged).isEmpty = false) :
    Leads engine types who (.loaded E id row) (writeChanges engine id stored converged) := by
  unfold writeChanges
  refine Leads.browse rfl Confines.now fun now _ => ?_
  refine Issues.read_bind fun s hs => ?_
  refine Leads.browse rfl (Confines.ofExcept _) fun proposed hproposed => ?_
  have hrevision : Revision E id stored proposed
      ⟨who.actor.id, who.actor.effective, .update, E.name, id,
        .ofMask (writtenFields stored proposed) (some stored) proposed⟩ := by
    subst hs
    exact ⟨⟨given, converged, now, hgiven, hid, hversion, hcheck, hchanged, hproposed⟩,
      rfl, rfl, rfl, rfl⟩
  have htx : s.session.tx = who.tx := by rw [← hs]; rfl
  rw [htx]
  refine Leads.call (fun failure => ⟨.idle, rfl, .refused _ rfl _ rfl rfl⟩) fun answer =>
    ⟨_, .updated E hE id row stored proposed hrow _ hrevision, ?_⟩
  exact Leads.announce hannounce .recordAudit

/-- A save loads the row it changes, and between that and its write it only reads. -/
theorem saveWith_obedient (hengine : engine.Behaves types) (hannounce : engine.Announces)
    (hE : types E) {drain : DeferredWork σ → SessionM β σ Unit}
    (hdrain : ∀ queue, DeferredWork.Behaves types queue →
      Obedient engine types who (drain queue))
    (record : Record E) : Obedient engine types who (saveWith engine drain record) := by
  intro mode hmode
  unfold saveWith
  refine Leads.browse hmode (Confines.ofExcept _) fun _ _ => ?_
  dsimp only
  split
  · exact Leads.browse hmode (Confines.throw (R := fun _ => False) _) fun _ hfalse => hfalse.elim
  -- From here to the write the row is loaded, and only reads come in between.
  refine Leads.load hmode fun row stored hrow => ?_
  have hloaded : (Mode.loaded E record.id row).due = [] := rfl
  refine Leads.browse hloaded (Confines.ofExcept _) fun _ hversion => ?_
  refine Leads.withSpan ?_ _
  refine Issues.read_bind fun s hs => ?_
  refine Leads.browse hloaded (Convergence.run_browses hengine _ _ _) fun out hkept => ?_
  obtain ⟨passes, converged, queue⟩ := out
  obtain ⟨hid, hqueue⟩ := hkept
  refine Leads.browse hloaded (Confines.ofExcept _) fun _ hcheck => ?_
  -- The deferred work and the final load, from wherever the write leads.
  have hrest : Obedient engine types who (do drain queue; load engine E record.id) := by
    intro mode' hmode'
    refine Leads.bind (hdrain queue hqueue mode' hmode') fun _ mode'' hmode'' => ?_
    exact .of_browses hmode'' (load_confined fun _ => rfl)
  split
  · split
    · exact .of_browses hloaded (Confines.pure (R := fun _ => True) trivial)
    · exact hrest _ hloaded
  · next hchanged =>
    refine Leads.bind (writeChanges_leads hannounce hE hrow rfl hversion hid hcheck
      (Bool.eq_false_iff.2 hchanged)) fun _ mode' hmode' => ?_
    exact hrest mode' hmode'

/-! ## Programs and nested work -/

/-- Create and save obey the protocol. -/
def Operations.Obedient (engine : Engine β σ) (types : EntityType → Prop) (who : Holder)
    (operations : Operations β σ) : Prop :=
  ∀ F, types F → ∀ record : Record F,
    Session.Obedient engine types who (operations.create F record) ∧
      Session.Obedient engine types who (operations.save F record)

theorem runProgram_obedient {operations : Operations β σ}
    (hoperations : Operations.Obedient engine types who operations)
    {program : SessionProgram σ α} (h : program.Behaves types) {mode : Mode} (hmode : mode.due = [])
    (s : Scope β σ) (hs : s.session.holder = who) :
    (runProgram engine operations program s).2.session.holder = who ∧ ∃ es,
      engine.backend.Serves s.world.backend es
        (runProgram engine operations program s).2.world.backend ∧
      ∃ mode', mode'.due = [] ∧ Mode.Steps types who.tx mode es mode' := by
  induction program generalizing mode s with
  | done result => exact ⟨hs, [], .nil _, mode, hmode, .nil mode⟩
  | create F record next ih =>
    obtain ⟨hwho, es, hserves, mode', hmode', hsteps⟩ :=
      (hoperations F h.1 record).1 mode hmode s hs
    obtain ⟨hwho', es', hserves', mode'', hmode'', hsteps'⟩ := ih _ (h.2 _) hmode' _ hwho
    exact ⟨hwho', _, hserves.append hserves', mode'', hmode'', hsteps.append hsteps'⟩
  | save F record next ih =>
    obtain ⟨hwho, es, hserves, mode', hmode', hsteps⟩ :=
      (hoperations F h.1 record).2 mode hmode s hs
    obtain ⟨hwho', es', hserves', mode'', hmode'', hsteps'⟩ := ih _ (h.2 _) hmode' _ hwho
    exact ⟨hwho', _, hserves.append hserves', mode'', hmode'', hsteps.append hsteps'⟩
  -- A fetch of the program itself does not load: nothing is written on the strength of it.
  | fetch F id next ih =>
    obtain ⟨hwho, es, hserves, answer, rfl, -⟩ := fetch_issues F id s hs
    obtain ⟨hwho', es', hserves', mode'', hmode'', hsteps'⟩ := ih _ (h _) hmode _ hwho
    exact ⟨hwho', _, hserves.append hserves', mode'', hmode'',
      .cons _ _ _ _ _ (.read mode _ rfl) hsteps'⟩
  | inspect next ih => exact ih _ (h _) hmode s hs
  | call c next ih =>
    obtain ⟨hwho, es, hserves, mode', hmode', hsteps⟩ :=
      ih (engine.backend.call c s.world.backend).1 (h.2 _) hmode
        { s with world := { s.world with backend := (engine.backend.call c s.world.backend).2 } } hs
    exact ⟨hwho, _, .call c _ _ es hserves, mode', hmode',
      .cons _ _ _ _ _ (.read mode _ h.1) hsteps⟩
  | host change next ih =>
    exact ih s.world.host (h _) hmode
      { s with world := { s.world with host := change s.world.host } } hs

theorem runWork_obedient {operations : Operations β σ}
    (hoperations : Operations.Obedient engine types who operations) {work : SessionWork σ α}
    (h : work.run.Behaves types) : Obedient engine types who (runWork engine operations work) :=
  fun _ hmode s hs => runProgram_obedient hoperations h hmode s hs

theorem drainAll_obedient {operations : Operations β σ}
    (hoperations : Operations.Obedient engine types who operations)
    {actions : List (String × SessionWork σ Unit)}
    (h : ∀ action ∈ actions, action.2.run.Behaves types) :
    Obedient engine types who (drainAll engine operations actions) := by
  induction actions with
  | nil => exact fun mode hmode => .of_browses hmode (Confines.pure (R := fun _ => True) trivial)
  | cons action rest ih =>
    intro mode hmode
    have hfirst := runWork_obedient hoperations (h action List.mem_cons_self) mode hmode
    refine Leads.bind hfirst fun _ mode' hmode' => ?_
    exact ih (fun other hother => h other (List.mem_cons_of_mem _ hother)) mode' hmode'

/-- Create and save obey the protocol however deep deferred work nests below them. -/
theorem operationsAt_obedient (hengine : engine.Behaves types) (hannounce : engine.Announces)
    (level : Nat) : Operations.Obedient engine types who (operationsAt engine level) := by
  induction level with
  -- Work nested too deep is turned down without a call.
  | zero =>
    intro F _ record
    exact ⟨fun mode hmode => .of_browses hmode (Confines.throw (R := fun _ => True) _),
      fun mode hmode => .of_browses hmode (Confines.throw (R := fun _ => True) _)⟩
  | succ level ih =>
    intro F hF record
    have hdrain : ∀ queue, DeferredWork.Behaves types queue →
        Obedient engine types who (drain engine (operationsAt engine level) queue) :=
      fun queue hqueue => drainAll_obedient ih hqueue
    exact ⟨createWith_obedient hengine hannounce hF hdrain record,
      saveWith_obedient hengine hannounce hF hdrain record⟩

/-- Work that behaves obeys the protocol when a session performs it. -/
theorem perform_obedient (hengine : engine.Behaves types) (hannounce : engine.Announces)
    {work : SessionWork σ α} (h : work.run.Behaves types) :
    Obedient engine types who (perform engine work) :=
  runWork_obedient (operationsAt_obedient hengine hannounce _) h

end Session

end RecordEngine
