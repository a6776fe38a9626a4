import RecordEngine.Proofs.Record.Stamps
import RecordEngine.Proofs.Session.Calls
/-!
Calls of a kind.

What create and save ask of the store on their own account can be listed: they fetch, insert and
update rows of one type, each under the identifier of a record, and stage audit records. Everything
else that reaches the store is asked for by handlers, by deferred work or by the program of a
caller. So if what these ask for is of a kind, and so is what create and save ask for, then every
call of a session is of that kind, to whatever depth deferred work nests. `Asks` is what is required
of programs, and `Confines` is what follows for operations.
-/

set_option autoImplicit false

namespace RecordEngine

variable {β σ α : Type} {E : EntityType}

/-! ## What programs ask for -/

/-- However it is answered, the program asks the store only for what is of a kind, and creates and
saves only records of certain types. -/
def SessionProgram.Asks (direct : Call → Prop) (types : EntityType → Prop) :
    SessionProgram σ α → Prop
  | .done _ => True
  | .create F _ next => types F ∧ ∀ answer, (next answer).Asks direct types
  | .save F _ next => types F ∧ ∀ answer, (next answer).Asks direct types
  | .fetch _ _ next => ∀ answer, (next answer).Asks direct types
  | .inspect next => ∀ view, (next view).Asks direct types
  | .call c next => direct c ∧ ∀ answer, (next answer).Asks direct types
  | .host _ next => ∀ state, (next state).Asks direct types

/-- However it is answered, the run of a handler asks the store only for what is of a kind, and puts
off only work of a kind. -/
def HandlerProgram.Asks (direct : Call → Prop) (defers : SessionWork σ Unit → Prop) :
    HandlerProgram σ E → Prop
  | .done _ => True
  | .call c next => direct c ∧ ∀ answer, (next answer).Asks direct defers
  | .defer _ action next => defers action ∧ next.Asks direct defers
  | .host _ next => ∀ state, (next state).Asks direct defers

/-- Every program asks for something. -/
theorem SessionProgram.asks_any (program : SessionProgram σ α) :
    program.Asks (fun _ => True) (fun _ => True) := by
  induction program with
  | done result => trivial
  | create F record next ih => exact ⟨trivial, ih⟩
  | save F record next ih => exact ⟨trivial, ih⟩
  | fetch F id next ih => exact ih
  | inspect next ih => exact ih
  | call c next ih => exact ⟨trivial, ih⟩
  | host change next ih => exact ih

theorem HandlerProgram.asks_any {defers : SessionWork σ Unit → Prop}
    (hdefers : ∀ work, defers work) (program : HandlerProgram σ E) :
    program.Asks (fun _ => True) defers := by
  induction program with
  | done result => trivial
  | call c next ih => exact ⟨trivial, ih⟩
  | defer label action next ih => exact ⟨hdefers action, ih⟩
  | host change next ih => exact ih

/-- Whatever it is called with, the handler asks only for what is of a kind in its transaction. -/
def Handler.Asks (direct : TxId → Call → Prop) (defers : SessionWork σ Unit → Prop)
    (handler : Handler σ E) : Prop :=
  ∀ cx before proposed, (handler.function cx before proposed).Asks (direct cx.tx) defers

/-- Every handler of the engine asks the store only for what is of a kind, and so does the work it
puts off, which creates and saves only records of certain types. -/
def Engine.Asks (engine : Engine β σ) (direct : Call → Prop) (types : EntityType → Prop) : Prop :=
  ∀ F, ∀ handler ∈ engine.registry.handlers F,
    handler.Asks (fun _ => direct) (·.run.Asks direct types)

/-- Every piece of work in a queue is of a kind. -/
def DeferredWork.Holds (defers : SessionWork σ Unit → Prop) (queue : DeferredWork σ) : Prop :=
  ∀ action ∈ queue.actions, defers action.2

namespace DeferredWork

variable {defers : SessionWork σ Unit → Prop}

theorem holds_empty : DeferredWork.Holds defers (.empty : DeferredWork σ) :=
  List.forall_mem_nil _

theorem holds_push {queue : DeferredWork σ} (h : DeferredWork.Holds defers queue)
    (label : String) {action : SessionWork σ Unit} (haction : defers action) :
    DeferredWork.Holds defers (queue.push label action) := by
  intro a ha
  rcases List.mem_append.1 ha with ha | ha
  · exact h a ha
  · rw [List.mem_singleton.1 ha]
    exact haction

end DeferredWork

/-! ## Convergence -/

namespace Convergence

open SessionM

variable {engine : Engine β σ} {who : Holder} {Q : Event → Prop} {direct : TxId → Call → Prop}
  {defers : SessionWork σ Unit → Prop}

theorem handler_confined {asked : Call → Prop} (hasked : ∀ c answer, asked c → Q ⟨c, answer⟩)
    {program : HandlerProgram σ E} (h : program.Asks asked defers) {queue : DeferredWork σ}
    (hqueue : DeferredWork.Holds defers queue) :
    Confines engine who Q (program.run engine queue) fun out =>
      DeferredWork.Holds defers out.2 := by
  induction program generalizing queue with
  | done result =>
    refine (Confines.ofExcept _).mono fun out hout => ?_
    cases result with
    | error failure => cases hout
    | ok record =>
      rw [← Except.ok.inj hout]
      exact hqueue
  | call c next ih =>
    intro s hs
    -- A handler is handed the answer of the backend itself, so the call leaves no trace but the
    -- event.
    obtain ⟨hwho, es, hserves, hkind, hR⟩ :=
      ih (engine.backend.call c s.world.backend).1 (h.2 _) hqueue
        { s with world := { s.world with backend := (engine.backend.call c s.world.backend).2 } } hs
    exact ⟨hwho, _, .call c _ _ es hserves,
      List.forall_mem_cons.2 ⟨hasked c _ h.1, hkind⟩, hR⟩
  | defer label action next ih => exact ih h.2 (DeferredWork.holds_push hqueue label h.1)
  | host change next ih =>
    intro s hs
    exact ih s.world.host (h _) hqueue
      { s with world := { s.world with host := change s.world.host } } hs

/-- What a pass keeps: the identifier of the record, and the kind of work in the queue. -/
def Keeps (defers : SessionWork σ Unit → Prop) (id : String) (out : Record E × DeferredWork σ) :
    Prop :=
  out.1.id = id ∧ DeferredWork.Holds defers out.2

variable (hdirect : ∀ c answer, direct who.tx c → Q ⟨c, answer⟩)
include hdirect

theorem invoke_confined {handler : Handler σ E} (h : handler.Asks direct defers) (id : String)
    (pass : Nat) (before proposed : Record E) {queue : DeferredWork σ}
    (hqueue : DeferredWork.Holds defers queue) :
    Confines engine who Q (invoke engine handler id pass before proposed queue)
      (Keeps defers id) := by
  unfold invoke
  refine (Confines.noteRun _ _ _).bind fun _ _ => Issues.read_bind fun s hs => ?_
  subst hs
  have hasks := h ⟨s.session.tx, s.session.actor, s.session.options, pass⟩ before proposed
  refine ((handler_confined hdirect hasks hqueue).adapt _).bind fun out hout => ?_
  refine (Confines.traceEvent _).bind fun _ _ => ?_
  split
  · exact (Confines.throw (R := fun _ => False) _).bind fun _ hfalse => hfalse.elim
  · next hid => exact .pure ⟨Classical.not_not.1 hid, hout⟩

theorem dispatch_confined {handler : Handler σ E} (h : handler.Asks direct defers) {id : String}
    (pass : Nat) (mask : FieldMask) (before : Record E) {proposed : Record E}
    {queue : DeferredWork σ} (hkeeps : Keeps defers id (proposed, queue)) :
    Confines engine who Q (dispatch engine handler id pass mask before proposed queue)
      (Keeps defers id) := by
  unfold dispatch
  refine (Confines.consumeSkip _ _ _).bind fun skipped _ => ?_
  refine (Confines.consumeForce _ _ _).bind fun forced _ => ?_
  split
  · exact .pure hkeeps
  · refine Confines.withSpan ?_ _
    split
    · exact .pure hkeeps
    · exact invoke_confined hdirect h id pass before proposed hkeeps.2

theorem dispatchAll_confined {handlers : List (Handler σ E)}
    (h : ∀ handler ∈ handlers, handler.Asks direct defers) {id : String} (pass : Nat)
    (mask : FieldMask) (before : Record E) {proposed : Record E} {queue : DeferredWork σ}
    (hkeeps : Keeps defers id (proposed, queue)) :
    Confines engine who Q (dispatchAll engine id pass mask before handlers proposed queue)
      (Keeps defers id) := by
  induction handlers generalizing proposed queue with
  | nil => exact .pure hkeeps
  | cons handler rest ih =>
    obtain ⟨hfirst, hrest⟩ := List.forall_mem_cons.1 h
    refine (dispatch_confined hdirect hfirst pass mask before hkeeps).bind fun out hout => ?_
    exact ih hrest hout

theorem runFrom_confined
    (h : ∀ handler ∈ engine.registry.handlers E, handler.Asks direct defers) {id : String}
    (pass : Nat) (baseline : Record E) {proposed : Record E} {queue : DeferredWork σ}
    (hkeeps : Keeps defers id (proposed, queue)) (forced : Bool) (left : Nat) :
    Confines engine who Q (runFrom engine id pass baseline proposed queue forced left) fun out =>
      Keeps defers id (out.record, out.queue) := by
  induction left generalizing pass baseline proposed queue forced with
  | zero =>
    simp only [runFrom]
    split
    · exact .pure hkeeps
    · exact .throw _
  | succ left ih =>
    simp only [runFrom]
    split
    · exact .pure hkeeps
    · refine ((dispatchAll_confined hdirect h (pass + 1) _ baseline hkeeps).withSpan _).bind ?_
      intro out hout
      exact ih (pass + 1) proposed hout false

/-- Convergence makes no calls but those of the handlers, keeps the identifier and gathers what work
they put off. -/
theorem run_confined (h : ∀ handler ∈ engine.registry.handlers E, handler.Asks direct defers)
    (baseline proposed : Record E) (forceFirst : Bool) :
    Confines engine who Q (run engine baseline proposed forceFirst) fun out =>
      Keeps defers proposed.id (out.record, out.queue) :=
  runFrom_confined hdirect h 0 baseline ⟨rfl, DeferredWork.holds_empty⟩ forceFirst _

end Convergence

/-! ## Create and save -/

/-- The record is that of the row that a fetch was answered for an identifier. -/
def Record.ReadAt (r : Record E) (tx : TxId) (id : String) (e : Event) : Prop :=
  ∃ row, e = ⟨.fetch tx (E.key id), .ok (some row)⟩ ∧ Record.ofRow E row = .ok r

namespace SessionM

variable {engine : Engine β σ} {who : Holder} {Q : Event → Prop} {P : Record E → Prop}
  {ids : String → Prop}

/-- In the session of a holder, every call of an operation is of a kind, and the record it gives
back is one of which something is known, or it was read by one of the calls under one of certain
identifiers. -/
def Gives (engine : Engine β σ) (who : Holder) (Q : Event → Prop) (m : SessionM β σ (Record E))
    (P : Record E → Prop) (ids : String → Prop) : Prop :=
  Issues engine who m fun es result => (∀ e ∈ es, Q e) ∧ ∀ r, result = .ok r →
    P r ∨ ∃ id, ids id ∧ ∃ e ∈ es, r.ReadAt who.tx id e

theorem Gives.confines {m : SessionM β σ (Record E)} (h : Gives engine who Q m P ids) :
    Confines engine who Q m fun _ => True :=
  Issues.mono h fun _ _ hgiven => ⟨hgiven.1, fun _ _ => trivial⟩

/-- Whatever is done first, it is the rest that gives the record back. -/
theorem Gives.after {m : SessionM β σ α} {f : α → SessionM β σ (Record E)} {R : α → Prop}
    (h : Confines engine who Q m R) (hf : ∀ a, R a → Gives engine who Q (f a) P ids) :
    Gives engine who Q (m >>= f) P ids := by
  refine Issues.bind h (fun es failure hP => ⟨hP.1, fun r hr => by cases hr⟩) fun es a hP => ?_
  refine Issues.mono (hf a (hP.2 a rfl)) fun es' result hgiven => ⟨?_, fun r hr => ?_⟩
  · exact List.forall_mem_append.2 ⟨hP.1, hgiven.1⟩
  · refine (hgiven.2 r hr).imp_right ?_
    rintro ⟨id, hid, e, he, hread⟩
    exact ⟨id, hid, e, List.mem_append_right _ he, hread⟩

theorem Gives.withSpan {m : SessionM β σ (Record E)} (h : Gives engine who Q m P ids)
    (event : TraceEvent) : Gives engine who Q (SessionM.withSpan event m) P ids :=
  Issues.withSpan h event

end SessionM

namespace Session

open SessionM

variable {engine : Engine β σ} {who : Holder} {Q : Event → Prop} {direct : TxId → Call → Prop}
  {defers : SessionWork σ Unit → Prop} {drain : DeferredWork σ → SessionM β σ Unit}

theorem withId_confined (record : Record E) :
    Confines engine who Q (withId engine record) fun _ => True := by
  unfold withId
  split
  · split
    · refine (Confines.ofExcept _).bind fun index _ => Confines.newId.bind fun id _ => ?_
      exact (Confines.ofExcept _).mono fun _ _ => trivial
    · exact .throw _
  · exact .pure trivial

theorem fetch_confined {id : String} (hfetch : ∀ answer, Q ⟨.fetch who.tx (E.key id), answer⟩) :
    Confines engine who Q (fetch engine E id) fun _ => True := by
  refine Issues.mono (fetch_issues E id) ?_
  rintro es r ⟨answer, rfl, -⟩
  exact ⟨List.forall_mem_singleton.2 (hfetch answer), fun _ _ => trivial⟩

theorem load_gives {P : Record E → Prop} {ids : String → Prop} {id : String} (hid : ids id)
    (hfetch : ∀ answer, Q ⟨.fetch who.tx (E.key id), answer⟩) :
    Gives engine who Q (load engine E id) P ids := by
  refine Issues.mono (load_issues E id) ?_
  rintro es result ⟨answer, rfl, hanswer⟩
  refine ⟨List.forall_mem_singleton.2 (hfetch answer), fun r hr => ?_⟩
  obtain ⟨row, rfl, hrow⟩ := hanswer r hr
  exact .inr ⟨id, hid, _, List.mem_singleton_self _, row, rfl, hrow⟩

theorem load_confined {id : String} (hfetch : ∀ answer, Q ⟨.fetch who.tx (E.key id), answer⟩) :
    Confines engine who Q (load engine E id) fun _ => True :=
  (load_gives (P := fun _ => False) (rfl : id = id) hfetch).confines

theorem recordAudit_confined (haudit : ∀ record answer, Q ⟨.audit who.tx record, answer⟩)
    (action : AuditAction) (id : String) (changes : ChangeSet) :
    Confines engine who Q (recordAudit engine action E id changes) fun _ => True := by
  refine Issues.read_bind fun s hs => ?_
  subst hs
  exact Confines.call (haudit _)

variable (hdirect : ∀ c answer, direct who.tx c → Q ⟨c, answer⟩)
  (hhandlers : ∀ handler ∈ engine.registry.handlers E, handler.Asks direct defers)
  (haudit : ∀ record answer, Q ⟨.audit who.tx record, answer⟩)
  (hdrain : ∀ queue, DeferredWork.Holds defers queue →
    Confines engine who Q (drain queue) fun _ => True)
include hdirect hhandlers haudit hdrain

/-- A create inserts the row of a record under its identifier. The record it gives back was read
after everything else. -/
theorem createWith_gives (hfetch : ∀ id answer, Q ⟨.fetch who.tx (E.key id), answer⟩)
    (hinsert : ∀ (record : Record E) answer,
      Q ⟨.insert who.tx (E.key record.id) record.toRow, answer⟩) (record : Record E) :
    Gives engine who Q (createWith engine drain record) (fun _ => False) fun _ => True := by
  unfold createWith
  refine .after (withId_confined record) fun record _ => ?_
  refine .after (Confines.ofExcept _) fun _ _ => .after (Confines.ofExcept _) fun _ _ => ?_
  refine Gives.withSpan ?_ _
  refine .after (Convergence.run_confined hdirect hhandlers _ _ _) fun out hkeeps => ?_
  obtain ⟨passes, converged, queue⟩ := out
  obtain ⟨hid, hqueue⟩ := hkeeps
  refine .after (Confines.ofExcept _) fun _ _ => .after Confines.now fun now _ => ?_
  refine Issues.read_bind fun s hs => ?_
  subst hs
  refine Gives.after (Confines.ofExcept _) fun stamped hstamped => ?_
  -- Neither the handlers nor the stamps have moved the record to another key.
  have hkey : E.key record.id = E.key stamped.id := by
    rw [id_of_stampNew hstamped, hid]
  refine .after (Confines.call fun answer => ?_) fun _ _ => ?_
  · change Q ⟨.insert s.session.holder.tx (E.key record.id) stamped.toRow, answer⟩
    rw [hkey]
    exact hinsert stamped answer
  refine .after (Confines.announce _) fun _ _ => ?_
  refine .after (recordAudit_confined haudit _ _ _) fun _ _ => ?_
  exact .after (hdrain queue hqueue) fun _ _ => load_gives trivial (hfetch _)

/-- A save updates the row of the record it was given. The record it gives back was read from that
row after everything else, or it is the one that was given. -/
theorem saveWith_gives {record : Record E}
    (hfetch : ∀ answer, Q ⟨.fetch who.tx (E.key record.id), answer⟩)
    (hupdate : ∀ (stored proposed : Record E) answer,
      Q ⟨.update who.tx (E.key record.id)
        ((writtenFields stored proposed).indices.map fun i => (i, proposed.field i)), answer⟩) :
    Gives engine who Q (saveWith engine drain record)
      (fun r => r = record ∧ E.schema.checkRow record.toRow = .ok ()) (· = record.id) := by
  unfold saveWith
  refine .after (Confines.ofExcept _) fun _ hcheck => ?_
  dsimp only
  split
  · exact .after (Confines.throw (R := fun _ => False) _) fun _ hfalse => hfalse.elim
  refine .after (load_confined hfetch) fun stored _ => .after (Confines.ofExcept _) fun _ _ => ?_
  refine Gives.withSpan ?_ _
  refine .after (Confines.read _) fun session _ => ?_
  refine .after (Convergence.run_confined hdirect hhandlers _ _ _) fun out hkeeps => ?_
  obtain ⟨passes, proposed, queue⟩ := out
  refine .after (Confines.ofExcept _) fun _ _ => ?_
  have hrest : Gives engine who Q (do drain queue; load engine E record.id)
      (fun r => r = record ∧ E.schema.checkRow record.toRow = .ok ()) (· = record.id) :=
    .after (hdrain queue hkeeps.2) fun _ _ => load_gives rfl hfetch
  split
  · split
    · -- Nothing was changed and nothing is left to do.
      refine Issues.mono (.ofExcept (.ok record)) ?_
      rintro es result ⟨rfl, rfl⟩
      exact ⟨List.forall_mem_nil _, fun r hr => .inl ⟨(Except.ok.inj hr).symm, hcheck⟩⟩
    · exact hrest
  · refine .after (R := fun _ => True) ?_ fun _ _ => hrest
    unfold writeChanges
    refine Confines.now.bind fun now _ => Issues.read_bind fun s hs => ?_
    subst hs
    refine (Confines.ofExcept _).bind fun stamped _ => ?_
    refine (Confines.call (hupdate stored stamped)).bind fun _ _ => ?_
    exact (Confines.announce _).bind fun _ _ => recordAudit_confined haudit _ _ _

end Session

/-! ## Programs and nested work -/

/-- The calls that create, save and fetch make for records of certain types are of a kind. -/
structure Holder.Grants (who : Holder) (types : EntityType → Prop) (Q : Event → Prop) : Prop where
  fetch : ∀ (F : EntityType) id answer, Q ⟨.fetch who.tx (F.key id), answer⟩
  insert : ∀ F, types F → ∀ (record : Record F) answer,
    Q ⟨.insert who.tx (F.key record.id) record.toRow, answer⟩
  update : ∀ F, types F → ∀ id (stored proposed : Record F) answer,
    Q ⟨.update who.tx (F.key id)
      ((Session.writtenFields stored proposed).indices.map fun i => (i, proposed.field i)), answer⟩
  audit : ∀ record answer, Q ⟨.audit who.tx record, answer⟩

namespace Session

open SessionM

variable {engine : Engine β σ} {who : Holder} {Q : Event → Prop} {direct : Call → Prop}
  {types : EntityType → Prop}

/-- The calls of create and save are of a kind. -/
def Operations.Confined (engine : Engine β σ) (who : Holder) (types : EntityType → Prop)
    (Q : Event → Prop) (operations : Operations β σ) : Prop :=
  ∀ F, types F → ∀ record : Record F,
    Confines engine who Q (operations.create F record) (fun _ => True) ∧
      Confines engine who Q (operations.save F record) fun _ => True

variable (hgrants : who.Grants types Q) (hdirect : ∀ c answer, direct c → Q ⟨c, answer⟩)
include hgrants hdirect

theorem runProgram_confined {operations : Operations β σ}
    (hoperations : Operations.Confined engine who types Q operations)
    {program : SessionProgram σ α} (h : program.Asks direct types) (s : Scope β σ)
    (hs : s.session.holder = who) :
    (runProgram engine operations program s).2.session.holder = who ∧ ∃ es,
      engine.backend.Serves s.world.backend es
        (runProgram engine operations program s).2.world.backend ∧ ∀ e ∈ es, Q e := by
  -- An operation of the program makes its calls, and the rest of the program makes the others.
  have hafter {γ : Type} {m : SessionM β σ γ} {s : Scope β σ}
      (hm : Confines engine who Q m fun _ => True) (hs : s.session.holder = who)
      {next : Except Failure γ → SessionProgram σ α}
      (ih : ∀ answer, ∀ s' : Scope β σ, s'.session.holder = who →
        (runProgram engine operations (next answer) s').2.session.holder = who ∧ ∃ es,
          engine.backend.Serves s'.world.backend es
            (runProgram engine operations (next answer) s').2.world.backend ∧ ∀ e ∈ es, Q e) :
      (runProgram engine operations (next (m.run s).1) (m.run s).2).2.session.holder = who ∧ ∃ es,
        engine.backend.Serves s.world.backend es
          (runProgram engine operations (next (m.run s).1) (m.run s).2).2.world.backend ∧
        ∀ e ∈ es, Q e := by
    obtain ⟨hwho, es, hserves, hkind, -⟩ := hm s hs
    obtain ⟨hwho', es', hserves', hkind'⟩ := ih (m.run s).1 (m.run s).2 hwho
    exact ⟨hwho', _, hserves.append hserves', List.forall_mem_append.2 ⟨hkind, hkind'⟩⟩
  induction program generalizing s with
  | done result => exact ⟨hs, [], .nil _, List.forall_mem_nil _⟩
  | create F record next ih =>
    exact hafter (hoperations F h.1 record).1 hs fun answer => ih answer (h.2 answer)
  | save F record next ih =>
    exact hafter (hoperations F h.1 record).2 hs fun answer => ih answer (h.2 answer)
  | fetch F id next ih =>
    exact hafter (fetch_confined (hgrants.fetch F id)) hs fun answer => ih answer (h answer)
  | inspect next ih => exact ih _ (h _) s hs
  | call c next ih =>
    obtain ⟨hwho, es, hserves, hkind⟩ :=
      ih (engine.backend.call c s.world.backend).1 (h.2 _)
        { s with world := { s.world with backend := (engine.backend.call c s.world.backend).2 } } hs
    exact ⟨hwho, _, .call c _ _ es hserves, List.forall_mem_cons.2 ⟨hdirect c _ h.1, hkind⟩⟩
  | host change next ih =>
    exact ih s.world.host (h _)
      { s with world := { s.world with host := change s.world.host } } hs

theorem runWork_confined {operations : Operations β σ}
    (hoperations : Operations.Confined engine who types Q operations) {work : SessionWork σ α}
    (h : work.run.Asks direct types) :
    Confines engine who Q (runWork engine operations work) fun _ => True := by
  intro s hs
  obtain ⟨hwho, es, hserves, hkind⟩ := runProgram_confined hgrants hdirect hoperations h s hs
  exact ⟨hwho, es, hserves, hkind, fun _ _ => trivial⟩

theorem drainAll_confined {operations : Operations β σ}
    (hoperations : Operations.Confined engine who types Q operations)
    {actions : List (String × SessionWork σ Unit)}
    (h : ∀ action ∈ actions, action.2.run.Asks direct types) :
    Confines engine who Q (drainAll engine operations actions) fun _ => True := by
  induction actions with
  | nil => exact .pure trivial
  | cons action rest ih =>
    obtain ⟨hfirst, hrest⟩ := List.forall_mem_cons.1 h
    exact (runWork_confined hgrants hdirect hoperations hfirst).bind fun _ _ => ih hrest

/-- The calls of create and save are of a kind however deep deferred work nests below them. -/
theorem operationsAt_confined (hengine : engine.Asks direct types) (level : Nat) :
    Operations.Confined engine who types Q (operationsAt engine level) := by
  induction level with
  | zero => exact fun F _ record => ⟨.throw _, .throw _⟩
  | succ level ih =>
    intro F hF record
    have hdrain (queue : DeferredWork σ)
        (hqueue : DeferredWork.Holds (·.run.Asks direct types) queue) :
        Confines engine who Q (drain engine (operationsAt engine level) queue) fun _ => True :=
      drainAll_confined hgrants hdirect ih hqueue
    have hcreate := createWith_gives hdirect (hengine F) hgrants.audit hdrain (hgrants.fetch F)
      (hgrants.insert F hF) record
    have hsave := saveWith_gives hdirect (hengine F) hgrants.audit hdrain
      (hgrants.fetch F record.id) (hgrants.update F hF record.id)
    exact ⟨hcreate.confines, hsave.confines⟩

theorem perform_confined (hengine : engine.Asks direct types) {work : SessionWork σ α}
    (h : work.run.Asks direct types) :
    Confines engine who Q (perform engine work) fun _ => True :=
  runWork_confined hgrants hdirect (operationsAt_confined hgrants hdirect hengine _) h

end Session

end RecordEngine
