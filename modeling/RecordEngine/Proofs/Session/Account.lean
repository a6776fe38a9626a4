import RecordEngine.Proofs.Convergence.Account
import RecordEngine.Proofs.Session.Invariant
/-!
The stories of create and save, and of the work that makes them.

A create and a save go the same way: the record is admitted, the handlers run, the record is written
or not, the write is announced and audited, the work put off is carried out, and the row is read
again. They differ in the call that writes and in what it is announced and audited with, which is
what the definitions by `AuditAction` say. `Operated` puts the parts together, with one constructor
for each place where an operation can end.

Deferred work creates and saves in its turn. The relations for programs and queues take the account
of these inner operations as a parameter, so that `accountAt` is a plain recursion over how deep
they nest. That every run has such a story is `operationsAt_accounts` and `perform_accounts`.
-/

set_option autoImplicit false

namespace RecordEngine

/-- Create or save. -/
def Operations.operate {β σ : Type} {E : EntityType} (operations : Operations β σ)
    (kind : AuditAction) (record : Record E) : SessionM β σ (Record E) :=
  match kind with
  | .create => operations.create E record
  | .update => operations.save E record

namespace Session

open SessionM

variable {β σ α : Type} {E : EntityType}

/-! ## Reading a record -/

/-- What a fetch makes of the answer to its call. -/
def fetchOutcome (E : EntityType) (answer : Except Failure (Option Row)) :
    Except Failure (Option (Record E)) :=
  match answer with
  | .error failure => .error (.persistence Stage.fetch.label failure)
  | .ok none => .ok none
  | .ok (some row) => (Record.ofRow E row).map some

/-- What a load makes of the answer to its call. -/
def loadOutcome (E : EntityType) (id : String) (answer : Except Failure (Option Row)) :
    Except Failure (Record E) :=
  match fetchOutcome E answer with
  | .error failure => .error failure
  | .ok none => .error (.notFound E.name id)
  | .ok (some record) => .ok record

theorem loadOutcome_eq_ok {id : String} {answer : Except Failure (Option Row)} {record : Record E}
    (h : loadOutcome E id answer = .ok record) :
    ∃ row, answer = .ok (some row) ∧ Record.ofRow E row = .ok record := by
  cases answer with
  | error failure => cases h
  | ok row? =>
    cases row? with
    | none => cases h
    | some row =>
      refine ⟨row, rfl, ?_⟩
      unfold loadOutcome fetchOutcome at h
      dsimp only at h
      cases hrow : Record.ofRow E row with
      | error failure =>
        rw [hrow] at h
        cases h
      | ok found =>
        rw [hrow] at h
        exact h

/-- The call of a fetch, as part of a story. -/
def fetchCall (tx : TxId) (E : EntityType) (id : String) (before : β)
    (answer : Except Failure (Option Row)) (after : β) : Story β σ :=
  .call (.session E) ⟨before, .fetch tx (E.key id), answer, after⟩ .nil

variable {engine : Engine β σ} {who : Holder}

theorem fetch_accounts (E : EntityType) (id : String) :
    Accounts engine who (fetch engine E id) fun story r => ∃ before answer after,
      story = fetchCall who.tx E id before answer after ∧ r = fetchOutcome E answer := by
  refine Accounts.read_bind (g := fun session : Session => session.tx) fun session hsession => ?_
  subst hsession
  refine (Accounts.call E .fetch _).bind ?_ ?_
  · rintro story failure ⟨before, after, answer, rfl, hanswer⟩
    cases answer with
    | ok row? => cases hanswer
    | error cause => exact ⟨before, _, after, rfl, congrArg _ (Except.error.inj hanswer)⟩
  · rintro story row? ⟨before, after, answer, rfl, hanswer⟩
    obtain rfl := mapError_eq_ok.1 hanswer.symm
    cases row? with
    | none => exact .pure ⟨before, _, after, rfl, rfl⟩
    | some row =>
      refine (Accounts.ofExcept _).mono fun later r h => ?_
      obtain ⟨rfl, rfl⟩ := h
      exact ⟨before, _, after, rfl, rfl⟩

theorem load_accounts (E : EntityType) (id : String) :
    Accounts engine who (load engine E id) fun story r => ∃ before answer after,
      story = fetchCall who.tx E id before answer after ∧ r = loadOutcome E id answer := by
  refine (fetch_accounts E id).bind ?_ ?_
  · rintro story failure ⟨before, answer, after, rfl, hanswer⟩
    exact ⟨before, answer, after, rfl, by rw [loadOutcome, ← hanswer]⟩
  · rintro story record? ⟨before, answer, after, rfl, hanswer⟩
    cases record? with
    | none => exact .throw ⟨before, answer, after, rfl, by rw [loadOutcome, ← hanswer]⟩
    | some record => exact .pure ⟨before, answer, after, rfl, by rw [loadOutcome, ← hanswer]⟩

/-! ## The parts of an operation -/

/-- The record with the stamps of its write. -/
def stamp (kind : AuditAction) (baseline proposed : Record E) (now : Instant) (author : String) :
    Except Failure (Record E) :=
  match kind with
  | .create => stampNew proposed now author
  | .update => stampChanged proposed (baseline.version?.map (· + 1)) now author

/-- The call that writes a record. -/
def writeCall (tx : TxId) (kind : AuditAction) (id : String) (baseline written : Record E) : Call :=
  match kind with
  | .create => .insert tx (E.key id) written.toRow
  | .update => .update tx (E.key id)
    ((writtenFields baseline written).indices.map fun i => (i, written.field i))

/-- What is announced of a write. -/
def noticeOf (kind : AuditAction) (id : String) (baseline written : Record E) : Notice :=
  match kind with
  | .create => ⟨E.name, id, written.version?⟩
  | .update => ⟨E.name, id, baseline.version?.map (· + 1)⟩

/-- The fields of which a write is audited, and their values. -/
def auditedChanges (kind : AuditAction) (baseline written : Record E) : ChangeSet :=
  match kind with
  | .create => ChangeSet.ofMask (FieldMask.diff (.default E) written) none written
  | .update => ChangeSet.ofMask (writtenFields baseline written) (some baseline) written

/-- The audit record of a write. -/
def auditOf (who : Holder) (kind : AuditAction) (id : String) (baseline written : Record E) :
    AuditRecord :=
  ⟨who.actor.id, who.actor.effective, kind, E.name, id, auditedChanges kind baseline written⟩

/-- Whether a record is let in, with the record it is compared to. A save looks for the one that is
stored; a create may give the record an identifier. -/
inductive Admitted (who : Holder) :
    AuditAction → Record E → Story β σ → Except Failure (Record E × Record E) → Prop where
  | refused (kind : AuditAction) (record : Record E) (failure : Failure) :
      Admitted who kind record .nil (.error failure)
  | new (record given : Record E) (hcheck : E.schema.checkRow given.toRow = .ok ()) :
      Admitted who .create record .nil (.ok (.default E, given))
  | declined (record : Record E) (before after : β) (answer : Except Failure (Option Row))
      (failure : Failure) :
      Admitted who .update record (fetchCall who.tx E record.id before answer after)
        (.error failure)
  | found (record stored : Record E) (before after : β) (answer : Except Failure (Option Row))
      (hfound : loadOutcome E record.id answer = .ok stored)
      (hversion : checkVersion record stored record.id = .ok ()) :
      Admitted who .update record (fetchCall who.tx E record.id before answer after)
        (.ok (stored, record))

/-- The write of what the handlers left, or the decision that there is nothing to write. -/
inductive Wrote (who : Holder) (kind : AuditAction) (id : String) (baseline proposed : Record E) :
    Story β σ → Except Failure (Option (Record E)) → Prop where
  | unfit (failure : Failure) : Wrote who kind id baseline proposed .nil (.error failure)
  | unchanged (hkind : kind = .update)
      (hchanged : (changedFields baseline proposed).isEmpty = true) :
      Wrote who kind id baseline proposed .nil (.ok none)
  | refused (stamped : Record E) (before after : β)
      (answer : Except Failure (writeCall who.tx kind id baseline stamped).Answer)
      (failure : Failure) (hanswer : answer.isOk = false) :
      Wrote who kind id baseline proposed
        (.call (.session E)
          ⟨before, writeCall who.tx kind id baseline stamped, answer, after⟩ .nil)
        (.error failure)
  | made (stamped : Record E) (now : Instant)
      (hchanged : kind = .update → (changedFields baseline proposed).isEmpty = false)
      (hstamped : stamp kind baseline proposed now who.actor.effective = .ok stamped)
      (before after : β)
      (answer : Except Failure (writeCall who.tx kind id baseline stamped).Answer)
      (hanswer : answer.isOk = true) :
      Wrote who kind id baseline proposed
        (.call (.session E)
          ⟨before, writeCall who.tx kind id baseline stamped, answer, after⟩ .nil)
        (.ok (some stamped))

/-- An operation up to its write: the handlers run, and what they left is written. -/
inductive Headed (engine : Engine β σ) (who : Holder) (kind : AuditAction)
    (baseline given : Record E) : Story β σ → Except Failure (Option (Record E)) → Prop where
  | unsettled {forced : Bool} {passes : List (Story β σ)} {failure : Failure}
      (hconverged : Convergence.Converged engine who given.id 0 baseline given forced
        engine.config.maxPasses.toNat passes (.error failure)) :
      Headed engine who kind baseline given (Convergence.iterations E.name given.id 0 passes)
        (.error failure)
  | settled {forced : Bool} {passes : List (Story β σ)} {proposed : Record E} {told : Story β σ}
      {r : Except Failure (Option (Record E))}
      (hconverged : Convergence.Converged engine who given.id 0 baseline given forced
        engine.config.maxPasses.toNat passes (.ok proposed))
      (hwrote : Wrote who kind given.id baseline proposed told r) :
      Headed engine who kind baseline given
        (Convergence.iterations E.name given.id 0 passes ++ told) r

/-- What becomes public of a write, if there was one: it is announced, and then audited. -/
inductive Published (who : Holder) (kind : AuditAction) (id : String) (baseline : Record E) :
    Option (Record E) → Story β σ → Except Failure Unit → Prop where
  | unwritten : Published who kind id baseline none .nil (.ok ())
  | unannounced (written : Record E) (failure : Failure) :
      Published who kind id baseline (some written)
        (.announce (noticeOf kind id baseline written) (.error failure) .nil)
        (.error (.persistence Stage.notify.label failure))
  | announced (written : Record E) (before after : β) (answer : Except Failure Unit) :
      Published who kind id baseline (some written)
        (.announce (noticeOf kind id baseline written) (.ok ())
          (.call (.session E)
            ⟨before, .audit who.tx (auditOf who kind id baseline written), answer, after⟩ .nil))
        (answer.mapError (.persistence Stage.audit.label))

/-! ## Programs and queues -/

/-- What is told of create and save for each kind of record. -/
abbrev Inner (β σ : Type) :=
  AuditAction → (E : EntityType) → Record E → Story β σ → Except Failure (Record E) → Prop

/-- A way through a program, with the stories of the creates and saves it asks for. -/
inductive Performed (who : Holder) (inner : Inner β σ) :
    SessionProgram σ α → Story β σ → α → Prop where
  | done (result : α) : Performed who inner (.done result) .nil result
  | create {E : EntityType} {record : Record E}
      {next : Except Failure (Record E) → SessionProgram σ α} {told later : Story β σ}
      {answer : Except Failure (Record E)} {a : α} (hfirst : inner .create E record told answer)
      (hrest : Performed who inner (next answer) later a) :
      Performed who inner (.create E record next) (told ++ later) a
  | save {E : EntityType} {record : Record E}
      {next : Except Failure (Record E) → SessionProgram σ α} {told later : Story β σ}
      {answer : Except Failure (Record E)} {a : α} (hfirst : inner .update E record told answer)
      (hrest : Performed who inner (next answer) later a) :
      Performed who inner (.save E record next) (told ++ later) a
  | fetch {E : EntityType} {id : String}
      {next : Except Failure (Option (Record E)) → SessionProgram σ α} {before after : β}
      {answer : Except Failure (Option Row)} {later : Story β σ} {a : α}
      (hrest : Performed who inner (next (fetchOutcome E answer)) later a) :
      Performed who inner (.fetch E id next)
        (fetchCall who.tx E id before answer after ++ later) a
  | inspect {next : SessionView → SessionProgram σ α} (view : SessionView)
      (hview : (⟨view.tx, view.actor⟩ : Holder) = who) {later : Story β σ} {a : α}
      (hrest : Performed who inner (next view) later a) :
      Performed who inner (.inspect next) later a
  | call {c : Call} {next : Except Failure c.Answer → SessionProgram σ α} {before after : β}
      {answer : Except Failure c.Answer} {later : Story β σ} {a : α}
      (hrest : Performed who inner (next answer) later a) :
      Performed who inner (.call c next) (.call .program ⟨before, c, answer, after⟩ later) a
  | host {change : σ → σ} {next : σ → SessionProgram σ α} (state : σ) {later : Story β σ} {a : α}
      (hrest : Performed who inner (next state) later a) :
      Performed who inner (.host change next) (.host state change later) a

/-- A queue is carried out, each piece of work from its start to its end before the next one, up to
the first one that fails. -/
inductive Drained (who : Holder) (inner : Inner β σ) :
    List (String × SessionWork σ Unit) → Story β σ → Except Failure Unit → Prop where
  | nil : Drained who inner [] .nil (.ok ())
  | stopped {label : String} {action : SessionWork σ Unit}
      {rest : List (String × SessionWork σ Unit)} {told : Story β σ} {failure : Failure}
      (hfirst : Performed who inner action.run told (.error failure)) :
      Drained who inner ((label, action) :: rest) (.work label action told .nil) (.error failure)
  | next {label : String} {action : SessionWork σ Unit}
      {rest : List (String × SessionWork σ Unit)} {told later : Story β σ}
      {r : Except Failure Unit} (hfirst : Performed who inner action.run told (.ok ()))
      (hrest : Drained who inner rest later r) :
      Drained who inner ((label, action) :: rest) (.work label action told later) r

/-- What is left to do after the write has become public. An operation that wrote nothing and has
nothing queued gives back the record it was given; any other carries out its queue and then reads
the row again. -/
inductive Closed (who : Holder) (inner : Inner β σ) (id : String) (record : Record E)
    (written : Option (Record E)) (queue : List (String × SessionWork σ Unit)) :
    Story β σ → Except Failure (Record E) → Prop where
  | idle (hwritten : written = none) (hqueue : queue = []) :
      Closed who inner id record written queue .nil (.ok record)
  | stopped {told : Story β σ} {failure : Failure} (hbusy : written ≠ none ∨ queue ≠ [])
      (hdrained : Drained who inner queue told (.error failure)) :
      Closed who inner id record written queue told (.error failure)
  | read {told : Story β σ} (hbusy : written ≠ none ∨ queue ≠ [])
      (hdrained : Drained who inner queue told (.ok ())) (before after : β)
      (answer : Except Failure (Option Row)) :
      Closed who inner id record written queue
        (told ++ fetchCall who.tx E id before answer after) (loadOutcome E id answer)

/-! ## Operations -/

/-- A create or a save. -/
inductive Operated (engine : Engine β σ) (who : Holder) (inner : Inner β σ) (kind : AuditAction)
    (record : Record E) : Story β σ → Except Failure (Record E) → Prop where
  | refused {asked : Story β σ} {failure : Failure}
      (hadmitted : Admitted who kind record asked (.error failure)) :
      Operated engine who inner kind record asked (.error failure)
  | unwritten {asked head : Story β σ} {baseline given : Record E} {failure : Failure}
      (hadmitted : Admitted who kind record asked (.ok (baseline, given)))
      (hheaded : Headed engine who kind baseline given head (.error failure)) :
      Operated engine who inner kind record
        (asked ++ .span (.modelActivity E.name given.id kind) head .nil) (.error failure)
  | unpublished {asked head shown : Story β σ} {baseline given : Record E}
      {written : Option (Record E)} {failure : Failure}
      (hadmitted : Admitted who kind record asked (.ok (baseline, given)))
      (hheaded : Headed engine who kind baseline given head (.ok written))
      (hpublished : Published who kind given.id baseline written shown (.error failure)) :
      Operated engine who inner kind record
        (asked ++ .span (.modelActivity E.name given.id kind) (head ++ shown) .nil)
        (.error failure)
  | closed {asked head shown closing : Story β σ} {baseline given : Record E}
      {written : Option (Record E)} {r : Except Failure (Record E)}
      (hadmitted : Admitted who kind record asked (.ok (baseline, given)))
      (hheaded : Headed engine who kind baseline given head (.ok written))
      (hpublished : Published who kind given.id baseline written shown (.ok ()))
      (hclosed : Closed who inner given.id record written head.putOffs closing r) :
      Operated engine who inner kind record
        (asked ++ .span (.modelActivity E.name given.id kind) (head ++ (shown ++ closing)) .nil) r

/-- What is told of create and save with so many levels of deferred work below them. With none left
they are refused. -/
def accountAt (engine : Engine β σ) (who : Holder) : Nat → Inner β σ
  | 0 => fun _ _ _ story r => story = .nil ∧ r = .error nestedTooDeep
  | level + 1 => fun kind _ record story r =>
    Operated engine who (accountAt engine who level) kind record story r

/-! ## Every run has a story -/

/-- A result that is there decides how it goes on. -/
theorem ofExcept_bind_accounts {γ : Type} {result : Except Failure γ} {f : γ → SessionM β σ α}
    {A : Story β σ → Except Failure α → Prop}
    (herror : ∀ failure, result = .error failure → A .nil (.error failure))
    (hok : ∀ a, result = .ok a → Accounts engine who (f a) A) :
    Accounts engine who (SessionM.ofExcept result >>= f) A := by
  cases result with
  | error failure => exact .throw (herror failure rfl)
  | ok a => exact hok a rfl

theorem admitNew_accounts (record : Record E) :
    Accounts engine who (admitNew engine record) fun story r =>
      Admitted who .create record story (r.map fun given => (.default E, given)) := by
  have hwithId : Accounts engine who (withId engine record) fun story _ => story = .nil := by
    unfold withId
    split
    · split
      · refine ofExcept_bind_accounts (fun _ _ => rfl) fun index _ => ?_
        refine Accounts.newId.bind (fun _ _ h => h.1) fun _ id h => ?_
        obtain ⟨rfl, -⟩ := h
        exact (Accounts.ofExcept _).mono fun _ _ h => h.1
      · exact .throw rfl
    · exact .pure rfl
  refine hwithId.bind (fun _ failure h => h ▸ .refused .create record failure) ?_
  rintro _ given rfl
  refine ofExcept_bind_accounts (fun failure _ => .refused .create record failure) fun _ hcheck => ?_
  refine ofExcept_bind_accounts (fun failure _ => .refused .create record failure) fun _ _ => ?_
  exact .pure (.new record given hcheck)

theorem admitChange_accounts (record : Record E) :
    Accounts engine who (admitChange engine record) fun story r =>
      Admitted who .update record story (r.map fun stored => (stored, record)) := by
  unfold admitChange
  refine ofExcept_bind_accounts (fun failure _ => .refused .update record failure) fun _ _ => ?_
  by_cases hid : record.id.isEmpty
  · rw [if_pos hid]
    exact .throw (.refused .update record _)
  rw [if_neg hid]
  refine (load_accounts E record.id).bind ?_ ?_
  · rintro story failure ⟨before, answer, after, rfl, -⟩
    exact .declined record before after answer failure
  · rintro story stored ⟨before, answer, after, rfl, hanswer⟩
    refine ofExcept_bind_accounts (fun failure _ => ?_) fun _ hversion => .pure ?_
    · exact .declined record before after answer failure
    · exact .found record stored before after answer hanswer.symm hversion

/-- Neither a write nor what becomes public of it puts work off. -/
theorem Wrote.putOffs_eq_nil {kind : AuditAction} {id : String} {baseline proposed : Record E}
    {story : Story β σ} {r : Except Failure (Option (Record E))}
    (h : Wrote who kind id baseline proposed story r) : story.putOffs = [] := by
  cases h <;> rfl

/-- The call that writes, once the record has its stamps. -/
theorem write_accounts {kind : AuditAction} {id : String} {baseline proposed stamped : Record E}
    {now : Instant} (hstamped : stamp kind baseline proposed now who.actor.effective = .ok stamped)
    (hchanged : kind = .update → (changedFields baseline proposed).isEmpty = false)
    (stage : Stage) {γ : Type} (out : γ) (f : γ → Option (Record E)) (hout : f out = some stamped) :
    Accounts engine who (do
      let _ ← SessionM.call engine stage (writeCall who.tx kind id baseline stamped)
      return out) fun story r =>
        Wrote who kind id baseline proposed story (r.map f) ∧ ∀ left, r = .ok left → left = out := by
  refine (Accounts.call E stage _).bind ?_ ?_
  · rintro story failure ⟨before, after, answer, rfl, hanswer⟩
    cases answer with
    | ok a => cases hanswer
    | error cause => exact ⟨.refused stamped before after _ failure rfl, fun _ h => by cases h⟩
  · rintro story a ⟨before, after, answer, rfl, hanswer⟩
    obtain rfl := mapError_eq_ok.1 hanswer.symm
    refine .pure ⟨?_, fun left h => (Except.ok.inj h).symm⟩
    change Wrote who kind id baseline proposed _ (.ok (f out))
    rw [hout]
    exact .made stamped now hchanged hstamped before after _ rfl

section
variable {kind : AuditAction} {baseline given : Record E} {forced : Bool}
  {passes : List (Story β σ)} {proposed : Record E} {told : Story β σ}

/-- What a write leaves, after the passes that led to it. -/
theorem Headed.of_wrote {γ : Type} {out : Except Failure γ} {f : γ → Option (Record E)}
    (hconverged : Convergence.Converged engine who given.id 0 baseline given forced
      engine.config.maxPasses.toNat passes (.ok proposed))
    (hwrote : Wrote who kind given.id baseline proposed told (out.map f)) :
    Headed engine who kind baseline given
        (Convergence.iterations E.name given.id 0 passes ++ told) (out.map f) ∧
      (Convergence.iterations E.name given.id 0 passes ++ told).putOffs =
        (Convergence.iterations E.name given.id 0 passes).putOffs := by
  refine ⟨.settled hconverged hwrote, ?_⟩
  rw [Story.putOffs_append, hwrote.putOffs_eq_nil, List.append_nil]

end

/-- The run of the handlers, and what goes on with it. -/
theorem converge_bind_accounts {γ : Type} {kind : AuditAction} {baseline given : Record E}
    {forced : Bool} {g : Convergence.Outcome σ E → SessionM β σ γ} {f : γ → Option (Record E)}
    {queued : γ → DeferredWork σ}
    (h : ∀ out : Convergence.Outcome σ E, Accounts engine who (g out) fun told r =>
      Wrote who kind given.id baseline out.record told (r.map f) ∧
        ∀ left, r = .ok left → queued left = out.queue) :
    Accounts engine who (Convergence.run engine baseline given forced >>= g) fun story r =>
      Headed engine who kind baseline given story (r.map f) ∧
        ∀ left, r = .ok left → (queued left).actions = story.putOffs := by
  refine (Convergence.run_accounts baseline given forced).bind ?_ ?_
  · rintro _ failure ⟨passes, r, rfl, hconverged, hr⟩
    obtain rfl := map_eq_error.1 hr.symm
    exact ⟨.unsettled hconverged, fun _ h => by cases h⟩
  · rintro _ out ⟨passes, r, rfl, hconverged, hr⟩
    cases r with
    | error failure => cases hr
    | ok proposed =>
      obtain ⟨rfl, hactions⟩ := Prod.mk.inj (Except.ok.inj hr)
      refine (h out).mono fun told r hr => ?_
      obtain ⟨hwrote, hqueue⟩ := hr
      obtain ⟨hheaded, hputOffs⟩ := Headed.of_wrote hconverged hwrote
      exact ⟨hheaded, fun left hleft => by rw [hqueue left hleft, hactions, hputOffs]⟩

theorem insertNew_accounts (given : Record E) :
    Accounts engine who (insertNew engine given) fun story r =>
      Headed engine who .create (.default E) given story (r.map fun left => some left.1) ∧
        ∀ left, r = .ok left → left.2.actions = story.putOffs := by
  refine converge_bind_accounts fun out => ?_
  refine ofExcept_bind_accounts (fun failure _ => ?_) fun _ _ => ?_
  · exact ⟨.unfit failure, fun _ h => by cases h⟩
  refine Accounts.now.bind (fun _ _ h => by obtain ⟨-, _, h⟩ := h; cases h) fun _ now h => ?_
  obtain ⟨rfl, -⟩ := h
  refine Accounts.read_bind (g := fun session : Session => session) fun session hsession => ?_
  subst hsession
  refine ofExcept_bind_accounts (fun failure _ => ?_) fun stamped hstamped => ?_
  · exact ⟨.unfit failure, fun _ h => by cases h⟩
  have hstamp : stamp .create (.default E) out.record now session.holder.actor.effective =
    .ok stamped := hstamped
  refine (write_accounts hstamp nofun .insert (stamped, out.queue) (fun left => some left.1)
    rfl).mono fun told r hr => ?_
  exact ⟨hr.1, fun left h => by rw [hr.2 left h]⟩

theorem updateChanged_accounts (record stored : Record E) :
    Accounts engine who (updateChanged engine record stored) fun story r =>
      Headed engine who .update stored record story (r.map fun left => left.1) ∧
        ∀ left, r = .ok left → left.2.actions = story.putOffs := by
  refine Accounts.read_bind (g := fun session : Session => session) fun session _ => ?_
  refine converge_bind_accounts fun out => ?_
  refine ofExcept_bind_accounts (fun failure _ => ?_) fun _ _ => ?_
  · exact ⟨.unfit failure, fun _ h => by cases h⟩
  by_cases hchanged : (changedFields stored out.record).isEmpty = true
  · rw [if_pos hchanged]
    exact .pure ⟨.unchanged rfl hchanged, fun left h => by rw [← Except.ok.inj h]⟩
  rw [if_neg hchanged, updateRow]
  simp only [bind_assoc, pure_bind]
  refine Accounts.now.bind (fun _ _ h => by obtain ⟨-, _, h⟩ := h; cases h) fun _ now h => ?_
  obtain ⟨rfl, -⟩ := h
  refine Accounts.read_bind (g := fun session : Session => session) fun session hsession => ?_
  subst hsession
  refine ofExcept_bind_accounts (fun failure _ => ?_) fun stamped hstamped => ?_
  · exact ⟨.unfit failure, fun _ h => by cases h⟩
  have hstamp : stamp .update stored out.record now session.holder.actor.effective =
    .ok stamped := hstamped
  refine (write_accounts hstamp (fun _ => eq_false_of_ne_true hchanged) .update
    (some stamped, out.queue) (fun left => left.1) rfl).mono fun told r hr => ?_
  exact ⟨hr.1, fun left h => by rw [hr.2 left h]⟩

/-- The announcement of a write, and its audit record. -/
theorem publish_accounts (kind : AuditAction) (id : String) (baseline written : Record E) :
    Accounts engine who (do
      SessionM.announce engine (noticeOf kind id baseline written)
      recordAudit engine kind E id (auditedChanges kind baseline written))
      (Published who kind id baseline (some written)) := by
  refine (Accounts.announce _).bind ?_ ?_
  · rintro _ failure ⟨answer, rfl, hanswer⟩
    cases answer with
    | ok a => cases hanswer
    | error cause =>
      rw [Except.error.inj hanswer]
      exact .unannounced written cause
  · rintro _ ⟨⟩ ⟨answer, rfl, hanswer⟩
    obtain rfl := mapError_eq_ok.1 hanswer.symm
    refine Accounts.read_bind (g := fun session : Session => session) fun session hsession => ?_
    subst hsession
    refine (Accounts.call E .audit _).mono ?_
    rintro _ r ⟨before, after, answer, rfl, rfl⟩
    exact .announced written before after answer

theorem announceChange_accounts (id : String) (stored : Record E) (written : Option (Record E)) :
    Accounts engine who (announceChange engine id stored written)
      (Published who .update id stored written) := by
  cases written with
  | none => exact .pure .unwritten
  | some written => exact publish_accounts .update id stored written

/-! ### Programs and nested operations -/

section
variable {inner : Inner β σ} {operations : Operations β σ}
  (hoperations : ∀ (kind : AuditAction) (E : EntityType) (record : Record E),
    Accounts engine who (operations.operate kind record) (inner kind E record))
include hoperations

/-- Every request of a program has its story, and then what the program does with the answer. -/
theorem runProgram_accounts (program : SessionProgram σ (Except Failure α)) :
    Accounts engine who (runProgram engine operations program : SessionM β σ α)
      (Performed who inner program) := by
  let continued (program : SessionProgram σ (Except Failure α)) : SessionM β σ α :=
    runProgram engine operations program
  induction program with
  | done result =>
    exact (Accounts.ofExcept result).mono fun _ _ h => by
      obtain ⟨rfl, rfl⟩ := h
      exact .done _
  | create E record next ih =>
    intro s hs
    obtain ⟨told, answer, s₁, hplays, hfirst⟩ := hoperations .create E record s hs
    obtain ⟨later, r, s', hplays', hrest⟩ := ih answer s₁ (hplays.holder.trans hs)
    exact ⟨_, r, s', hplays.answered (k := fun answer => continued (next answer)) hplays',
      .create hfirst hrest⟩
  | save E record next ih =>
    intro s hs
    obtain ⟨told, answer, s₁, hplays, hfirst⟩ := hoperations .update E record s hs
    obtain ⟨later, r, s', hplays', hrest⟩ := ih answer s₁ (hplays.holder.trans hs)
    exact ⟨_, r, s', hplays.answered (k := fun answer => continued (next answer)) hplays',
      .save hfirst hrest⟩
  | fetch E id next ih =>
    intro s hs
    have hfetch : Accounts engine who (Session.fetch engine E id) _ := fetch_accounts E id
    obtain ⟨_, _, s₁, hplays, before, answer, after, rfl, rfl⟩ := hfetch s hs
    obtain ⟨later, r, s', hplays', hrest⟩ := ih _ s₁ (hplays.holder.trans hs)
    exact ⟨_, r, s', hplays.answered (k := fun answer => continued (next answer)) hplays',
      .fetch hrest⟩
  | inspect next ih =>
    intro s hs
    obtain ⟨story, r, s', hplays, hrest⟩ := ih
      ⟨s.session.tx, s.session.actor, s.session.options, s.session.history, engine.config⟩ s hs
    exact ⟨story, r, s', ⟨hplays.run, hplays.served, hplays.holder⟩,
      .inspect _ hs hrest⟩
  | call c next ih =>
    intro s hs
    obtain ⟨story, r, s', hplays, hrest⟩ := ih (engine.backend.call c s.world.backend).1
      { s with world.backend := (engine.backend.call c s.world.backend).2 } hs
    let exchange : Exchange β :=
      ⟨s.world.backend, c, (engine.backend.call c s.world.backend).1,
        (engine.backend.call c s.world.backend).2⟩
    have hserved : (Story.call .program exchange story).Served engine.backend s.world.around
        s'.world.around := ⟨rfl, rfl, hplays.served⟩
    exact ⟨.call .program exchange story, r, s', ⟨hplays.run, hserved, hplays.holder⟩,
      .call hrest⟩
  | host change next ih =>
    intro s hs
    obtain ⟨story, r, s', hplays, hrest⟩ := ih s.world.host
      { s with world.host := change s.world.host } hs
    have hserved : (Story.host s.world.host change story).Served engine.backend s.world.around
        s'.world.around := ⟨rfl, hplays.served⟩
    exact ⟨.host s.world.host change story, r, s', ⟨hplays.run, hserved, hplays.holder⟩,
      .host _ hrest⟩

theorem drainAll_accounts (queue : List (String × SessionWork σ Unit)) :
    Accounts engine who (drainAll engine operations queue) (Drained who inner queue) := by
  induction queue with
  | nil => exact .pure .nil
  | cons piece rest ih =>
    obtain ⟨label, action⟩ := piece
    have hfirst : Accounts engine who (runWork engine operations action) fun story r => ∃ told,
        story = .work label action told .nil ∧ Performed who inner action.run told r :=
      .work label action ((runProgram_accounts hoperations action.run).mono
        fun told r h => ⟨told, rfl, h⟩)
    refine hfirst.bind ?_ ?_
    · rintro _ failure ⟨told, rfl, h⟩
      exact .stopped h
    · rintro _ ⟨⟩ ⟨told, rfl, h⟩
      exact ih.mono fun later r hrest => .next h hrest

/-- The work put off, and the row read again. -/
theorem drain_load_accounts {id : String} (record : Record E) {written : Option (Record E)}
    {queue : DeferredWork σ} (hbusy : written ≠ none ∨ queue.actions ≠ []) :
    Accounts engine who (do
      drain engine operations queue
      load engine E id)
      (Closed who inner id record written queue.actions) := by
  refine (drainAll_accounts hoperations queue.actions).bind
    (fun _ _ hdrained => .stopped hbusy hdrained) fun told _ hdrained => ?_
  refine (load_accounts E id).mono ?_
  rintro _ r ⟨before, answer, after, rfl, rfl⟩
  exact .read hbusy hdrained before after answer

theorem closeSave_accounts (record : Record E) (written : Option (Record E))
    (queue : DeferredWork σ) :
    Accounts engine who (closeSave engine (drain engine operations) record written queue)
      (Closed who inner record.id record written queue.actions) := by
  unfold closeSave
  cases hidle : written.isNone && queue.isEmpty with
  | true =>
    rw [Bool.and_eq_true, Option.isNone_iff_eq_none] at hidle
    exact .pure (.idle hidle.1 (List.isEmpty_iff.1 hidle.2))
  | false =>
    refine drain_load_accounts hoperations record ?_
    rw [Bool.and_eq_false_iff] at hidle
    refine hidle.imp (fun h hnone => ?_) fun h hnil => ?_
    · rw [hnone] at h
      cases h
    · rw [Deferred.isEmpty, hnil] at h
      cases h

theorem createWith_accounts (record : Record E) :
    Accounts engine who (createWith engine (drain engine operations) record)
      (Operated engine who inner .create record) := by
  rw [createWith_eq]
  refine (admitNew_accounts record).bind (fun _ _ h => .refused h) fun asked given hadmitted => ?_
  refine .withSpan _ ((insertNew_accounts given).bind
    (fun _ _ h => .unwritten hadmitted h.1) fun head left h => ?_)
  obtain ⟨hheaded, hqueue⟩ := h
  refine (publish_accounts .create given.id (.default E) left.1).bind
    (fun _ _ h => .unpublished hadmitted hheaded h) fun shown _ hpublished => ?_
  refine (drain_load_accounts hoperations record (.inl (Option.some_ne_none left.1))).mono
    fun closing r hclosed => ?_
  rw [hqueue left rfl] at hclosed
  exact .closed hadmitted hheaded hpublished hclosed

theorem saveWith_accounts (record : Record E) :
    Accounts engine who (saveWith engine (drain engine operations) record)
      (Operated engine who inner .update record) := by
  rw [saveWith_eq_head]
  refine (admitChange_accounts record).bind (fun _ _ h => .refused h)
    fun asked stored hadmitted => ?_
  refine .withSpan _ ((updateChanged_accounts record stored).bind
    (fun _ _ h => .unwritten hadmitted h.1) fun head left h => ?_)
  obtain ⟨hheaded, hqueue⟩ := h
  refine (announceChange_accounts record.id stored left.1).bind
    (fun _ _ h => .unpublished hadmitted hheaded h) fun shown _ hpublished => ?_
  refine (closeSave_accounts hoperations record left.1 left.2).mono fun closing r hclosed => ?_
  rw [hqueue left rfl] at hclosed
  exact .closed hadmitted hheaded hpublished hclosed

end

/-- Create and save have a story at whatever depth. -/
theorem operationsAt_accounts (level : Nat) (kind : AuditAction) (E : EntityType)
    (record : Record E) :
    Accounts engine who ((operationsAt engine level).operate kind record)
      (accountAt engine who level kind E record) := by
  induction level generalizing kind E record with
  | zero => cases kind <;> exact .throw ⟨rfl, rfl⟩
  | succ level ih =>
    cases kind with
    | create => exact createWith_accounts ih record
    | update => exact saveWith_accounts ih record

/-- So does all work in a session. -/
theorem perform_accounts (work : SessionWork σ α) :
    Accounts engine who (perform engine work)
      (Performed who (accountAt engine who (engine.nesting + 1)) work.run) :=
  runProgram_accounts (operationsAt_accounts (engine.nesting + 1)) work.run

end Session

end RecordEngine
