import RecordEngine.Proofs.Convergence.Account
/-!
The visits of a run.

A `Visit` is one handler at its turn, with all that decides what happens there and, if its function
was called, what came of it. The visits of a run form a `Chain`: each finds the record and the
session that the one before it left. A `Chronicle` is the chain cut into passes, with what makes
each pass due and who has a turn in it. Runs that converge have one, which is proved here once,
along their text; what is to be said of such a run can then be read off its visits.
-/

set_option autoImplicit false

namespace RecordEngine

open SessionM

variable {β σ α γ : Type} {E : EntityType} {engine : Engine β σ} {who : Holder}

namespace SessionM

/-! ## Operations that come to a result -/

/-- The operation has a story, and if it comes to a result, that is related to the story and to the
session it is left in. -/
def Comes (engine : Engine β σ) (m : SessionM β σ α) (s : Scope β σ)
    (A : Story β σ → α → Session → Prop) : Prop :=
  ∃ story r s', Plays engine m s story r s' ∧ ∀ a, r = .ok a → A story a s'.session

variable {m : SessionM β σ α} {f : α → SessionM β σ γ} {s : Scope β σ}
  {A A' : Story β σ → α → Session → Prop} {B : Story β σ → γ → Session → Prop}

theorem Comes.mono (h : Comes engine m s A)
    (hAA' : ∀ story a session, A story a session → A' story a session) : Comes engine m s A' := by
  obtain ⟨story, r, s', hplays, hA⟩ := h
  exact ⟨story, r, s', hplays, fun a hr => hAA' story a s'.session (hA a hr)⟩

theorem Comes.pure {a : α} (h : A .nil a s.session) :
    Comes engine (Pure.pure a : SessionM β σ α) s A :=
  ⟨.nil, .ok a, s, ⟨fun _ => rfl, rfl, rfl⟩, fun _ heq => Except.ok.inj heq ▸ h⟩

theorem Comes.throw {failure : Failure} :
    Comes engine (MonadExcept.throw failure : SessionM β σ α) s A :=
  ⟨.nil, .error failure, s, ⟨fun _ => rfl, rfl, rfl⟩, fun _ heq => by cases heq⟩

theorem Comes.withSpan (event : TraceEvent)
    (h : Comes engine m s fun story => A (.span event story .nil)) :
    Comes engine (SessionM.withSpan event m) s A := by
  obtain ⟨story, r, s', hplays, hA⟩ := h
  exact ⟨_, r, s', hplays.withSpan event, hA⟩

/-- What comes after goes on in the session that is left. -/
theorem Comes.bind (h : Comes engine m s A)
    (hnext : ∀ (told : Story β σ) (a : α) (s' : Scope β σ),
      s'.session.holder = s.session.holder → A told a s'.session →
        Comes engine (f a) s' fun later => B (told ++ later)) :
    Comes engine (m >>= f) s B := by
  obtain ⟨told, r, s', hplays, hA⟩ := h
  cases r with
  | error failure => exact ⟨told, _, s', hplays.bind_error, fun _ heq => by cases heq⟩
  | ok a =>
    obtain ⟨later, r, s'', hplays', hB⟩ := hnext told a s' hplays.holder (hA a rfl)
    exact ⟨_, r, s'', hplays.bind hplays', hB⟩

end SessionM

namespace Convergence

/-! ## A handler at its turn -/

/-- What the turns of a pass have in common. -/
structure Setting (E : EntityType) where
  id : String
  /-- The number of the pass. -/
  pass : Nat
  /-- The record that the last pass began with. -/
  before : Record E
  /-- The record that this pass begins with. -/
  start : Record E

/-- What has changed when the pass begins. -/
def Setting.mask (setting : Setting E) : FieldMask := FieldMask.diff setting.before setting.start

/-- A handler at its turn. -/
structure Visit (β σ : Type) (E : EntityType) extends Setting E where
  handler : Handler σ E
  /-- The proposed record as the handler finds it. -/
  found : Record E
  /-- The session when the turn comes. -/
  session : Session
  /-- What the function did and the record it left, if it was called. -/
  call : Option (Story β σ × Record E)

namespace Visit

variable (visit : Visit β σ E)

def skipped : Bool := skips visit.handler visit.id visit.session

def forced : Bool := forces visit.handler visit.id visit.session

/-- Whether the handler is dispatched: a change calls for it or it is forced. -/
def due : Bool := !(visit.handler.triggeredBy visit.mask).isEmpty || visit.forced

/-- The record that the handler leaves to the next one. -/
def left : Record E :=
  match visit.call with
  | none => visit.found
  | some (_, after) => after

/-- The session after the turn. -/
def after : Session :=
  let session := consulted visit.handler visit.id visit.session
  if visit.call.isSome then marked visit.handler visit.id session else session

/-- What is traced of the dispatch. -/
def event : TraceEvent :=
  dispatchEvent visit.handler visit.id visit.mask visit.before visit.found visit.skipped
    visit.forced

def story : Story β σ :=
  if visit.due then
    .span visit.event
      (match visit.call with
      | none => .nil
      | some (told, after) =>
        told ++ .note (returnEvent visit.handler visit.id visit.found after) .nil) .nil
  else .nil

/-- The function was called if and only if the handler was dispatched and not skipped, or forced as
well; and what is told of the call is what the function did, which left the identifier. -/
structure Exact (who : Holder) (visit : Visit β σ E) : Prop where
  called : visit.call.isSome = (visit.due && (!visit.skipped || visit.forced))
  follows (told : Story β σ) (after : Record E) (h : visit.call = some (told, after)) :
    after.id = visit.id ∧ ∃ cx : HandlerContext, Context who visit.pass cx ∧
      (visit.handler.function cx visit.before visit.found).Follows told (.ok after)

end Visit

theorem calls_eq {handler : Handler σ E} {id : String} {mask : FieldMask} {session : Session} :
    calls handler id mask session =
      ((!(handler.triggeredBy mask).isEmpty || forces handler id session) &&
        (!skips handler id session || forces handler id session)) := by
  unfold calls
  cases forces handler id session <;> cases skips handler id session <;>
    cases (handler.triggeredBy mask).isEmpty <;> rfl

/-- A call that comes to a record is traced with it. -/
theorem Called.ok {handler : Handler σ E} {id : String} {pass : Nat}
    {before proposed after : Record E} {story : Story β σ}
    (h : Called who handler id pass before proposed story (.ok after)) :
    after.id = id ∧ ∃ (cx : HandlerContext) (told : Story β σ), Context who pass cx ∧
      (handler.function cx before proposed).Follows told (.ok after) ∧
        story = told ++ .note (returnEvent handler id proposed after) .nil := by
  obtain ⟨result, hresult⟩ : ∃ result, Except.ok after = result := ⟨_, rfl⟩
  rw [hresult] at h
  cases h with
  | failed => cases hresult
  | @returned cx hcx told record hfollows =>
    split at hresult
    · next hid =>
      obtain rfl := Except.ok.inj hresult
      exact ⟨hid, cx, told, hcx, hfollows, rfl⟩
    · cases hresult

/-- A turn that comes to a record is a visit. -/
theorem dispatch_visited (setting : Setting E) (handler : Handler σ E) (proposed : Record E)
    (queue : DeferredWork σ) (s : Scope β σ) :
    Comes engine (dispatch engine handler setting.id setting.pass setting.mask setting.before
        proposed queue) s
      fun story out session => ∃ call,
        let visit : Visit β σ E := ⟨setting, handler, proposed, s.session, call⟩
        visit.Exact s.session.holder ∧ visit.left = out.1 ∧ visit.after = session ∧
          visit.story = story := by
  let start : Scope β σ := { s with session := consulted handler setting.id s.session }
  cases hcalls : calls handler setting.id setting.mask s.session with
  | true =>
    have hinvoke : Accounts engine s.session.holder
        (invoke engine handler setting.id setting.pass setting.before proposed queue)
        (Queues queue (Called s.session.holder handler setting.id setting.pass setting.before
          proposed)) :=
      invoke_accounts _ _ _ _ _ _
    obtain ⟨inside, out, s', hplays, hqueues⟩ := hinvoke start rfl
    have hspan := hplays.withSpan (dispatchEvent handler setting.id setting.mask setting.before
      proposed (skips handler setting.id s.session) (forces handler setting.id s.session))
    have hrun (sink : TraceSink) := (dispatch_of_calls (s := s.tracing sink) hcalls).trans
      (hspan.run sink)
    refine ⟨_, out, s', ⟨hrun, hspan.served, hspan.holder⟩, ?_⟩
    rintro ⟨after, queue'⟩ rfl
    obtain ⟨hid, cx, told, hcx, hfollows, rfl⟩ := hqueues.ok.1.ok
    have hsession : s'.session = marked handler setting.id
        (consulted handler setting.id s.session) := by
      rcases dispatch_cases (hrun s.world.trace) with ⟨hquiet, -⟩ | ⟨-, -, hsession⟩
      · exact absurd (hquiet.symm.trans hcalls) (by decide)
      · exact hsession
    rw [calls_eq] at hcalls
    refine ⟨some (told, after), ⟨hcalls.symm, ?_⟩, rfl, hsession.symm, ?_⟩
    · rintro _ _ ⟨⟩
      exact ⟨hid, cx, hcx, hfollows⟩
    · exact if_pos (Bool.and_eq_true _ _ ▸ hcalls).1
  | false =>
    have hcalled := hcalls
    rw [calls_eq] at hcalled
    -- A handler that is not called leaves its span or nothing, but the same record and session.
    obtain ⟨hforces, hquiet | ⟨htriggered, hskips⟩⟩ := not_calls_cases hcalls
    · refine ⟨.nil, .ok (proposed, queue), start, ⟨fun sink => ?_, rfl, rfl⟩, ?_⟩
      · exact dispatch_of_quiet (s := s.tracing sink) hquiet hforces
      · rintro _ ⟨⟩
        refine ⟨none, ⟨hcalled.symm, fun _ _ h => by cases h⟩, rfl, rfl, if_neg ?_⟩
        simp only [Visit.due, Visit.forced, hquiet, hforces]
        decide
    · let event := dispatchEvent handler setting.id setting.mask setting.before proposed true false
      refine ⟨.span event .nil .nil, .ok (proposed, queue), start,
        ⟨fun sink => ?_, ⟨_, rfl, rfl⟩, rfl⟩, ?_⟩
      · rw [dispatch_of_skipped (s := s.tracing sink) htriggered hskips hforces]
        rfl
      · rintro _ ⟨⟩
        refine ⟨none, ⟨hcalled.symm, fun _ _ h => by cases h⟩, rfl, rfl, ?_⟩
        simp only [Visit.story, Visit.due, Visit.event, Visit.skipped, Visit.forced, htriggered,
          hskips, hforces]
        rfl

/-! ## One visit after another -/

/-- Visits from a record and a session to a record and a session, each beginning where the one
before it ended. -/
inductive Chain (who : Holder) :
    Record E → Session → List (Visit β σ E) → Record E → Session → Prop where
  | nil (record : Record E) (session : Session) : Chain who record session [] record session
  | next {visit : Visit β σ E} {rest : List (Visit β σ E)} {record : Record E} {session : Session}
      (hexact : visit.Exact who) (hrest : Chain who visit.left visit.after rest record session) :
      Chain who visit.found visit.session (visit :: rest) record session

theorem Chain.append {visits later : List (Visit β σ E)} {first next last : Record E}
    {session session' session'' : Session} (h : Chain who first session visits next session')
    (hlater : Chain who next session' later last session'') :
    Chain who first session (visits ++ later) last session'' := by
  induction h with
  | nil => exact hlater
  | next hexact _ ih => exact .next hexact (ih hlater)

/-- What happens in a pass. -/
def storyOf : List (Visit β σ E) → Story β σ
  | [] => .nil
  | visit :: rest => visit.story ++ storyOf rest

/-- The visits of a pass: every handler has its turn, in the same setting. -/
structure Round (who : Holder) (setting : Setting E) (handlers : List (Handler σ E))
    (found : Record E) (session : Session) (visits : List (Visit β σ E)) (left : Record E)
    (after : Session) : Prop where
  turns : visits.map (fun visit => (visit.toSetting, visit.handler)) =
    handlers.map fun handler => (setting, handler)
  chain : Chain who found session visits left after

theorem Round.of_mem {setting : Setting E} {handlers : List (Handler σ E)}
    {found left : Record E} {session after : Session} {visits : List (Visit β σ E)}
    (h : Round who setting handlers found session visits left after) {visit : Visit β σ E}
    (hmem : visit ∈ visits) : visit.toSetting = setting ∧ visit.handler ∈ handlers := by
  have hturn : (visit.toSetting, visit.handler) ∈
      visits.map fun visit => (visit.toSetting, visit.handler) := List.mem_map_of_mem hmem
  rw [h.turns] at hturn
  obtain ⟨handler, hhandler, hturn⟩ := List.mem_map.1 hturn
  obtain ⟨hsetting, rfl⟩ := Prod.mk.inj hturn
  exact ⟨hsetting.symm, hhandler⟩

/-- Turns that come to a record are visits. -/
theorem dispatchAll_visited (setting : Setting E) (handlers : List (Handler σ E))
    (proposed : Record E) (queue : DeferredWork σ) (s : Scope β σ) :
    Comes engine (dispatchAll engine setting.id setting.pass setting.mask setting.before handlers
        proposed queue) s
      fun story out session => ∃ visits : List (Visit β σ E),
        Round s.session.holder setting handlers proposed s.session visits out.1 session ∧
          storyOf visits = story := by
  induction handlers generalizing proposed queue s with
  | nil => exact .pure ⟨[], ⟨rfl, .nil proposed s.session⟩, rfl⟩
  | cons handler rest ih =>
    refine (dispatch_visited setting handler proposed queue s).bind ?_
    rintro told ⟨next, queue'⟩ s' hholder ⟨call, hexact, rfl, hafter, rfl⟩
    refine (ih _ queue' s').mono ?_
    rintro later out session ⟨visits, ⟨hturns, hchain⟩, rfl⟩
    rw [hholder, ← hafter] at hchain
    refine ⟨⟨setting, handler, proposed, s.session, call⟩ :: visits, ⟨?_, .next hexact hchain⟩, rfl⟩
    exact congrArg ((setting, handler) :: ·) hturns

/-! ## Pass after pass -/

/-- The visits of the passes after number `pass`, up to where none is due. -/
inductive Chronicle (engine : Engine β σ) (who : Holder) (id : String) :
    Nat → Record E → Record E → Bool → Session → List (List (Visit β σ E)) → Record E → Session →
      Prop where
  | settled {pass : Nat} {baseline proposed : Record E} {forced : Bool} {session : Session}
      (hdue : due baseline proposed forced = false) :
      Chronicle engine who id pass baseline proposed forced session [] proposed session
  | passed {pass : Nat} {baseline proposed after record : Record E} {forced : Bool}
      {session session' session'' : Session} {visits : List (Visit β σ E)}
      {rounds : List (List (Visit β σ E))} (hdue : due baseline proposed forced = true)
      (hround : Round who ⟨id, pass + 1, baseline, proposed⟩ (engine.registry.handlers E) proposed
        session visits after session')
      (hrest : Chronicle engine who id (pass + 1) proposed after false session' rounds record
        session'') :
      Chronicle engine who id pass baseline proposed forced session (visits :: rounds) record
        session''

section
variable {id : String} {pass : Nat} {baseline proposed record : Record E} {forced : Bool}
  {session session' : Session} {rounds : List (List (Visit β σ E))}

/-- The visits of all passes are one chain. -/
theorem Chronicle.chain (h : Chronicle engine who id pass baseline proposed forced session rounds
    record session') : Chain who proposed session rounds.flatten record session' := by
  induction h with
  | settled => exact .nil _ _
  | passed _ hround _ ih => exact hround.chain.append ih

/-- In each pass every handler has its turn, in the order in which they are registered. -/
theorem Chronicle.turns (h : Chronicle engine who id pass baseline proposed forced session rounds
    record session') :
    rounds.map (·.map fun visit => (visit.pass, visit.handler)) =
      (List.range rounds.length).map fun k =>
        (engine.registry.handlers E).map fun handler => (pass + (k + 1), handler) := by
  induction h with
  | settled => rfl
  | @passed pass baseline proposed _ _ _ _ _ _ visits rounds _ hround _ ih =>
    have hfirst : visits.map (fun visit => (visit.pass, visit.handler)) =
        (engine.registry.handlers E).map fun handler => (pass + 1, handler) := by
      have h := congrArg (List.map fun turn : Setting E × Handler σ E => (turn.1.pass, turn.2))
        hround.turns
      rwa [List.map_map, List.map_map] at h
    rw [List.map_cons, hfirst, ih, List.length_cons, List.range_succ_eq_map, List.map_cons,
      List.map_map]
    simp only [Function.comp_def, Nat.succ_eq_add_one, Nat.zero_add, Nat.add_assoc, Nat.add_comm 1]

theorem Chronicle.of_mem (h : Chronicle engine who id pass baseline proposed forced session rounds
    record session') :
    ∀ visit ∈ rounds.flatten, visit.id = id ∧ visit.handler ∈ engine.registry.handlers E := by
  induction h with
  | settled => exact fun _ hmem => absurd hmem List.not_mem_nil
  | passed _ hround _ ih =>
    refine List.forall_mem_append.2 ⟨fun visit hmem => ?_, ih⟩
    obtain ⟨hsetting, hhandler⟩ := hround.of_mem hmem
    exact ⟨congrArg (·.id) hsetting, hhandler⟩

end

/-- Passes that come to a record have a chronicle, and their story is that of its visits. -/
theorem runFrom_chronicled (id : String) (pass : Nat) (baseline proposed : Record E)
    (queue : DeferredWork σ) (forced : Bool) (left : Nat) (s : Scope β σ) :
    Comes engine (runFrom engine id pass baseline proposed queue forced left) s
      fun story out session => ∃ rounds : List (List (Visit β σ E)),
        Chronicle engine s.session.holder id pass baseline proposed forced s.session rounds
          out.record session ∧ out.passes = pass + rounds.length ∧
            iterations E.name id pass (rounds.map storyOf) = story := by
  induction left generalizing pass baseline proposed queue forced s with
  | zero =>
    cases hdue : due baseline proposed forced with
    | false =>
      rw [runFrom_of_not_due hdue]
      exact .pure ⟨[], .settled hdue, rfl, rfl⟩
    | true =>
      rw [runFrom_zero hdue]
      exact .throw
  | succ left ih =>
    cases hdue : due baseline proposed forced with
    | false =>
      rw [runFrom_of_not_due hdue]
      exact .pure ⟨[], .settled hdue, rfl, rfl⟩
    | true =>
      rw [runFrom_succ hdue]
      have hpass : Comes engine (nextPass engine id pass baseline proposed queue) s
          fun story out session => ∃ visits : List (Visit β σ E),
            Round s.session.holder ⟨id, pass + 1, baseline, proposed⟩ (engine.registry.handlers E)
              proposed s.session visits out.1 session ∧
                iterations E.name id pass [storyOf visits] = story := by
        refine .withSpan _ ((dispatchAll_visited ⟨id, pass + 1, baseline, proposed⟩ _ proposed queue
          s).mono ?_)
        rintro told out session ⟨visits, hround, rfl⟩
        exact ⟨visits, hround, rfl⟩
      refine hpass.bind ?_
      rintro _ ⟨after, queue'⟩ s' hholder ⟨visits, hround, rfl⟩
      refine (ih (pass + 1) proposed after queue' false s').mono ?_
      rintro later out session ⟨rounds, hchronicle, hpasses, rfl⟩
      rw [hholder] at hchronicle
      refine ⟨visits :: rounds, .passed hdue hround hchronicle, ?_, ?_⟩
      · rw [hpasses, List.length_cons]
        omega
      · simp only [List.map_cons, iterations, Story.span_append, Story.nil_append]

end Convergence

end RecordEngine
