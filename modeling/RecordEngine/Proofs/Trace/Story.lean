import RecordEngine.Proofs.Trace.Told
/-!
Stories: what happens in the course of an operation, as a tree.

The entries that an operation tells its trace are a list, and so are the calls it makes; a list has
lost which of them belong together. A `Story` keeps it: a span stands with all that happens inside
it, and a piece of work that was put off stands with all it does from its start to its end. What a
story is made of can be found out from outside. `Story.play` acts its traced part out on a sink, and
`Story.Served` says that a backend answered its calls and announcements as told and that the host
went through the states that are told; `Plays` says of an operation in a scope that it does to any
sink, to the backend and to the host what some story does.

A sink that holds entries is told `Story.entries`. One that writes down what it is asked shows how
spans are entered and left: a story leaves them in the reverse order, because it has them one inside
the other.
-/

set_option autoImplicit false

namespace RecordEngine

variable {β σ α γ : Type}

/-- A call with its answer, and the backend around it. -/
structure Exchange (β : Type) where
  before : β
  call : Call
  answer : Except Failure call.Answer
  after : β

/-- On whose account a call is made. -/
inductive Caller where
  /-- The session's own, for a record of a type. -/
  | session (E : EntityType)
  /-- That of a handler or of deferred work, past the session. -/
  | program
  deriving DecidableEq, Repr

/-- What happens, one thing after another. -/
inductive Story (β σ : Type) where
  | nil
  /-- A span, and what happens until it is left. -/
  | span (event : TraceEvent) (inside rest : Story β σ)
  /-- An event that opens no span. -/
  | note (event : TraceEvent) (rest : Story β σ)
  | call (caller : Caller) (exchange : Exchange β) (rest : Story β σ)
  | announce (notice : Notice) (answer : Except Failure Unit) (rest : Story β σ)
  /-- The state of the host is changed from what it was. -/
  | host (state : σ) (change : σ → σ) (rest : Story β σ)
  /-- A handler puts work off. -/
  | putOff (label : String) (action : SessionWork σ Unit) (rest : Story β σ)
  /-- A piece of work that was put off, from its start to its end. -/
  | work (label : String) (action : SessionWork σ Unit) (inside rest : Story β σ)

namespace Story

/-- One story after another. -/
def append : Story β σ → Story β σ → Story β σ
  | nil, later => later
  | span event inside rest, later => span event inside (rest.append later)
  | note event rest, later => note event (rest.append later)
  | call caller exchange rest, later => call caller exchange (rest.append later)
  | announce notice answer rest, later => announce notice answer (rest.append later)
  | host state change rest, later => host state change (rest.append later)
  | putOff label action rest, later => putOff label action (rest.append later)
  | work label action inside rest, later => work label action inside (rest.append later)

instance : Append (Story β σ) := ⟨append⟩

@[simp] theorem nil_append (later : Story β σ) : nil ++ later = later := rfl

@[simp] theorem span_append (event : TraceEvent) (inside rest later : Story β σ) :
    span event inside rest ++ later = span event inside (rest ++ later) := rfl

@[simp] theorem note_append (event : TraceEvent) (rest later : Story β σ) :
    note event rest ++ later = note event (rest ++ later) := rfl

@[simp] theorem call_append (caller : Caller) (exchange : Exchange β) (rest later : Story β σ) :
    call caller exchange rest ++ later = call caller exchange (rest ++ later) := rfl

@[simp] theorem announce_append (notice : Notice) (answer : Except Failure Unit)
    (rest later : Story β σ) :
    announce notice answer rest ++ later = announce notice answer (rest ++ later) := rfl

@[simp] theorem host_append (state : σ) (change : σ → σ) (rest later : Story β σ) :
    host state change rest ++ later = host state change (rest ++ later) := rfl

@[simp] theorem putOff_append (label : String) (action : SessionWork σ Unit)
    (rest later : Story β σ) :
    putOff label action rest ++ later = putOff label action (rest ++ later) := rfl

@[simp] theorem work_append (label : String) (action : SessionWork σ Unit)
    (inside rest later : Story β σ) :
    work label action inside rest ++ later = work label action inside (rest ++ later) := rfl

@[simp] theorem append_nil (story : Story β σ) : story ++ nil = story := by
  induction story with
  | nil => rfl
  | span event inside rest _ ih => rw [span_append, ih]
  | note event rest ih => rw [note_append, ih]
  | call caller exchange rest ih => rw [call_append, ih]
  | announce notice answer rest ih => rw [announce_append, ih]
  | host state change rest ih => rw [host_append, ih]
  | putOff label action rest ih => rw [putOff_append, ih]
  | work label action inside rest _ ih => rw [work_append, ih]

theorem append_assoc (a b c : Story β σ) : a ++ b ++ c = a ++ (b ++ c) := by
  induction a with
  | nil => rfl
  | span event inside rest _ ih => simp only [span_append, ih]
  | note event rest ih => simp only [note_append, ih]
  | call caller exchange rest ih => simp only [call_append, ih]
  | announce notice answer rest ih => simp only [announce_append, ih]
  | host state change rest ih => simp only [host_append, ih]
  | putOff label action rest ih => simp only [putOff_append, ih]
  | work label action inside rest _ ih => simp only [work_append, ih]

/-! ## Work -/

/-- The work that was put off, in order. What the pieces of work put off in their turn is theirs. -/
def putOffs : Story β σ → List (String × SessionWork σ Unit)
  | nil => []
  | span _ inside rest => inside.putOffs ++ rest.putOffs
  | note _ rest => rest.putOffs
  | call _ _ rest => rest.putOffs
  | announce _ _ rest => rest.putOffs
  | host _ _ rest => rest.putOffs
  | putOff label action rest => (label, action) :: rest.putOffs
  | work _ _ _ rest => rest.putOffs

/-- The pieces of work that were run, in order, those inside others left aside. -/
def works : Story β σ → List (String × SessionWork σ Unit)
  | nil => []
  | span _ inside rest => inside.works ++ rest.works
  | note _ rest => rest.works
  | call _ _ rest => rest.works
  | announce _ _ rest => rest.works
  | host _ _ rest => rest.works
  | putOff _ _ rest => rest.works
  | work label action _ rest => (label, action) :: rest.works

@[simp] theorem putOffs_append (story later : Story β σ) :
    (story ++ later).putOffs = story.putOffs ++ later.putOffs := by
  induction story with
  | nil => rfl
  | span event inside rest _ ih => rw [span_append, putOffs, ih, putOffs, List.append_assoc]
  | note event rest ih => exact ih
  | call caller exchange rest ih => exact ih
  | announce notice answer rest ih => exact ih
  | host state change rest ih => exact ih
  | putOff label action rest ih => exact congrArg _ ih
  | work label action inside rest _ ih => exact ih

@[simp] theorem works_append (story later : Story β σ) :
    (story ++ later).works = story.works ++ later.works := by
  induction story with
  | nil => rfl
  | span event inside rest _ ih => rw [span_append, works, ih, works, List.append_assoc]
  | note event rest ih => exact ih
  | call caller exchange rest ih => exact ih
  | announce notice answer rest ih => exact ih
  | host state change rest ih => exact ih
  | putOff label action rest ih => exact ih
  | work label action inside rest _ ih => exact congrArg _ ih

/-! ## What a story has to do with -/

/-- Between two states, a backend gave the answers that a story tells of, and the host was in the
states that it tells of. -/
def Served (backend : Backend β) : Story β σ → β × σ → β × σ → Prop
  | nil, w, w' => w' = w
  | span _ inside rest, w, w'' => ∃ w', inside.Served backend w w' ∧ rest.Served backend w' w''
  | note _ rest, w, w' => rest.Served backend w w'
  | call _ exchange rest, w, w' =>
    exchange.before = w.1 ∧ backend.call exchange.call w.1 = (exchange.answer, exchange.after) ∧
      rest.Served backend (exchange.after, w.2) w'
  | announce notice answer rest, w, w' =>
    ∃ b, backend.announce notice w.1 = (answer, b) ∧ rest.Served backend (b, w.2) w'
  | host state change rest, w, w' => state = w.2 ∧ rest.Served backend (w.1, change w.2) w'
  | putOff _ _ rest, w, w' => rest.Served backend w w'
  | work _ _ inside rest, w, w'' => ∃ w', inside.Served backend w w' ∧ rest.Served backend w' w''

theorem served_append {backend : Backend β} {story later : Story β σ} {w w'' : β × σ} :
    (story ++ later).Served backend w w'' ↔
      ∃ w', story.Served backend w w' ∧ later.Served backend w' w'' := by
  induction story generalizing w with
  | nil => simp only [nil_append, Served, exists_eq_left]
  | span event inside rest _ ih =>
    simp only [span_append, Served, ih]
    grind
  | note event rest ih => exact ih
  | call caller exchange rest ih =>
    simp only [call_append, Served, ih]
    grind
  | announce notice answer rest ih =>
    simp only [announce_append, Served, ih]
    grind
  | host state change rest ih =>
    simp only [host_append, Served, ih]
    grind
  | putOff label action rest ih => exact ih
  | work label action inside rest _ ih =>
    simp only [work_append, Served, ih]
    grind

/-! ## Acting a story out -/

/-- The sink after what a story has for it. Spans are left as they close around what is inside. -/
def play : Story β σ → TraceSink → TraceSink
  | nil, sink => sink
  | span event inside rest, sink =>
    rest.play ((inside.play (sink.enter event).2).exit (sink.enter event).1)
  | note event rest, sink => rest.play (sink.add event)
  | call _ _ rest, sink => rest.play sink
  | announce _ _ rest, sink => rest.play sink
  | host _ _ rest, sink => rest.play sink
  | putOff _ _ rest, sink => rest.play sink
  | work _ _ inside rest, sink => rest.play (inside.play sink)

theorem play_append (story later : Story β σ) (sink : TraceSink) :
    (story ++ later).play sink = later.play (story.play sink) := by
  induction story generalizing sink with
  | nil => rfl
  | span event inside rest _ ih => exact ih _
  | note event rest ih => exact ih _
  | call caller exchange rest ih => exact ih _
  | announce notice answer rest ih => exact ih _
  | host state change rest ih => exact ih _
  | putOff label action rest ih => exact ih _
  | work label action inside rest _ ih => exact ih _

/-- The entries of a story: each has as its depth the number of spans it stands in. -/
def entries : Story β σ → List TraceEntry
  | nil => []
  | span event inside rest => TraceEntry.span event inside.entries ++ rest.entries
  | note event rest => ⟨event, 0, false, false⟩ :: rest.entries
  | call _ _ rest => rest.entries
  | announce _ _ rest => rest.entries
  | host _ _ rest => rest.entries
  | putOff _ _ rest => rest.entries
  | work _ _ inside rest => inside.entries ++ rest.entries

@[simp] theorem entries_append (story later : Story β σ) :
    (story ++ later).entries = story.entries ++ later.entries := by
  induction story with
  | nil => rfl
  | span event inside rest _ ih => rw [span_append, entries, ih, entries, List.append_assoc]
  | note event rest ih => exact congrArg _ ih
  | call caller exchange rest ih => exact ih
  | announce notice answer rest ih => exact ih
  | host state change rest ih => exact ih
  | putOff label action rest ih => exact ih
  | work label action inside rest _ ih => rw [work_append, entries, ih, entries, List.append_assoc]

/-- A sink that holds entries is told those of the story. -/
theorem play_eq_tell (story : Story β σ) {sink : TraceSink} (h : sink.Sound) :
    story.play sink = sink.tell story.entries := by
  induction story generalizing sink with
  | nil => rw [entries, TraceSink.tell_nil, play]
  | span event inside rest ihinside ihrest =>
    have hclosed : (inside.play (sink.enter event).2).exit (sink.enter event).1 =
        sink.tell (TraceEntry.span event inside.entries) := by
      rw [ihinside (h.enter event), TraceSink.exit_tell_enter h]
    rw [play, hclosed, ihrest (h.tell _), TraceSink.tell_append, entries]
  | note event rest ih =>
    rw [play, TraceSink.add_eq_tell h, ih (h.tell _), TraceSink.tell_append, entries]
    rfl
  | call caller exchange rest ih => exact ih h
  | announce notice answer rest ih => exact ih h
  | host state change rest ih => exact ih h
  | putOff label action rest ih => exact ih h
  | work label action inside rest ihinside ihrest =>
    rw [play, ihinside h, ihrest (h.tell _), TraceSink.tell_append, entries]

/-- No entry of a story is that of an open span. -/
theorem isOpen_of_mem_entries (story : Story β σ) :
    ∀ entry ∈ story.entries, entry.isOpen = false := by
  induction story with
  | nil => exact fun entry h => absurd h List.not_mem_nil
  | span event inside rest ihinside ihrest =>
    refine List.forall_mem_append.2 ⟨fun entry h => ?_, ihrest⟩
    rcases TraceEntry.mem_span.1 h with rfl | ⟨inner, hinner, rfl⟩
    · rfl
    · exact ihinside inner hinner
  | note event rest ih => exact List.forall_mem_cons.2 ⟨rfl, ih⟩
  | call caller exchange rest ih => exact ih
  | announce notice answer rest ih => exact ih
  | host state change rest ih => exact ih
  | putOff label action rest ih => exact ih
  | work label action inside rest ihinside ihrest =>
    exact List.forall_mem_append.2 ⟨ihinside, ihrest⟩

end Story

/-! ## What a sink is asked -/

namespace TraceCall

/-- Every span is left that was entered, the last one first. -/
inductive Nested : List TraceCall → Prop where
  | nil : Nested []
  | add (event : TraceEvent) {rest : List TraceCall} (hrest : Nested rest) :
    Nested (.add event :: rest)
  | span (event : TraceEvent) (span : Nat) {inside rest : List TraceCall}
    (hinside : Nested inside) (hrest : Nested rest) :
    Nested (.enter event span :: (inside ++ .exit span :: rest))

theorem Nested.append {a b : List TraceCall} (ha : Nested a) (hb : Nested b) :
    Nested (a ++ b) := by
  induction ha with
  | nil => exact hb
  | add event _ ih => exact .add event ih
  | span event span hinside _ _ ih =>
    rw [List.cons_append, List.append_assoc, List.cons_append]
    exact .span event span hinside ih

/-- How many spans are open as each event comes in, if so many are at the beginning. -/
def depths : Nat → List TraceCall → List Nat
  | _, [] => []
  | d, .enter _ _ :: rest => d :: depths (d + 1) rest
  | d, .exit _ :: rest => depths (d - 1) rest
  | d, .add _ :: rest => d :: depths d rest

/-- What is nested closes all it opens. -/
theorem Nested.depths_append {a : List TraceCall} (ha : Nested a) (d : Nat) (b : List TraceCall) :
    depths d (a ++ b) = depths d a ++ depths d b := by
  induction ha generalizing d b with
  | nil => rfl
  | add event _ ih => rw [List.cons_append, depths, depths, ih, List.cons_append]
  | span event span _ _ ihinside ihrest =>
    simp only [List.cons_append, List.append_assoc, depths, ihinside, Nat.add_sub_cancel, ihrest]

end TraceCall

/-- A sink that writes down what it is asked gets something nested from a story, and as each event
comes in so many spans are open as its entry has for its depth. -/
theorem Story.play_journal (story : Story β σ) (calls : List TraceCall) :
    ∃ told, story.play (.journal calls) = .journal (calls ++ told) ∧ TraceCall.Nested told ∧
      ∀ d, TraceCall.depths d told = story.entries.map (d + ·.depth) := by
  induction story generalizing calls with
  | nil => exact ⟨[], by rw [List.append_nil, play], .nil, fun d => rfl⟩
  | span event inside rest ihinside ihrest =>
    obtain ⟨inner, hinner, hnested, hdepths⟩ :=
      ihinside (calls ++ [.enter event calls.length])
    obtain ⟨later, hlater, hnested', hdepths'⟩ :=
      ihrest (calls ++ [.enter event calls.length] ++ inner ++ [.exit calls.length])
    refine ⟨.enter event calls.length :: (inner ++ .exit calls.length :: later), ?_,
      .span event calls.length hnested hnested', fun d => ?_⟩
    · change rest.play ((inside.play (.journal (calls ++ _))).exit calls.length) = _
      rw [hinner]
      change rest.play (.journal _) = _
      rw [hlater]
      simp only [List.append_assoc, List.cons_append, List.nil_append]
    · simp only [TraceCall.depths, hnested.depths_append, hdepths, Nat.add_sub_cancel, hdepths',
        entries, TraceEntry.span, List.cons_append, List.map_cons, List.map_append, List.map_map,
        Nat.add_zero, Function.comp_def, TraceEntry.deepen, Nat.add_assoc]
  | note event rest ih =>
    obtain ⟨later, hlater, hnested, hdepths⟩ := ih (calls ++ [.add event])
    refine ⟨.add event :: later, ?_, .add event hnested, fun d => ?_⟩
    · change rest.play (.journal _) = _
      rw [hlater, List.append_assoc, List.cons_append, List.nil_append]
    · rw [TraceCall.depths, hdepths, entries, List.map_cons, Nat.add_zero]
  | call caller exchange rest ih => exact ih calls
  | announce notice answer rest ih => exact ih calls
  | host state change rest ih => exact ih calls
  | putOff label action rest ih => exact ih calls
  | work label action inside rest ihinside ihrest =>
    obtain ⟨inner, hinner, hnested, hdepths⟩ := ihinside calls
    obtain ⟨later, hlater, hnested', hdepths'⟩ := ihrest (calls ++ inner)
    refine ⟨inner ++ later, ?_, hnested.append hnested', fun d => ?_⟩
    · rw [play, hinner, hlater, List.append_assoc]
    · rw [hnested.depths_append, hdepths, hdepths', entries, List.map_append]

/-! ## Operations -/

/-- What of the world a story has to do with besides the trace. -/
def World.around (w : World β σ) : β × σ := (w.backend, w.host)

namespace SessionM

variable {engine : Engine β σ} {who : Holder} {m : SessionM β σ α} {f : α → SessionM β σ γ}
  {s s' s'' : Scope β σ} {story later : Story β σ} {r : Except Failure α}

/-- What an operation comes to in a scope, where it ends but for the trace, and the story of its
run: what it does to any sink, and what it asks of the backend. -/
structure Plays (engine : Engine β σ) (m : SessionM β σ α) (s : Scope β σ) (story : Story β σ)
    (r : Except Failure α) (s' : Scope β σ) : Prop where
  run : ∀ sink : TraceSink, m.run (s.tracing sink) = (r, s'.tracing (story.play sink))
  served : story.Served engine.backend s.world.around s'.world.around
  holder : s'.session.holder = s.session.holder

/-- The run with the sink that the scope has. -/
theorem Plays.run_self (h : Plays engine m s story r s') :
    m.run s = (r, s'.tracing (story.play s.world.trace)) := h.run s.world.trace

theorem Plays.bind {a : α} {r : Except Failure γ} (h : Plays engine m s story (.ok a) s')
    (h' : Plays engine (f a) s' later r s'') : Plays engine (m >>= f) s (story ++ later) r s'' where
  run sink := by
    rw [run_bind, h.run sink, Story.play_append]
    exact h'.run _
  served := Story.served_append.2 ⟨_, h.served, h'.served⟩
  holder := h'.holder.trans h.holder

theorem Plays.bind_error {failure : Failure} (h : Plays engine m s story (.error failure) s') :
    Plays engine (m >>= f) s story (.error failure) s' where
  run sink := by rw [run_bind, h.run sink]
  served := h.served
  holder := h.holder

theorem Plays.withSpan (h : Plays engine m s story r s') (event : TraceEvent) :
    Plays engine (withSpan event m) s (.span event story .nil) r s' where
  run sink := by
    rw [withSpan_run, Scope.tracing_trace, Scope.tracing_tracing, h.run]
    rfl
  served := ⟨_, h.served, rfl⟩
  holder := h.holder

/-- What goes on with the answer of an operation, be it a failure. -/
theorem Plays.answered {k : Except Failure α → SessionM β σ γ} {r' : Except Failure γ}
    (h : Plays engine m s story r s') (h' : Plays engine (k r) s' later r' s'') :
    Plays engine (fun s => (k (m.run s).1).run (m.run s).2) s (story ++ later) r' s'' where
  run sink := by
    change (k (m.run (s.tracing sink)).1).run (m.run (s.tracing sink)).2 = _
    rw [h.run sink, Story.play_append]
    exact h'.run _
  served := Story.served_append.2 ⟨_, h.served, h'.served⟩
  holder := h'.holder.trans h.holder

/-- In the sessions of a holder, the story and the result of an operation are related. -/
def Accounts (engine : Engine β σ) (who : Holder) (m : SessionM β σ α)
    (A : Story β σ → Except Failure α → Prop) : Prop :=
  ∀ s : Scope β σ, s.session.holder = who →
    ∃ story r s', Plays engine m s story r s' ∧ A story r

variable {A A' : Story β σ → Except Failure α → Prop} {B : Story β σ → Except Failure γ → Prop}

theorem Accounts.mono (h : Accounts engine who m A) (hAA' : ∀ story r, A story r → A' story r) :
    Accounts engine who m A' := by
  intro s hs
  obtain ⟨story, r, s', hplays, hA⟩ := h s hs
  exact ⟨story, r, s', hplays, hAA' story r hA⟩

/-- One operation after another has the story of both. -/
theorem Accounts.bind (h : Accounts engine who m A)
    (herror : ∀ story failure, A story (.error failure) → B story (.error failure))
    (hok : ∀ story a, A story (.ok a) →
      Accounts engine who (f a) fun later r => B (story ++ later) r) :
    Accounts engine who (m >>= f) B := by
  intro s hs
  obtain ⟨story, r, s', hplays, hA⟩ := h s hs
  cases r with
  | error failure => exact ⟨story, _, s', hplays.bind_error, herror story failure hA⟩
  | ok a =>
    obtain ⟨later, r, s'', hplays', hB⟩ := hok story a hA s' (hplays.holder.trans hs)
    exact ⟨story ++ later, r, s'', hplays.bind hplays', hB⟩

/-- What an operation reads off its session. -/
theorem Accounts.read_bind {g : Session → α}
    (h : ∀ session : Session, session.holder = who → Accounts engine who (f (g session)) B) :
    Accounts engine who (SessionM.read (fun s => g s.session) >>= f) B := by
  intro s hs
  obtain ⟨story, r, s', hplays, hB⟩ := h s.session hs s hs
  exact ⟨story, r, s', ⟨hplays.run, hplays.served, hplays.holder⟩, hB⟩

theorem Accounts.withSpan (event : TraceEvent)
    (h : Accounts engine who m fun story r => A (.span event story .nil) r) :
    Accounts engine who (SessionM.withSpan event m) A := by
  intro s hs
  obtain ⟨story, r, s', hplays, hA⟩ := h s hs
  exact ⟨_, r, s', hplays.withSpan event, hA⟩

/-- An operation that is a piece of work put off. -/
theorem Accounts.work (label : String) (action : SessionWork σ Unit)
    (h : Accounts engine who m fun story r => A (.work label action story .nil) r) :
    Accounts engine who m A := by
  intro s hs
  obtain ⟨story, r, s', hplays, hA⟩ := h s hs
  exact ⟨.work label action story .nil, r, s', ⟨hplays.run, ⟨_, hplays.served, rfl⟩, hplays.holder⟩,
    hA⟩

/-- An operation of which there is nothing to tell. -/
theorem Accounts.silent
    (h : ∀ s : Scope β σ, ∃ (r : Except Failure α) (s' : Scope β σ),
      (∀ sink, m.run (s.tracing sink) = (r, s'.tracing sink)) ∧
        s'.world.around = s.world.around ∧ s'.session.holder = s.session.holder ∧ A .nil r) :
    Accounts engine who m A := by
  intro s _
  obtain ⟨r, s', hrun, haround, hholder, hA⟩ := h s
  exact ⟨.nil, r, s', ⟨hrun, haround, hholder⟩, hA⟩

theorem Accounts.ofExcept (result : Except Failure α) :
    Accounts engine who (SessionM.ofExcept result) fun story r => story = .nil ∧ r = result :=
  .silent fun s => ⟨result, s, fun _ => rfl, rfl, rfl, rfl, rfl⟩

theorem Accounts.pure {a : α} (h : A .nil (.ok a)) :
    Accounts engine who (Pure.pure a : SessionM β σ α) A :=
  .silent fun s => ⟨.ok a, s, fun _ => rfl, rfl, rfl, h⟩

theorem Accounts.throw {failure : Failure} (h : A .nil (.error failure)) :
    Accounts engine who (MonadExcept.throw failure : SessionM β σ α) A :=
  .silent fun s => ⟨.error failure, s, fun _ => rfl, rfl, rfl, h⟩

theorem Accounts.now :
    Accounts engine who SessionM.now fun story r => story = .nil ∧ ∃ time, r = .ok time :=
  .silent fun s =>
    ⟨(SessionM.now.run s).1, (SessionM.now.run s).2, fun _ => rfl, rfl, rfl, rfl, _, rfl⟩

theorem Accounts.newId :
    Accounts engine who SessionM.newId fun story r => story = .nil ∧ ∃ id, r = .ok id :=
  .silent fun s =>
    ⟨(SessionM.newId.run s).1, (SessionM.newId.run s).2, fun _ => rfl, rfl, rfl, rfl, _, rfl⟩

theorem Accounts.traceEvent (event : TraceEvent) :
    Accounts engine who (SessionM.traceEvent event) fun story r =>
      story = .note event .nil ∧ r = .ok () :=
  fun s _ => ⟨.note event .nil, .ok (), s, ⟨fun _ => rfl, rfl, rfl⟩, rfl, rfl⟩

/-- A call of the session's own. -/
theorem Accounts.call (E : EntityType) (stage : Stage) (c : Call) :
    Accounts engine who (SessionM.call engine stage c) fun story r =>
      ∃ (before after : β) (answer : Except Failure c.Answer),
        story = .call (.session E) ⟨before, c, answer, after⟩ .nil ∧
          r = answer.mapError (.persistence stage.label) := by
  intro s _
  refine ⟨_, _, ((SessionM.call engine stage c).run s).2, ⟨fun _ => rfl, ?_, rfl⟩,
    s.world.backend, (engine.backend.call c s.world.backend).2,
    (engine.backend.call c s.world.backend).1, rfl, rfl⟩
  exact ⟨rfl, rfl, rfl⟩

theorem Accounts.announce (notice : Notice) :
    Accounts engine who (SessionM.announce engine notice) fun story r =>
      ∃ answer, story = .announce notice answer .nil ∧
        r = answer.mapError (.persistence Stage.notify.label) := by
  intro s _
  refine ⟨_, _, ((SessionM.announce engine notice).run s).2, ⟨fun _ => rfl, ?_, rfl⟩,
    (engine.backend.announce notice s.world.backend).1, rfl, rfl⟩
  exact ⟨_, rfl, rfl⟩

end SessionM

end RecordEngine
