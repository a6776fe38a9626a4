import RecordEngine.Proofs.Audit.Halves
import RecordEngine.Proofs.Session.Behaves
/-!
Sessions that share a store.

The operations of a session are many calls of the store, and between any two of them other sessions
may make theirs. What one session does in such a run is what it does when the store answers as it
did in the run, so a run is given by the calls in the order in which they reach the store, and each
session has to be found in it: played against its own part of the answers, it makes just the calls
of its part. A part may end in the middle of an operation, and commits may be caught between their
halves (`Ledger`), so every state that the sessions can reach together is the state after some run.
-/

set_option autoImplicit false

namespace RecordEngine

variable {β σ : Type}

/-! ## Playing from a script -/

/-- What a call is answered that the script has no answer for. -/
def offScript : Failure := .execution "not in the script"

/-- A backend that gives the answers of a script as long as it is asked the questions of the script.
It goes silent when it is asked anything else. -/
def Backend.scripted : Backend (Option (List Event)) where
  call c script :=
    match script with
    | some (e :: rest) =>
      if h : e.call = c then (h ▸ e.answer, some rest) else (.error offScript, none)
    | some [] => (.error offScript, some [])
    | none => (.error offScript, none)
  announce _ script := (.ok (), script)

/-- A question is the next one of the script, or it is answered with a failure and no script is
left. -/
theorem Backend.scripted_cases (c : Call) (script : Option (List Event)) :
    (∃ answer rest, script = some (⟨c, answer⟩ :: rest) ∧
        scripted.call c script = (answer, some rest)) ∨
      ∃ left, scripted.call c script = (.error offScript, left) ∧
        ∀ events, left = some events → events = [] ∧ script = some [] := by
  match script with
  | none => exact .inr ⟨none, rfl, fun _ hleft => by cases hleft⟩
  | some [] => exact .inr ⟨some [], rfl, fun _ hleft => ⟨(Option.some.inj hleft).symm, rfl⟩⟩
  | some (e :: rest) =>
    by_cases hcall : e.call = c
    · subst hcall
      exact .inl ⟨e.answer, rest, rfl, dif_pos rfl⟩
    · exact .inr ⟨none, dif_neg hcall, fun _ hleft => by cases hleft⟩

/-- Whoever has come to the end of a script has made the calls of the script before all others. -/
theorem Backend.Serves.script {script script' : Option (List Event)} {es : List Event}
    (h : Backend.scripted.Serves script es script') (hend : script' = some []) :
    ∃ played rest, script = some played ∧ es = played ++ rest := by
  induction h with
  | nil => exact ⟨[], [], hend, rfl⟩
  | announce notice b b' events hrest ih => exact ih hend
  | call c b b' rest hrest ih =>
    obtain ⟨played, rest', hplayed, rfl⟩ := ih hend
    rcases scripted_cases c b with ⟨answer, events, rfl, hcall⟩ | ⟨left, hcall, hleft⟩
    · rw [hcall] at hplayed ⊢
      obtain rfl := Option.some.inj hplayed
      exact ⟨⟨c, answer⟩ :: events, rest', rfl, rfl⟩
    · rw [hcall] at hplayed ⊢
      obtain ⟨rfl, rfl⟩ := hleft _ hplayed
      exact ⟨[], _, rfl, rfl⟩

/-- A call that is answered with success from a script is there with its answer. -/
theorem Backend.Serves.mem_script {script script' : Option (List Event)} {es : List Event}
    (h : Backend.scripted.Serves script es script') {e : Event} (he : e ∈ es)
    (hok : e.succeeded = true) : ∃ events, script = some events ∧ e ∈ events := by
  induction h with
  | nil => cases he
  | announce notice b b' events hrest ih => exact ih he
  | call c b b' rest hrest ih =>
    rcases scripted_cases c b with ⟨answer, events, rfl, hcall⟩ | ⟨left, hcall, hleft⟩
    · rw [hcall] at he ih
      refine ⟨⟨c, answer⟩ :: events, rfl, ?_⟩
      rcases List.mem_cons.1 he with rfl | he
      · exact List.mem_cons_self
      · obtain ⟨events', hevents, hmem⟩ := ih he
        obtain rfl := Option.some.inj hevents
        exact List.mem_cons_of_mem _ hmem
    · rw [hcall] at he ih
      rcases List.mem_cons.1 he with rfl | he
      · cases hok
      · obtain ⟨events, hevents, hmem⟩ := ih he
        obtain ⟨rfl, -⟩ := hleft _ hevents
        cases hmem

/-- At the end of a script it stays there. -/
theorem Backend.Serves.script_nil {script script' : Option (List Event)} {es : List Event}
    (h : Backend.scripted.Serves script es script') (hend : script = some []) :
    script' = some [] := by
  induction h with
  | nil => exact hend
  | announce notice b b' events hrest ih => exact ih hend
  | call c b b' rest hrest ih =>
    subst hend
    exact ih rfl

/-- The engine with a script for a store. -/
def Engine.onScript (engine : Engine β σ) : Engine (Option (List Event)) σ where
  registry := engine.registry
  backend := .scripted
  config := engine.config
  nesting := engine.nesting

/-! ## The life of a session -/

/-- The world apart from the store: it may be any whenever an operation begins. -/
abbrev Outside (σ : Type) := World Unit σ

/-- The world outside with the store in some state. -/
def Outside.on (outside : Outside σ) (backend : β) : World β σ where
  backend
  trace := outside.trace
  clock := outside.clock
  ids := outside.ids
  host := outside.host

/-- Work that a session performs, and what is outside when it does. -/
structure Visit (σ : Type) where
  outside : Outside σ
  work : SessionWork σ Unit

/-- How a session ends. -/
inductive Ending where
  | commit
  | rollback

/-- The call that ends a session. -/
def Ending.call (tx : TxId) : Ending → Call
  | .commit => .commit tx
  | .rollback => .rollback tx

/-- What is done with a session from the beginning to the end. -/
structure Life (σ : Type) where
  outside : Outside σ
  actor : Actor
  options : Options
  visits : List (Visit σ)
  ending : Ending

/-- A session performs a piece of work. -/
def Visit.perform (engine : Engine β σ) (visit : Visit σ) (session : Session) (backend : β) :
    Session × β :=
  let (_, s) := (Session.perform engine visit.work).run ⟨visit.outside.on backend, session⟩
  (s.session, s.world.backend)

def Visit.performAll (engine : Engine β σ) : List (Visit σ) → Session → β → Session × β
  | [], session, backend => (session, backend)
  | visit :: rest, session, backend =>
    let (session, backend) := visit.perform engine session backend
    performAll engine rest session backend

namespace Life

/-- The backend after the session was opened, performed its work and ended. -/
def play (engine : Engine β σ) (life : Life σ) (backend : β) : β :=
  match (engine.begin life.actor life.options).run (life.outside.on backend) with
  | (.error _, w) => w.backend
  | (.ok session, w) =>
    let (session, backend) := Visit.performAll engine life.visits session w.backend
    match life.ending with
    | .commit => ((engine.commit session).run (life.outside.on backend)).2.backend
    | .rollback => ((engine.rollback session).run (life.outside.on backend)).2.backend

/-- A session goes on, once opened, with its work and ends with one call. -/
theorem play_eq (engine : Engine β σ) (life : Life σ) (backend : β) :
    life.play engine backend =
      match engine.backend.call .begin backend with
      | (.error _, backend) => backend
      | (.ok tx, backend) =>
        let (session, backend) :=
          Visit.performAll engine life.visits (Session.start tx life.actor life.options) backend
        (engine.backend.call (life.ending.call session.tx) backend).2 := by
  rw [play, Engine.begin_run]
  have houtside : (life.outside.on backend).backend = backend := rfl
  rw [houtside]
  generalize engine.backend.call .begin backend = answered
  obtain ⟨answer, opened⟩ := answered
  cases answer with
  | error failure => rfl
  | ok tx => cases hending : life.ending <;> rfl

/-- The events are what the session does, up to some point, when the store answers as they say. -/
def Plays (engine : Engine β σ) (life : Life σ) (events : List Event) : Prop :=
  life.play engine.onScript (some events) = some []

/-- All work of the session behaves. -/
def Behaves (types : EntityType → Prop) (life : Life σ) : Prop :=
  ∀ visit ∈ life.visits, visit.work.run.Behaves types

end Life

section
variable {engine : Engine β σ} {types : EntityType → Prop}

theorem Visit.performAll_obedient (hengine : engine.Behaves types) (hannounce : engine.Announces)
    {visits : List (Visit σ)} (h : ∀ visit ∈ visits, visit.work.run.Behaves types) {mode : Mode}
    (hmode : mode.due = []) (session : Session) (backend : β) :
    (performAll engine visits session backend).1.holder = session.holder ∧ ∃ es,
      engine.backend.Serves backend es (performAll engine visits session backend).2 ∧
      ∃ mode', mode'.due = [] ∧ Mode.Steps types session.tx mode es mode' := by
  induction visits generalizing mode session backend with
  | nil => exact ⟨rfl, [], .nil _, mode, hmode, .nil mode⟩
  | cons visit rest ih =>
    obtain ⟨hwho, es, hserves, mode', hmode', hsteps⟩ :=
      Session.perform_obedient hengine hannounce (h visit List.mem_cons_self) mode hmode
        ⟨visit.outside.on backend, session⟩ rfl
    obtain ⟨hwho', es', hserves', mode'', hmode'', hsteps'⟩ :=
      ih (fun other hother => h other (List.mem_cons_of_mem _ hother)) hmode'
        (visit.perform engine session backend).1 (visit.perform engine session backend).2
    have htx : (visit.perform engine session backend).1.tx = session.tx := congrArg Holder.tx hwho
    rw [htx] at hsteps'
    exact ⟨hwho'.trans hwho, _, hserves.append hserves', mode'', hmode'', hsteps.append hsteps'⟩

theorem Ending.step (ending : Ending) (types : EntityType → Prop) {tx : TxId} {mode : Mode}
    (hmode : mode.due = []) (answer : Except Failure (ending.call tx).Answer) :
    ∃ mode', Mode.Step types tx mode ⟨ending.call tx, answer⟩ mode' := by
  cases ending with
  | commit => exact ⟨.idle, .committed mode hmode answer⟩
  | rollback => exact ⟨mode, .read mode _ rfl⟩

/-- The calls of a session obey the protocol. -/
theorem Life.play_obeys (hengine : engine.Behaves types) (hannounce : engine.Announces)
    {life : Life σ} (h : life.Behaves types) (backend : β) :
    ∃ es, engine.backend.Serves backend es (life.play engine backend) ∧ Obeys types es := by
  rw [play_eq]
  -- Whatever comes after the opening is put behind its event.
  have hcall : ∀ es b', engine.backend.Serves (engine.backend.call .begin backend).2 es b' →
      engine.backend.Serves backend (⟨.begin, (engine.backend.call .begin backend).1⟩ :: es) b' :=
    fun es b' hserves => .call .begin backend b' es hserves
  generalize engine.backend.call .begin backend = answered at hcall
  obtain ⟨answer, opened⟩ := answered
  cases answer with
  | error failure => exact ⟨_, hcall [] opened (.nil opened), .unopened failure⟩
  | ok tx =>
    have hidle : Mode.idle.due = [] := rfl
    obtain ⟨hwho, es, hserves, mode, hmode, hsteps⟩ := Visit.performAll_obedient hengine hannounce h
      hidle (Session.start tx life.actor life.options) opened
    dsimp only
    generalize Visit.performAll engine life.visits (Session.start tx life.actor life.options)
      opened = out at hwho hserves ⊢
    obtain ⟨session, ended⟩ := out
    obtain rfl : session.tx = tx := congrArg Holder.tx hwho
    obtain ⟨mode', hstep⟩ := life.ending.step types hmode
      (engine.backend.call (life.ending.call session.tx) ended).1
    exact ⟨_, hcall _ _ (hserves.append (.call _ _ _ [] (.nil _))),
      .opened session.tx _ mode' (hsteps.append hstep.single)⟩

/-- A session may do nothing. -/
theorem Life.plays_nil (hengine : engine.Behaves types) {life : Life σ} (h : life.Behaves types) :
    life.Plays engine [] := by
  have hscript : engine.onScript.Behaves types := hengine
  -- A script at its end answers everything the session may try with a failure, and stays there.
  obtain ⟨es, hserves, -⟩ := Life.play_obeys hscript (fun _ _ => rfl) h (some [])
  exact hserves.script_nil rfl

/-- A session found in a run obeys the protocol there. -/
theorem Life.Plays.obeys (hengine : engine.Behaves types) {life : Life σ}
    (h : life.Behaves types) {events : List Event} (hplays : life.Plays engine events) :
    Obeys types events := by
  have hscript : engine.onScript.Behaves types := hengine
  obtain ⟨es, hserves, hobeys⟩ := Life.play_obeys hscript (fun _ _ => rfl) h (some events)
  -- The session may try more than the run has room for; what it was answered in the run is a prefix
  -- of what it tried.
  obtain ⟨played, rest, hplayed, rfl⟩ := hserves.script hplays
  obtain rfl := Option.some.inj hplayed
  exact hobeys.of_append

/-- **The audit log is complete.** Let any number of sessions of an engine share a store, their
calls interleaved in any way and their commits seen half done. If rows and audit records are staged
only by creates and saves, then after any run the audit records of every committed row, in the order
in which they were published, are one create and then updates that replay to the row, each listing
as old the values replayed so far. The log has these records but for those that commits under way
still owe, and in this order unless a commit of the row was overtaken by a later one on the way to
the log. Names are taken to mean what they say: that of the entity type tells it from the others in
use, and those of its fields are distinct. -/
theorem auditTrail_of_interleaved (engine : Engine β σ) (types : EntityType → Prop)
    (hengine : engine.Behaves types) (lives : Nat → Life σ)
    (hlives : ∀ i, (lives i).Behaves types) (beats : List Beat)
    (hplays : ∀ i, (lives i).Plays engine (Ledger.empty.part i beats)) (E : EntityType)
    (hnodup : (E.schema.fields.map (·.name)).Nodup)
    (hnames : ∀ F, types F → F.name = E.name → F = E)
    (id : String) (row : Row)
    (hrow : (Ledger.empty.run beats).store.committedRow? ⟨E.name, id⟩ = some row) :
    AuditTrail E (auditsOf ⟨E.name, id⟩ (Ledger.empty.run beats).published) row ∧
      (auditsOf ⟨E.name, id⟩ (Ledger.empty.run beats).published).Perm
        (auditsOf ⟨E.name, id⟩ (Ledger.empty.run beats).store.audits ++
          auditsOf ⟨E.name, id⟩ (Ledger.empty.run beats).due) ∧
      (Ledger.empty.Orderly ⟨E.name, id⟩ beats →
        auditsOf ⟨E.name, id⟩ (Ledger.empty.run beats).published =
          auditsOf ⟨E.name, id⟩ (Ledger.empty.run beats).store.audits ++
            auditsOf ⟨E.name, id⟩ (Ledger.empty.run beats).due) := by
  have htrail : AuditTrail E (auditsOf (E.key id) (Ledger.empty.run beats).published) row :=
    Ledger.auditTrail_of_obeys hnames hnodup beats
      (fun i => (hplays i).obeys hengine (hlives i)) hrow
  exact ⟨htrail, Ledger.auditsOf_published beats (E.key id)⟩

end

/-! ## Two sessions and a note -/

def noteType : EntityType where
  name := "note"
  fields := [{ name := "id", role := some .identifier, type := .text },
    { name := "text", type := .text }]

def noteEngine : Engine Memory Unit where
  registry := .empty
  backend := .memory
  config := {}
  nesting := 0

/-- Memory, and a notifier that never gets through. -/
def Backend.unheard : Backend Memory :=
  { Backend.memory with
    announce := fun _ memory => (.error (.execution "nobody listens"), memory) }

theorem new_ne_empty : "new" ≠ "" := by decide

def noteOutside : Outside Unit where
  backend := ()
  trace := .numbering 0
  clock := .ofNanos
  ids _ := ⟨"new", new_ne_empty⟩
  host := ()

def note (text : String) : Record noteType := ⟨[.text "a", .text text], ⟨rfl, rfl, trivial⟩⟩

/-- Ann creates the note, and Bob, and whoever else comes, changes its text. -/
def noteLife (i : Nat) : Life Unit where
  outside := noteOutside
  actor := .ofId (if i = 0 then "ann" else "bob")
  options := {}
  visits :=
    [⟨noteOutside, do
      let _ ← if i = 0 then SessionWork.create noteType (note "one")
        else SessionWork.save noteType (note "two")⟩]
  ending := .commit

/-- Bob's session is open while Ann's is at work, and reads the note before Ann's commit is done. -/
def noteBeats : List Beat :=
  let key : RowKey := ⟨"note", "a"⟩
  [.call 0 .begin, .call 1 .begin, .call 0 (.insert ⟨1⟩ key [.text "a", .text "one"]),
    .call 0 (.audit ⟨1⟩ ⟨"ann", "ann", .create, "note", "a",
      ⟨[⟨"id", none, .text "a"⟩, ⟨"text", none, .text "one"⟩]⟩⟩),
    .call 0 (.fetch ⟨1⟩ key), .call 0 (.commit ⟨1⟩), .call 1 (.fetch ⟨2⟩ key), .append ⟨1⟩,
    .call 1 (.update ⟨2⟩ key [(1, .text "two")]),
    .call 1 (.audit ⟨2⟩ ⟨"bob", "bob", .update, "note", "a",
      ⟨[⟨"text", some (.text "one"), .text "two"⟩]⟩⟩),
    .call 1 (.fetch ⟨2⟩ key), .call 1 (.commit ⟨2⟩)]

theorem noteEngine_behaves (types : EntityType → Prop) : noteEngine.Behaves types :=
  fun _ _ h => by cases h

theorem noteLife_behaves (i : Nat) : (noteLife i).Behaves (· = noteType) := by
  intro visit hvisit
  obtain rfl := List.mem_singleton.1 hvisit
  by_cases hi : i = 0
  · subst hi
    refine ⟨rfl, fun answer => ?_⟩
    cases answer <;> trivial
  · simp only [hi, if_false]
    refine ⟨rfl, fun answer => ?_⟩
    cases answer <;> trivial

theorem noteLife_plays (i : Nat) :
    (noteLife i).Plays noteEngine (Ledger.empty.part i noteBeats) := by
  match i with
  | 0 => rfl
  | 1 => rfl
  | i + 2 =>
    have hpart : Ledger.empty.part (i + 2) noteBeats = [] := by simp [noteBeats, Ledger.part]
    rw [hpart]
    exact Life.plays_nil (noteEngine_behaves _) (noteLife_behaves _)

/-- Bob's record is owed, and the log and what is owed tell how the note came about. -/
theorem auditTrail_of_noteBeats :
    (Ledger.empty.run noteBeats).store.committedRow? ⟨"note", "a"⟩ =
        some [.text "a", .text "two"] ∧
      AuditTrail noteType
        (auditsOf ⟨"note", "a"⟩ (Ledger.empty.run noteBeats).store.audits ++
          auditsOf ⟨"note", "a"⟩ (Ledger.empty.run noteBeats).due)
        [.text "a", .text "two"] := by
  have hrow : (Ledger.empty.run noteBeats).store.committedRow? ⟨"note", "a"⟩ =
      some [.text "a", .text "two"] := rfl
  have horder : Ledger.empty.Orderly ⟨"note", "a"⟩ noteBeats := ⟨.inr rfl, trivial⟩
  obtain ⟨htrail, -, hinOrder⟩ := auditTrail_of_interleaved noteEngine (· = noteType)
    (noteEngine_behaves _) noteLife noteLife_behaves noteBeats noteLife_plays noteType
    (Schema.nodup_of_validate rfl) (fun _ hF _ => hF) "a" _ hrow
  exact ⟨hrow, hinOrder horder ▸ htrail⟩

/-- Bob gets hold of the log before Ann, whose commit came first. -/
def overtakenBeats : List Beat := noteBeats.erase (.append ⟨1⟩) ++ [.append ⟨2⟩, .append ⟨1⟩]

/-- Ann creates a record. -/
def annCreates {E : EntityType} (record : Record E) : Life Unit where
  outside := noteOutside
  actor := .ofId "ann"
  options := {}
  visits :=
    [⟨noteOutside, do
      let _ ← SessionWork.create E record⟩]
  ending := .commit

theorem annCreates_behaves {E : EntityType} (record : Record E) :
    (annCreates record).Behaves (· = E) := by
  intro visit hvisit
  obtain rfl := List.mem_singleton.1 hvisit
  refine ⟨rfl, fun answer => ?_⟩
  cases answer <;> trivial

/-- A type with two fields of one name. -/
def pairType : EntityType where
  name := "pair"
  fields := [{ name := "id", role := some .identifier, type := .text },
    { name := "n", type := .int64 }, { name := "n", role := some .version, type := .int64 }]

def pairLife : Life Unit :=
  annCreates (E := pairType) ⟨[.text "a", .integer 0, .integer 0], ⟨rfl, rfl, rfl, trivial⟩⟩

def pairBeats : List Beat :=
  let key : RowKey := ⟨"pair", "a"⟩
  [.call 0 .begin, .call 0 (.insert ⟨1⟩ key [.text "a", .integer 0, .integer 1]),
    .call 0 (.audit ⟨1⟩ ⟨"ann", "ann", .create, "pair", "a",
      ⟨[⟨"id", none, .text "a"⟩, ⟨"n", none, .integer 1⟩]⟩⟩),
    .call 0 (.fetch ⟨1⟩ key), .call 0 (.commit ⟨1⟩), .append ⟨1⟩]

theorem pairLife_plays (i : Nat) : pairLife.Plays noteEngine (Ledger.empty.part i pairBeats) := by
  match i with
  | 0 => rfl
  | i + 1 =>
    have hpart : Ledger.empty.part (i + 1) pairBeats = [] := by simp [pairBeats, Ledger.part]
    rw [hpart]
    exact Life.plays_nil (noteEngine_behaves _) (annCreates_behaves _)

/-- The log alone need not tell how a row came about. A commit that was overtaken on the way to the
log leaves the update before the create, for good; and when two fields share a name, a replay gives
the one the value of the other. -/
theorem not_auditTrail_of_overtaken :
    ((∀ i, (noteLife i).Behaves (· = noteType) ∧
        (noteLife i).Plays noteEngine (Ledger.empty.part i overtakenBeats)) ∧
      (Ledger.empty.run overtakenBeats).owed = [] ∧
      (Ledger.empty.run overtakenBeats).store.committedRow? ⟨"note", "a"⟩ =
        some [.text "a", .text "two"] ∧
      ¬ AuditTrail noteType
        (auditsOf ⟨"note", "a"⟩ (Ledger.empty.run overtakenBeats).store.audits)
        [.text "a", .text "two"]) ∧
    (pairLife.Behaves (· = pairType) ∧
      (∀ i, pairLife.Plays noteEngine (Ledger.empty.part i pairBeats)) ∧
      (Ledger.empty.run pairBeats).owed = [] ∧
      (Ledger.empty.run pairBeats).store.committedRow? ⟨"pair", "a"⟩ =
        some [.text "a", .integer 0, .integer 1] ∧
      ¬ AuditTrail pairType (auditsOf ⟨"pair", "a"⟩ (Ledger.empty.run pairBeats).store.audits)
        [.text "a", .integer 0, .integer 1]) := by
  refine ⟨⟨fun i => ⟨noteLife_behaves i, noteLife_plays i⟩, rfl, rfl, fun htrail => ?_⟩,
    annCreates_behaves _, pairLife_plays, rfl, rfl, fun htrail => ?_⟩
  · obtain ⟨first, rest, hlog, hfirst, -⟩ := htrail.shape
    obtain ⟨rfl, -⟩ := List.cons.inj hlog
    cases hfirst
  · have hfield := htrail.replays.2 1
    revert hfield
    decide

end RecordEngine
